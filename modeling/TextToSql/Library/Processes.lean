import Mathlib.Data.List.Induction

namespace TextToSql.Library.Processes

variable {σ ι : Type}

/-- A process starts, or the process at a position gets an input. -/
inductive Move (σ ι : Type) where
  | spawn (process : σ)
  | deliver (id : ℕ) (input : ι)

def Move.inputFor (id : ℕ) : Move σ ι → Option ι
  | .spawn _ => none
  | .deliver j input => if j = id then some input else none

def inputs (id : ℕ) (moves : List (Move σ ι)) : List ι := moves.filterMap (·.inputFor id)

variable (step : σ → ι → σ)

def move (table : List σ) : Move σ ι → List σ
  | .spawn process => table ++ [process]
  | .deliver id input => table.modify id (step · input)

def moves (table : List σ) (ms : List (Move σ ι)) : List σ := ms.foldl (move step) table

variable {step} {table : List σ} {id : ℕ} {p : σ}

theorem getElem?_move (h : table[id]? = some p) (m : Move σ ι) :
    (move step table m)[id]? = some ((m.inputFor id).elim p (step p)) := by
  cases m with
  | spawn process =>
    obtain ⟨hid, rfl⟩ := List.getElem?_eq_some_iff.mp h
    rw [move, List.getElem?_append_left hid, h]
    rfl
  | deliver j input =>
    rw [move, List.getElem?_modify, h, Move.inputFor]
    by_cases hj : j = id
    · simp [hj]
    · simp [hj]

theorem getElem?_moves (h : table[id]? = some p) (ms : List (Move σ ι)) :
    (moves step table ms)[id]? = some ((inputs id ms).foldl step p) := by
  induction ms generalizing table p with
  | nil => exact h
  | cons m ms ih =>
    rw [moves, List.foldl_cons, ← moves, ih (getElem?_move h m), inputs, inputs,
      List.filterMap_cons]
    cases m.inputFor id <;> rfl

theorem moves_append (table : List σ) (ms ms' : List (Move σ ι)) :
    moves step table (ms ++ ms') = moves step (moves step table ms) ms' :=
  List.foldl_append

/-- Every process was started once, and is where its inputs since then have brought it. -/
theorem exists_spawn {ms : List (Move σ ι)} (h : (moves step [] ms)[id]? = some p) :
    ∃ before start after, ms = before ++ .spawn start :: after ∧
      (moves step [] before).length = id ∧ p = (inputs id after).foldl step start := by
  induction ms using List.reverseRecOn generalizing p with
  | nil => simp [moves] at h
  | append_singleton ms m ih =>
    rw [moves_append] at h
    by_cases hid : id < (moves step [] ms).length
    · have hold := List.getElem?_eq_getElem hid
      obtain ⟨before, start, after, rfl, hlength, hp⟩ := ih hold
      refine ⟨before, start, after ++ [m], by simp, hlength, ?_⟩
      rw [moves, List.foldl_cons, List.foldl_nil, getElem?_move hold m] at h
      rw [inputs, List.filterMap_append, List.foldl_append, ← inputs, ← hp,
        List.filterMap_cons, ← Option.some.inj h]
      cases m.inputFor id <;> rfl
    · cases m with
      | spawn start =>
        rw [moves, List.foldl_cons, List.foldl_nil, move, List.getElem?_append_right (by omega)] at h
        obtain ⟨hz, hs⟩ := List.getElem?_eq_some_iff.mp h
        have hlength : (moves step [] ms).length = id := by
          simp only [List.length_singleton] at hz
          omega
        refine ⟨ms, start, [], rfl, hlength, ?_⟩
        simpa [inputs] using hs.symm
      | deliver j input =>
        rw [moves, List.foldl_cons, List.foldl_nil, move, List.getElem?_modify] at h
        rw [List.getElem?_eq_none (by omega)] at h
        cases h

theorem countP_spawn (q : σ → Bool) (table : List σ) (p : σ) :
    (move step table (.spawn p)).countP q = table.countP q + if q p then 1 else 0 := by
  rw [move, List.countP_append, List.countP_singleton]

theorem countP_deliver (q : σ → Bool) (h : table[id]? = some p) (input : ι) :
    (move step table (.deliver id input)).countP q + (if q p then 1 else 0) =
      table.countP q + if q (step p input) then 1 else 0 := by
  obtain ⟨hid, hp⟩ := List.getElem?_eq_some_iff.mp h
  have htable : table.countP q =
      (table.take id).countP q + ((table.drop (id + 1)).countP q + if q p then 1 else 0) := by
    rw [← hp, ← List.countP_cons, ← List.drop_eq_getElem_cons hid, ← List.countP_append,
      List.take_append_drop]
  rw [move, List.modify_eq_take_cons_drop hid, List.countP_append, List.countP_cons, hp, htable]
  omega

end TextToSql.Library.Processes
