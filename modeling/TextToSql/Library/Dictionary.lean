import Mathlib.Data.List.Lookmap
import Mathlib.Data.List.Nodup
import Mathlib.Data.List.Perm.Basic
import Mathlib.Tactic

namespace TextToSql.Library.Dictionary

variable {κ α β γ : Type} [DecidableEq κ]

/-- Set the value of a key from the value that it had. -/
def upsert (f : Option α → α) (k : κ) : List (κ × α) → List (κ × α)
  | [] => [(k, f none)]
  | (j, a) :: rest => if k = j then (j, f (some a)) :: rest else (j, a) :: upsert f k rest

def keys (d : List (κ × α)) : List κ := d.map Prod.fst

def find (k : κ) (d : List (κ × α)) : Option α := d.lookup k

theorem lookup_cons (j k : κ) (a : α) (rest : List (κ × α)) :
    ((j, a) :: rest).lookup k = if k = j then some a else rest.lookup k := by
  rw [List.lookup_cons]
  by_cases h : k = j
  · simp [h]
  · rw [beq_false_of_ne h, if_neg h]

theorem lookup_upsert (f : Option α → α) (k j : κ) (d : List (κ × α)) :
    (upsert f k d).lookup j = if j = k then some (f (d.lookup k)) else d.lookup j := by
  induction d with
  | nil => rw [upsert, lookup_cons, List.lookup_nil, List.lookup_nil]
  | cons entry rest ih =>
    obtain ⟨i, a⟩ := entry
    rw [upsert, lookup_cons, lookup_cons]
    split
    · rename_i hk
      subst hk
      rw [lookup_cons]
      by_cases hj : j = k
      · rw [if_pos hj, if_pos hj]
      · rw [if_neg hj, if_neg hj, if_neg hj]
    · rename_i hk
      rw [lookup_cons, ih]
      by_cases hj : j = i
      · subst hj
        rw [if_pos rfl, if_pos rfl, if_neg (Ne.symm hk)]
      · rw [if_neg hj, if_neg hj]

omit [DecidableEq κ] in
@[simp] theorem keys_cons (k : κ) (a : α) (rest : List (κ × α)) :
    keys ((k, a) :: rest) = k :: keys rest := rfl

theorem keys_upsert (f : Option α → α) (k : κ) (d : List (κ × α)) :
    keys (upsert f k d) = if k ∈ keys d then keys d else keys d ++ [k] := by
  induction d with
  | nil => rfl
  | cons entry rest ih =>
    obtain ⟨i, a⟩ := entry
    rw [upsert]
    by_cases hk : k = i
    · simp [hk]
    · rw [if_neg hk, keys_cons, keys_cons, ih]
      by_cases hmem : k ∈ keys rest
      · rw [if_pos hmem, if_pos (List.mem_cons_of_mem i hmem)]
      · rw [if_neg hmem, if_neg (by simp [hk, hmem]), List.cons_append]

theorem nodup_upsert {f : Option α → α} {k : κ} {d : List (κ × α)} (h : (keys d).Nodup) :
    (keys (upsert f k d)).Nodup := by
  rw [keys_upsert]
  split
  · exact h
  · rename_i hk
    simp only [List.nodup_append, List.nodup_singleton, List.mem_singleton]
    exact ⟨h, trivial, fun a ha b hb ↦ by rintro rfl; exact hk (hb ▸ ha)⟩

theorem mem_keys_iff {k : κ} {d : List (κ × α)} : k ∈ keys d ↔ (d.lookup k).isSome := by
  induction d with
  | nil => simp [keys]
  | cons entry rest ih =>
    obtain ⟨i, a⟩ := entry
    rw [lookup_cons]
    split
    · rename_i hk
      simp [keys, hk]
    · rename_i hk
      rw [← ih]
      simp [keys, hk]

theorem mem_iff_lookup {k : κ} {a : α} {d : List (κ × α)} (h : (keys d).Nodup) :
    (k, a) ∈ d ↔ d.lookup k = some a := by
  induction d with
  | nil => simp
  | cons entry rest ih =>
    obtain ⟨i, b⟩ := entry
    obtain ⟨hi, hrest⟩ := List.nodup_cons.mp h
    rw [lookup_cons, List.mem_cons, ih hrest]
    split
    · rename_i hk
      subst hk
      constructor
      · rintro (heq | hmem)
        · rw [(Prod.mk.inj heq).2]
        · exact absurd (mem_keys_iff.mpr (Option.isSome_of_eq_some hmem)) hi
      · intro heq
        rw [Option.some.inj heq]
        exact .inl rfl
    · rename_i hk
      simp [hk]

theorem mem_upsert_iff {f : Option α → α} {k : κ} {entry : κ × α} {d : List (κ × α)}
    (h : (keys d).Nodup) : entry ∈ upsert f k d ↔
      entry = (k, f (d.lookup k)) ∨ entry.1 ≠ k ∧ entry ∈ d := by
  obtain ⟨j, a⟩ := entry
  rw [mem_iff_lookup (nodup_upsert h), lookup_upsert, mem_iff_lookup h]
  by_cases hj : j = k
  · simp [hj, eq_comm]
  · simp [hj]

/-- Dictionaries with the same values differ in their order only. -/
theorem perm_of_lookup {d d' : List (κ × α)} (h : (keys d).Nodup) (h' : (keys d').Nodup)
    (hsame : ∀ k, d.lookup k = d'.lookup k) : d.Perm d' := by
  refine (List.perm_ext_iff_of_nodup h.of_map h'.of_map).mpr fun entry ↦ ?_
  rw [mem_iff_lookup h, mem_iff_lookup h', hsame]

def collect (g : β → γ → β) (e : β) (items : List (κ × γ)) (d : List (κ × β)) : List (κ × β) :=
  items.foldl (fun d item ↦ upsert (fun b ↦ g (b.getD e) item.2) item.1 d) d

def valuesOf (k : κ) (items : List (κ × γ)) : List γ :=
  (items.filter (·.1 = k)).map Prod.snd

theorem valuesOf_cons_self (k : κ) (c : γ) (items : List (κ × γ)) :
    valuesOf k ((k, c) :: items) = c :: valuesOf k items := by
  simp [valuesOf]

theorem valuesOf_cons_of_ne {j k : κ} (h : j ≠ k) (c : γ) (items : List (κ × γ)) :
    valuesOf k ((j, c) :: items) = valuesOf k items := by
  simp [valuesOf, h]

theorem lookup_collect (g : β → γ → β) (e : β) (items : List (κ × γ)) (d : List (κ × β)) (k : κ) :
    (collect g e items d).lookup k =
      if valuesOf k items = [] then d.lookup k
      else some ((valuesOf k items).foldl g ((d.lookup k).getD e)) := by
  induction items generalizing d with
  | nil => simp [collect, valuesOf]
  | cons item items ih =>
    obtain ⟨j, c⟩ := item
    have hstep : collect g e ((j, c) :: items) d =
        collect g e items (upsert (fun b ↦ g (b.getD e) c) j d) := rfl
    rw [hstep, ih, lookup_upsert]
    by_cases hj : j = k
    · subst hj
      rw [valuesOf_cons_self, if_pos rfl, if_neg (List.cons_ne_nil _ _)]
      split
      · rename_i hnil
        rw [hnil]
        rfl
      · rfl
    · rw [valuesOf_cons_of_ne hj, if_neg (Ne.symm hj)]

theorem nodup_collect {g : β → γ → β} {e : β} {items : List (κ × γ)} {d : List (κ × β)}
    (h : (keys d).Nodup) : (keys (collect g e items d)).Nodup := by
  induction items generalizing d with
  | nil => exact h
  | cons item items ih => exact ih (nodup_upsert h)

theorem nodup_keys_collect (g : β → γ → β) (e : β) (items : List (κ × γ)) :
    (keys (collect g e items [])).Nodup := by
  apply nodup_collect
  exact List.nodup_nil

theorem mem_keys_collect {g : β → γ → β} {e : β} {items : List (κ × γ)} {k : κ} :
    k ∈ keys (collect g e items []) ↔ k ∈ items.map Prod.fst := by
  rw [mem_keys_iff, lookup_collect, List.lookup_nil]
  have hvalues : valuesOf k items = [] ↔ k ∉ items.map Prod.fst := by
    simp only [valuesOf, List.map_eq_nil_iff, List.filter_eq_nil_iff, decide_eq_true_eq,
      List.mem_map, not_exists, not_and]
  split
  · rename_i hnil
    simpa using hvalues.mp hnil
  · rename_i hne
    simpa using not_not.mp (mt hvalues.mpr hne)

end TextToSql.Library.Dictionary
