import Mathlib.Data.List.Forall2
import Mathlib.Data.List.Nodup

namespace TextToSql.Library.Backtracking

variable {κ α β : Type}

/-- A position in a text: what stands before it, read backwards, and what stands after it. -/
@[ext] structure Cursor (κ : Type) where
  before : List κ
  after : List κ
  deriving DecidableEq

def Cursor.position (c : Cursor κ) : ℕ := c.before.length

/-- Reading this text leads from one position to the other. -/
structure Reads (c : Cursor κ) (xs : List κ) (d : Cursor κ) : Prop where
  after : c.after = xs ++ d.after
  before : d.before = xs.reverse ++ c.before

theorem reads_nil {c d : Cursor κ} : Reads c [] d ↔ d = c := by
  constructor
  · intro h
    exact Cursor.ext h.before h.after.symm
  · rintro rfl
    exact ⟨rfl, rfl⟩

theorem reads_cons {c d : Cursor κ} {x : κ} {xs : List κ} :
    Reads c (x :: xs) d ↔ ∃ ys, c.after = x :: ys ∧ Reads ⟨x :: c.before, ys⟩ xs d := by
  constructor
  · intro h
    exact ⟨xs ++ d.after, h.after, rfl, by simp [h.before]⟩
  · rintro ⟨ys, hc, hafter, hbefore⟩
    exact ⟨by rw [hc, List.cons_append, ← hafter], by simp [hbefore]⟩

theorem Reads.append {c d e : Cursor κ} {xs ys : List κ} (h : Reads c xs d) (h' : Reads d ys e) :
    Reads c (xs ++ ys) e where
  after := by rw [h.after, h'.after, List.append_assoc]
  before := by simp [h'.before, h.before]

theorem Reads.length_le {c d : Cursor κ} {xs : List κ} (h : Reads c xs d) :
    xs.length ≤ c.after.length := by
  rw [h.after, List.length_append]
  omega

abbrev Matcher (κ α : Type) : Type := Cursor κ → List (α × Cursor κ)

namespace Matcher

def done (a : α) : Matcher κ α := fun c ↦ [(a, c)]

def seq (m : Matcher κ α) (f : α → Matcher κ β) : Matcher κ β := fun c ↦
  (m c).flatMap fun r ↦ f r.1 r.2

def oneOf (ms : List (Matcher κ α)) : Matcher κ α := fun c ↦ ms.flatMap fun m ↦ m c

def upTo (p : κ → Bool) : ℕ → Matcher κ (List κ)
  | 0, c => [([], c)]
  | n + 1, c =>
    match c.after with
    | [] => [([], c)]
    | x :: xs =>
      if p x then
        ((upTo p n ⟨x :: c.before, xs⟩).map fun r ↦ (x :: r.1, r.2)) ++ [([], c)]
      else [([], c)]

def oneUpTo (p : κ → Bool) (n : ℕ) : Matcher κ (List κ) := fun c ↦
  (upTo p n c).filter fun r ↦ !r.1.isEmpty

def many (p : κ → Bool) : Matcher κ (List κ) := fun c ↦ upTo p c.after.length c

def many1 (p : κ → Bool) : Matcher κ (List κ) := fun c ↦ oneUpTo p c.after.length c

def literal [DecidableEq κ] (xs : List κ) : Matcher κ (List κ) := fun c ↦
  if xs <+: c.after then [(xs, ⟨xs.reverse ++ c.before, c.after.drop xs.length⟩)] else []

def each : List (κ → Bool) → Matcher κ Unit
  | [], c => [((), c)]
  | p :: ps, c =>
    match c.after with
    | [] => []
    | x :: xs => if p x then each ps ⟨x :: c.before, xs⟩ else []

def lineStart (newline : κ → Bool) : Matcher κ Unit := fun c ↦
  if c.before.head?.all newline then [((), c)] else []

def boundary (isWord : κ → Bool) : Matcher κ Unit := fun c ↦
  if c.before.head?.any isWord = c.after.head?.any isWord then [] else [((), c)]

variable {c d : Cursor κ}

@[simp] theorem mem_done {a : α} {r : α × Cursor κ} : r ∈ done a c ↔ r = (a, c) := by
  simp [done]

@[simp] theorem mem_seq {m : Matcher κ α} {f : α → Matcher κ β} {r : β × Cursor κ} :
    r ∈ seq m f c ↔ ∃ a d, (a, d) ∈ m c ∧ r ∈ f a d := by
  simp [seq]

@[simp] theorem mem_oneOf {ms : List (Matcher κ α)} {r : α × Cursor κ} :
    r ∈ oneOf ms c ↔ ∃ m ∈ ms, r ∈ m c := by
  simp [oneOf]

@[simp] theorem mem_boundary {isWord : κ → Bool} {r : Unit × Cursor κ} :
    r ∈ boundary isWord c ↔ c.before.head?.any isWord ≠ c.after.head?.any isWord ∧ r = ((), c) := by
  rw [boundary]
  split <;> simp [*]

theorem mem_literal [DecidableEq κ] {xs ys : List κ} :
    (ys, d) ∈ literal xs c ↔ ys = xs ∧ Reads c xs d := by
  rw [literal]
  constructor
  · intro h
    split at h
    · rename_i hfront
      obtain ⟨rest, hrest⟩ := hfront
      obtain ⟨rfl, rfl⟩ := Prod.mk.inj (List.mem_singleton.mp h)
      exact ⟨rfl, by simp [← hrest], rfl⟩
    · cases h
  · rintro ⟨rfl, hafter, hbefore⟩
    have hd : d = ⟨ys.reverse ++ c.before, c.after.drop ys.length⟩ :=
      Cursor.ext hbefore (by simp [hafter])
    rw [if_pos ⟨d.after, hafter.symm⟩, ← hd]
    exact List.mem_singleton_self _

theorem nil_mem_upTo {p : κ → Bool} {n : ℕ} : ([], d) ∈ upTo p n c ↔ d = c := by
  cases n with
  | zero => simp [upTo]
  | succ n =>
    rw [upTo]
    split
    · simp
    · split <;> simp

theorem cons_mem_upTo {p : κ → Bool} {n : ℕ} {x : κ} {xs : List κ} :
    (x :: xs, d) ∈ upTo p (n + 1) c ↔
      ∃ ys, c.after = x :: ys ∧ p x = true ∧ (xs, d) ∈ upTo p n ⟨x :: c.before, ys⟩ := by
  rw [upTo]
  split
  · rename_i hnil
    simp [hnil]
  · rename_i y ys hcons
    rw [hcons]
    constructor
    · intro h
      split at h
      · rename_i hp
        obtain ⟨hmem, rfl⟩ : (xs, d) ∈ upTo p n ⟨y :: c.before, ys⟩ ∧ y = x := by simpa using h
        exact ⟨ys, rfl, hp, hmem⟩
      · simp at h
    · rintro ⟨zs, heq, hp, hmem⟩
      obtain ⟨rfl, rfl⟩ := List.cons.inj heq
      rw [if_pos hp]
      exact List.mem_append_left _ (List.mem_map.mpr ⟨(xs, d), hmem, rfl⟩)

theorem mem_upTo {p : κ → Bool} {n : ℕ} {xs : List κ} :
    (xs, d) ∈ upTo p n c ↔ xs.length ≤ n ∧ (∀ x ∈ xs, p x = true) ∧ Reads c xs d := by
  induction xs generalizing n c with
  | nil => simp [nil_mem_upTo, reads_nil]
  | cons x xs ih =>
    cases n with
    | zero => simp [upTo]
    | succ n =>
      rw [cons_mem_upTo, reads_cons]
      constructor
      · rintro ⟨ys, hc, hp, hmem⟩
        obtain ⟨hlength, hall, hreads⟩ := ih.mp hmem
        exact ⟨Nat.succ_le_succ hlength, List.forall_mem_cons.mpr ⟨hp, hall⟩, ys, hc, hreads⟩
      · rintro ⟨hlength, hall, ys, hc, hreads⟩
        obtain ⟨hp, hall⟩ := List.forall_mem_cons.mp hall
        exact ⟨ys, hc, hp, ih.mpr ⟨Nat.le_of_succ_le_succ hlength, hall, hreads⟩⟩

theorem mem_oneUpTo {p : κ → Bool} {n : ℕ} {xs : List κ} :
    (xs, d) ∈ oneUpTo p n c ↔
      xs ≠ [] ∧ xs.length ≤ n ∧ (∀ x ∈ xs, p x = true) ∧ Reads c xs d := by
  rw [oneUpTo, List.mem_filter, mem_upTo]
  simp [and_comm, and_left_comm]

theorem mem_many {p : κ → Bool} {xs : List κ} :
    (xs, d) ∈ many p c ↔ (∀ x ∈ xs, p x = true) ∧ Reads c xs d := by
  rw [many, mem_upTo]
  exact ⟨fun h ↦ h.2, fun h ↦ ⟨h.2.length_le, h⟩⟩

theorem mem_many1 {p : κ → Bool} {xs : List κ} :
    (xs, d) ∈ many1 p c ↔ xs ≠ [] ∧ (∀ x ∈ xs, p x = true) ∧ Reads c xs d := by
  rw [many1, mem_oneUpTo]
  exact ⟨fun h ↦ ⟨h.1, h.2.2⟩, fun h ↦ ⟨h.1, h.2.2.length_le, h.2⟩⟩

theorem mem_each {ps : List (κ → Bool)} {u : Unit} :
    (u, d) ∈ each ps c ↔ ∃ xs, List.Forall₂ (fun p x ↦ p x = true) ps xs ∧ Reads c xs d := by
  induction ps generalizing c with
  | nil => simp [each, reads_nil]
  | cons p ps ih =>
    rw [each]
    split
    · rename_i hnil
      refine iff_of_false List.not_mem_nil ?_
      rintro ⟨xs, hall, hreads⟩
      obtain ⟨x, xs, -, -, rfl⟩ := List.forall₂_cons_left_iff.mp hall
      rw [hreads.after] at hnil
      cases hnil
    · rename_i x rest hcons
      constructor
      · intro h
        split at h
        · rename_i hp
          obtain ⟨xs, hall, hreads⟩ := ih.mp h
          exact ⟨x :: xs, .cons hp hall, reads_cons.mpr ⟨rest, hcons, hreads⟩⟩
        · cases h
      · rintro ⟨xs, hall, hreads⟩
        obtain ⟨y, ys, hp, hys, rfl⟩ := List.forall₂_cons_left_iff.mp hall
        obtain ⟨zs, hzs, hreads⟩ := reads_cons.mp hreads
        rw [hcons] at hzs
        obtain ⟨rfl, rfl⟩ := List.cons.inj hzs
        rw [if_pos hp]
        exact ih.mpr ⟨ys, hys, hreads⟩

theorem mem_lineStart {newline : κ → Bool} {u : Unit} :
    (u, d) ∈ lineStart newline c ↔ c.before.head?.all newline = true ∧ d = c := by
  rw [lineStart]
  split <;> simp [*]

end Matcher

def cursors : List κ → List κ → List (Cursor κ)
  | before, [] => [⟨before, []⟩]
  | before, x :: xs => ⟨before, x :: xs⟩ :: cursors (x :: before) xs

/-- Where the matcher first succeeds, with the match that it prefers there. -/
def search (m : Matcher κ α) (text : List κ) : Option (Cursor κ × α × Cursor κ) :=
  (cursors [] text).findSome? fun c ↦ (m c).head?.map (c, ·)

def MatchesAt (m : Matcher κ α) (text : List κ) (c : Cursor κ) : Prop :=
  c ∈ cursors [] text ∧ m c ≠ []

theorem position_ge {before text : List κ} {c : Cursor κ} (h : c ∈ cursors before text) :
    before.length ≤ c.position := by
  induction text generalizing before with
  | nil =>
    rw [List.mem_singleton.mp h]
    exact Nat.le_refl _
  | cons x xs ih =>
    rcases List.mem_cons.mp h with rfl | h
    · exact Nat.le_refl _
    · exact Nat.le_trans (Nat.le_succ _) (ih h)

theorem cursors_pairwise (before text : List κ) :
    (cursors before text).Pairwise fun c d ↦ c.position < d.position := by
  induction text generalizing before with
  | nil => exact List.pairwise_singleton _ _
  | cons x xs ih =>
    rw [cursors, List.pairwise_cons]
    exact ⟨fun c hc ↦ position_ge hc, ih _⟩

theorem cursor_unique {text : List κ} {c d : Cursor κ} (hc : c ∈ cursors [] text)
    (hd : d ∈ cursors [] text) (h : c.position = d.position) : c = d := by
  have hnodup : ((cursors [] text).map Cursor.position).Nodup := by
    rw [List.Nodup, List.pairwise_map]
    exact (cursors_pairwise [] text).imp Nat.ne_of_lt
  exact List.inj_on_of_nodup_map hnodup hc hd h

theorem search_eq_none_iff {m : Matcher κ α} {text : List κ} :
    search m text = none ↔ ∀ c, ¬MatchesAt m text c := by
  simp [search, List.findSome?_eq_none_iff, MatchesAt]

theorem search_eq_some {m : Matcher κ α} {text : List κ} {c : Cursor κ} {r : α × Cursor κ}
    (h : search m text = some (c, r)) :
    MatchesAt m text c ∧ (m c).head? = some r ∧
      ∀ d, MatchesAt m text d → c.position ≤ d.position := by
  obtain ⟨front, e, rest, htext, hhead, hnone⟩ := List.findSome?_eq_some_iff.mp h
  obtain ⟨s, hs, heq⟩ := Option.map_eq_some_iff.mp hhead
  obtain ⟨rfl, rfl⟩ := Prod.mk.inj heq
  have hmem : e ∈ cursors [] text := by simp [htext]
  refine ⟨⟨hmem, fun hnil ↦ by simp [hnil] at hs⟩, hs, ?_⟩
  intro d hd
  have hsorted := cursors_pairwise ([] : List κ) text
  rw [htext, List.pairwise_append] at hsorted
  have hmemd := hd.1
  rw [htext, List.mem_append, List.mem_cons] at hmemd
  rcases hmemd with hfront | rfl | hrest
  · have := hnone d hfront
    exact absurd (by simpa using this) hd.2
  · exact Nat.le_refl _
  · exact Nat.le_of_lt (List.rel_of_pairwise_cons hsorted.2.1 hrest)

/-- A match that no match stands before is the one that a search finds. -/
theorem search_of_first {m : Matcher κ α} {text : List κ} {c : Cursor κ} {r : α × Cursor κ}
    (h : MatchesAt m text c) (hr : (m c).head? = some r)
    (hfirst : ∀ d, MatchesAt m text d → c.position ≤ d.position) : search m text = some (c, r) := by
  cases hsearch : search m text with
  | none => exact absurd h (search_eq_none_iff.mp hsearch c)
  | some found =>
    obtain ⟨d, s⟩ := found
    obtain ⟨hd, hs, hfirst'⟩ := search_eq_some hsearch
    obtain rfl := cursor_unique h.1 hd.1 (Nat.le_antisymm (hfirst d hd) (hfirst' c h))
    rw [hr] at hs
    cases hs
    rfl

def substitute (m : Matcher κ α) (f : List κ → List κ) :
    List κ → List κ → ℕ → List κ
  | _, [], _ => []
  | before, x :: xs, skip + 1 => substitute m f (x :: before) xs skip
  | before, x :: xs, 0 =>
    match (m ⟨before, x :: xs⟩).head? with
    | none => x :: substitute m f (x :: before) xs 0
    | some (_, d) =>
      match d.position - before.length with
      | 0 => x :: substitute m f (x :: before) xs 0
      | n + 1 => f ((x :: xs).take (n + 1)) ++ substitute m f (x :: before) xs n

end TextToSql.Library.Backtracking
