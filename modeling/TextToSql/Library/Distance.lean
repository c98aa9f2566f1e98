import Mathlib.Data.List.Chain
import Mathlib.Data.List.Duplicate
import Mathlib.Logic.Relation
import Mathlib.Tactic

namespace TextToSql.Library.Graphs

variable {α : Type} {E : α → α → Prop} {u v w : α} {n m : ℕ}

/-- So many edges lead from the one node to the other. -/
inductive Steps (E : α → α → Prop) (u : α) : ℕ → α → Prop
  | zero : Steps E u 0 u
  | succ {n : ℕ} {v w : α} : Steps E u n v → E v w → Steps E u (n + 1) w

theorem Steps.append (h : Steps E u n v) (h' : Steps E v m w) : Steps E u (n + m) w := by
  induction h' with
  | zero => exact h
  | succ _ hedge ih => exact .succ ih hedge

theorem Steps.cons (hedge : E u v) (h : Steps E v n w) : Steps E u (n + 1) w := by
  have := (Steps.succ .zero hedge).append h
  rwa [Nat.add_comm] at this

theorem Steps.symm (hE : ∀ u v, E u v → E v u) (h : Steps E u n v) : Steps E v n u := by
  induction h with
  | zero => exact .zero
  | succ _ hedge ih => exact .cons (hE _ _ hedge) ih

theorem Steps.imp {F : α → α → Prop} (hEF : ∀ u v, E u v → F u v) (h : Steps E u n v) :
    Steps F u n v := by
  induction h with
  | zero => exact .zero
  | succ _ hedge ih => exact .succ ih (hEF _ _ hedge)

theorem steps_zero : Steps E u 0 v ↔ v = u := by
  constructor
  · rintro ⟨⟩
    rfl
  · rintro rfl
    exact .zero

theorem steps_succ : Steps E u (n + 1) w ↔ ∃ v, Steps E u n v ∧ E v w := by
  constructor
  · rintro (_ | ⟨h, hedge⟩)
    exact ⟨_, h, hedge⟩
  · rintro ⟨v, h, hedge⟩
    exact .succ h hedge

theorem reachable_iff : Relation.ReflTransGen E u v ↔ ∃ n, Steps E u n v := by
  constructor
  · intro h
    induction h with
    | refl => exact ⟨0, .zero⟩
    | tail _ hedge ih =>
      obtain ⟨n, hn⟩ := ih
      exact ⟨n + 1, .succ hn hedge⟩
  · rintro ⟨n, h⟩
    induction h with
    | zero => exact .refl
    | succ _ hedge ih => exact ih.tail hedge

/-- The least number of edges from the one node to the other. -/
structure Distance (E : α → α → Prop) (u : α) (n : ℕ) (v : α) : Prop where
  steps : Steps E u n v
  least : ∀ m, Steps E u m v → n ≤ m

theorem Distance.unique (h : Distance E u n v) (h' : Distance E u m v) : n = m :=
  Nat.le_antisymm (h.least m h'.steps) (h'.least n h.steps)

theorem distance_self : Distance E u 0 u := ⟨.zero, fun _ _ ↦ Nat.zero_le _⟩

theorem Steps.exists_distance (h : Steps E u n v) : ∃ m ≤ n, Distance E u m v := by
  classical
  have hex : ∃ m, Steps E u m v := ⟨n, h⟩
  exact ⟨Nat.find hex, Nat.find_le h, Nat.find_spec hex, fun m hm ↦ Nat.find_le hm⟩

theorem Distance.symm (hE : ∀ u v, E u v → E v u) (h : Distance E u n v) : Distance E v n u :=
  ⟨h.steps.symm hE, fun m hm ↦ h.least m (hm.symm hE)⟩

theorem Distance.pred (h : Distance E u (n + 1) w) : ∃ v, Distance E u n v ∧ E v w := by
  obtain ⟨v, hsteps, hedge⟩ := steps_succ.mp h.steps
  refine ⟨v, ⟨hsteps, fun m hm ↦ ?_⟩, hedge⟩
  have := h.least (m + 1) (.succ hm hedge)
  omega

/-- A list of nodes from the one to the other, with an edge at each step. -/
structure IsPath (E : α → α → Prop) (u v : α) (path : List α) : Prop where
  chain : path.IsChain E
  head : path.head? = some u
  last : path.getLast? = some v

theorem isPath_singleton (u : α) : IsPath E u u [u] := ⟨.singleton u, rfl, rfl⟩

theorem IsPath.ne_nil {path : List α} (h : IsPath E u v path) : path ≠ [] := by
  rintro rfl
  cases h.head

theorem IsPath.cons {path : List α} (hedge : E u v) (h : IsPath E v w path) :
    IsPath E u w (u :: path) := by
  obtain ⟨x, path, rfl⟩ := List.exists_cons_of_ne_nil h.ne_nil
  obtain rfl : x = v := by simpa using h.head
  exact ⟨.cons_cons hedge h.chain, rfl, by simpa using h.last⟩

theorem isPath_cons_cons {x y : α} {path : List α} :
    IsPath E u v (x :: y :: path) ↔ x = u ∧ E x y ∧ IsPath E y v (y :: path) := by
  constructor
  · intro h
    obtain ⟨hedge, hchain⟩ := List.isChain_cons_cons.mp h.chain
    exact ⟨by simpa using h.head, hedge, hchain, rfl, by simpa using h.last⟩
  · rintro ⟨rfl, hedge, h⟩
    exact h.cons hedge

theorem IsPath.split {front back : List α} {x : α} (h : IsPath E u v (front ++ x :: back)) :
    Steps E u front.length x ∧ Steps E x back.length v := by
  induction front generalizing u with
  | nil =>
    obtain rfl : x = u := by simpa using h.head
    refine ⟨.zero, ?_⟩
    induction back generalizing x with
    | nil =>
      obtain rfl : x = v := by simpa using h.last
      exact .zero
    | cons y back ih =>
      obtain ⟨-, hedge, hrest⟩ := isPath_cons_cons.mp h
      exact .cons hedge (ih hrest)
  | cons y front ih =>
    obtain ⟨z, rest, hrest⟩ : ∃ z rest, front ++ x :: back = z :: rest := by
      cases front <;> exact ⟨_, _, rfl⟩
    rw [List.cons_append, hrest] at h
    obtain ⟨rfl, hedge, hpath⟩ := isPath_cons_cons.mp h
    rw [← hrest] at hpath
    obtain ⟨hfront, hback⟩ := ih hpath
    exact ⟨.cons hedge hfront, hback⟩

theorem IsPath.steps {path : List α} (h : IsPath E u v path) :
    Steps E u (path.length - 1) v := by
  obtain ⟨x, path, rfl⟩ := List.exists_cons_of_ne_nil h.ne_nil
  obtain rfl : x = u := by simpa using h.head
  exact (@IsPath.split _ _ _ _ [] path x h).2

theorem Steps.exists_path (h : Steps E u n v) : ∃ path, IsPath E u v path ∧ path.length = n + 1 := by
  induction h with
  | zero => exact ⟨[u], isPath_singleton u, rfl⟩
  | @succ n v w _ hedge ih =>
    obtain ⟨path, hpath, hlength⟩ := ih
    refine ⟨path ++ [w], ⟨?_, ?_, ?_⟩, by rw [List.length_append, hlength]; rfl⟩
    · rw [List.isChain_append]
      refine ⟨hpath.chain, .singleton _, ?_⟩
      intro x hx y hy
      rw [hpath.last] at hx
      obtain rfl := Option.some.inj hx
      obtain rfl := Option.some.inj hy
      exact hedge
    · obtain ⟨x, path, rfl⟩ := List.exists_cons_of_ne_nil hpath.ne_nil
      exact hpath.head
    · simp

theorem IsPath.nodup {path : List α} (h : IsPath E u v path)
    (hleast : ∀ m, Steps E u m v → path.length ≤ m + 1) : path.Nodup := by
  by_contra hnot
  obtain ⟨x, hx⟩ := List.exists_duplicate_iff_not_nodup.mpr hnot
  obtain ⟨left, right, rfl, hleft, hright⟩ :=
    List.cons_sublist_iff.mp (List.duplicate_iff_sublist.mp hx)
  obtain ⟨front, back, rfl⟩ := List.append_of_mem hleft
  obtain ⟨front', back', rfl⟩ := List.append_of_mem (List.singleton_sublist.mp hright)
  -- the part between the two visits can be left out
  have hfirst := (IsPath.split (by simpa using h)).1
  have hsecond := (@IsPath.split _ _ _ _ ((front ++ x :: back) ++ front') back' x
    (by simpa using h)).2
  have := hleast _ (hfirst.append hsecond)
  simp only [List.length_append, List.length_cons] at this
  omega

theorem Distance.length_le {path : List α} (h : Distance E u n v) (hpath : IsPath E u v path) :
    n + 1 ≤ path.length := by
  have := h.least _ hpath.steps
  have := List.length_pos_iff.mpr hpath.ne_nil
  omega

theorem Distance.lt_length {nodes : List α} (hu : u ∈ nodes)
    (hclosed : ∀ x ∈ nodes, ∀ y, E x y → y ∈ nodes) (h : Distance E u n v) : n < nodes.length := by
  obtain ⟨path, hpath, hlength⟩ := h.steps.exists_path
  have hnodup := hpath.nodup fun m hm ↦ by
    have := h.least m hm
    omega
  have hsubset : path ⊆ nodes := by
    clear * - hpath hu hclosed
    induction path generalizing u with
    | nil => exact List.nil_subset _
    | cons x path ih =>
      obtain rfl : x = u := by simpa using hpath.head
      refine List.cons_subset.mpr ⟨hu, ?_⟩
      cases path with
      | nil => exact List.nil_subset _
      | cons y path =>
        obtain ⟨-, hedge, hrest⟩ := isPath_cons_cons.mp hpath
        exact ih (hclosed _ hu _ hedge) hrest
  have := (List.subperm_of_subset hnodup hsubset).length_le
  omega

end TextToSql.Library.Graphs
