import Mathlib.Algebra.GroupWithZero.Nat
import Mathlib.Data.List.Perm.Basic
import TextToSql.Library.Tree

namespace TextToSql.Library.RoseTree

variable {α β γ δ : Type}

theorem map_zipLevels (f : γ → δ) (xs ys : List (List γ)) :
    (zipLevels xs ys).map (List.map f) = zipLevels (xs.map (List.map f)) (ys.map (List.map f)) := by
  induction xs, ys using zipLevels.induct with
  | case1 ys => simp [zipLevels]
  | case2 xs h => cases xs <;> simp [zipLevels]
  | case3 x xs y ys ih => simp [zipLevels, ih]

def mapVisit (f : α → β) (v : Visit α) : Visit β := (v.1.map (map f), map f v.2)

theorem levels_map (f : α → β) (t : RoseTree α) (up : List (RoseTree α)) :
    levels (up.map (map f)) (map f t) = (levels up t).map (List.map (mapVisit f)) := by
  induction t using RoseTree.inductionOn generalizing up with
  | node l ts ih =>
    rw [map_node, levels, levels, List.map_cons, List.map_cons, List.map_nil]
    congr 1
    · simp [mapVisit]
    · rw [← map_node, ← List.map_cons]
      generalize node l ts :: up = vs
      induction ts with
      | nil => rfl
      | cons t ts ihts =>
        rw [List.map_cons, levelsAll, levelsAll, map_zipLevels, ih t List.mem_cons_self,
          ihts fun t ht ↦ ih t (.tail _ ht)]

theorem walkUp_map (f : α → β) (t : RoseTree α) :
    walkUp (map f t) = (walkUp t).map (mapVisit f) := by
  rw [walkUp, walkUp, List.map_flatten, ← levels_map, List.map_nil]

theorem walk_map (f : α → β) (t : RoseTree α) : walk (map f t) = (walk t).map (map f) := by
  simp [walk, walkUp_map, mapVisit]

theorem children_map (f : α → β) (t : RoseTree α) :
    (map f t).children = t.children.map (map f) := by
  cases t
  simp

theorem child?_map {f : α → β} {p : β → Bool} {q : α → Bool} (h : ∀ a, p (f a) = q a)
    (t : RoseTree α) : (map f t).child? p = (t.child? q).map (map f) := by
  rw [child?, child?, children_map, List.find?_map]
  congr 2
  funext c
  simp [h]

theorem perm_zipLevels (xs ys : List (List γ)) :
    (zipLevels xs ys).flatten.Perm (xs.flatten ++ ys.flatten) := by
  induction xs, ys using zipLevels.induct with
  | case1 ys => exact .refl _
  | case2 xs h => cases xs <;> simp [zipLevels]
  | case3 x xs y ys ih =>
    rw [zipLevels, List.flatten_cons, List.flatten_cons, List.flatten_cons, List.append_assoc,
      List.append_assoc]
    apply List.Perm.append_left
    exact (ih.append_left y).trans (List.perm_append_comm_assoc _ _ _)

theorem perm_levelsAll (up : List (RoseTree α)) (ts : List (RoseTree α)) :
    (levelsAll up ts).flatten.Perm (ts.flatMap fun t ↦ (levels up t).flatten) := by
  induction ts with
  | nil => exact .refl _
  | cons t ts ih =>
    rw [levelsAll, List.flatMap_cons]
    exact (perm_zipLevels _ _).trans (ih.append_left _)

theorem perm_levels_snd (t : RoseTree α) (up up' : List (RoseTree α)) :
    ((levels up t).flatten.map Prod.snd).Perm ((levels up' t).flatten.map Prod.snd) := by
  induction t using RoseTree.inductionOn generalizing up up' with
  | node l ts ih =>
    rw [levels, levels, List.flatten_cons, List.flatten_cons, List.map_append, List.map_append]
    refine List.Perm.append (.refl _) ?_
    refine ((perm_levelsAll _ ts).map _).trans
      (List.Perm.trans ?_ ((perm_levelsAll _ ts).map _).symm)
    rw [List.map_flatMap, List.map_flatMap]
    exact List.Perm.flatMap_left _ fun t ht ↦ ih t ht _ _

theorem perm_walk_node (l : α) (ts : List (RoseTree α)) :
    (walk (node l ts)).Perm (node l ts :: ts.flatMap walk) := by
  rw [walk, walkUp, levels, List.flatten_cons, List.singleton_append, List.map_cons]
  refine .cons _ (((perm_levelsAll _ ts).map _).trans ?_)
  rw [List.map_flatMap]
  exact List.Perm.flatMap_left _ fun t _ ↦ perm_levels_snd t _ _

theorem child?_setChild_of_ne {p q : α → Bool} {t v : RoseTree α}
    (hpq : ∀ a, q a = true → p a = false) (hv : p v.label = false) :
    (t.setChild q v).child? p = t.child? p := by
  rw [setChild, child?, child?, children_node]
  split
  · generalize t.children = ts
    induction ts with
    | nil => rfl
    | cons c ts ih =>
      rw [List.map_cons, List.find?_cons, List.find?_cons, ih]
      by_cases hq : q c.label = true
      · rw [if_pos hq, hv, hpq _ hq]
      · rw [if_neg hq]
  · rw [List.find?_append]
    simp [hv]

theorem child?_setChild {p : α → Bool} {t v : RoseTree α} (hv : p v.label = true) :
    (t.setChild p v).child? p = some v := by
  rw [setChild, child?, children_node]
  split
  · rename_i hany
    generalize t.children = ts at hany
    induction ts with
    | nil => simp at hany
    | cons c ts ih =>
      rw [List.map_cons, List.find?_cons]
      by_cases hc : p c.label = true
      · rw [if_pos hc, hv]
      · rw [if_neg hc]
        rw [Bool.not_eq_true] at hc
        rw [hc]
        exact ih (by simpa [hc] using hany)
  · rename_i hany
    have hnone : t.children.find? (fun c ↦ p c.label) = none := by
      simpa using hany
    rw [List.find?_append, hnone]
    simp [hv]

theorem setChild_setChild {p : α → Bool} {t v w : RoseTree α} (hv : p v.label = true) :
    (t.setChild p v).setChild p w = t.setChild p w := by
  by_cases h : (t.children.any fun c ↦ p c.label) = true
  · have hset : ((t.setChild p v).children.any fun c ↦ p c.label) = true := by
      rw [setChild, children_node, if_pos h, List.any_eq_true]
      obtain ⟨c, hc, hp⟩ := List.any_eq_true.mp h
      exact ⟨v, List.mem_map.mpr ⟨c, hc, if_pos hp⟩, hv⟩
    rw [setChild, if_pos hset, setChild, setChild, if_pos h, if_pos h, label_node, children_node,
      List.map_map]
    congr 2
    funext c
    rw [Function.comp_apply]
    split
    · simp
    · simp
  · have hnone : ∀ c ∈ t.children, ¬p c.label = true := by simpa using h
    have hkeep : (t.children.map fun c ↦ if p c.label then w else c) = t.children := by
      rw [List.map_congr_left fun c hc ↦ if_neg (hnone c hc), List.map_id']
    have hset : (t.setChild p v).children = t.children ++ [v] := by
      rw [setChild, if_neg h, children_node]
    have hany : ((t.setChild p v).children.any fun c ↦ p c.label) = true := by
      rw [hset]
      simp [hv]
    rw [setChild, if_pos hany, hset, List.map_append, hkeep, List.map_singleton, if_pos hv,
      setChild, setChild, if_neg h, if_neg h, label_node]

theorem filter_children_setChild {p : α → Bool} {t v : RoseTree α} (hv : p v.label = true) :
    ((t.setChild p v).children.filter fun c ↦ !p c.label) =
      t.children.filter fun c ↦ !p c.label := by
  rw [setChild, children_node]
  split
  · generalize t.children = ts
    induction ts with
    | nil => rfl
    | cons c ts ih =>
      rw [List.map_cons, List.filter_cons, List.filter_cons, ih]
      by_cases hc : p c.label = true
      · simp [hc, hv]
      · rw [if_neg hc]
  · simp [hv]

theorem filter_setChild {p q : α → Bool} {t v : RoseTree α} (hv : q v.label = true)
    (hpq : ∀ a, p a = true → q a = true) :
    (node t.label ((t.setChild p v).children.filter fun c ↦ q c.label)) =
      (node t.label (t.children.filter fun c ↦ q c.label)).setChild p v := by
  have hany : ((t.children.filter fun c ↦ q c.label).any fun c ↦ p c.label) =
      t.children.any fun c ↦ p c.label := by
    rw [List.any_filter]
    refine congrArg t.children.any (funext fun c ↦ ?_)
    cases hp : p c.label with
    | false => rw [Bool.and_false]
    | true => rw [hpq _ hp, Bool.and_true]
  have hmap : ((t.children.map fun c ↦ if p c.label then v else c).filter fun c ↦ q c.label) =
      (t.children.filter fun c ↦ q c.label).map fun c ↦ if p c.label then v else c := by
    rw [List.filter_map]
    refine congrArg (List.map _) (List.filter_congr fun c _ ↦ ?_)
    rw [Function.comp_apply]
    split
    · rename_i hp
      rw [hv, hpq _ hp]
    · rfl
  rw [setChild, setChild, label_node, children_node, children_node, hany]
  split
  · rw [hmap]
  · rw [List.filter_append, List.filter_singleton, hv, cond_true]

section Keep

variable {g : RoseTree α → RoseTree β} {p : β → Bool} {q : α → Bool}
  (hg : ∀ c, p (g c).label = q c.label)

include hg

theorem child?_map_children (l : β) (t : RoseTree α) :
    (node l (t.children.map g)).child? p = (t.child? q).map g := by
  rw [child?, child?, children_node, List.find?_map]
  congr 2
  funext c
  exact hg c

theorem setChild_map_children (l : β) (t v : RoseTree α) :
    (node l (t.children.map g)).setChild p (g v) = node l ((t.setChild q v).children.map g) := by
  have hany : ((t.children.map g).any fun c ↦ p c.label) = t.children.any fun c ↦ q c.label := by
    simp [List.any_map, Function.comp_def, hg]
  rw [setChild, setChild, label_node, children_node, children_node, hany]
  split
  · rw [List.map_map, List.map_map]
    congr 2
    funext c
    rw [Function.comp_apply, Function.comp_apply, hg]
    split <;> rfl
  · rw [List.map_append, List.map_singleton]

end Keep

theorem map_setChild {f : α → β} {p : β → Bool} {q : α → Bool} (h : ∀ a, p (f a) = q a)
    (t v : RoseTree α) : (t.setChild q v).map f = (t.map f).setChild p (v.map f) := by
  have hset := setChild_map_children (g := map f) (p := p) (q := q) (by simp [h]) (f t.label) t v
  obtain ⟨l, ts⟩ := t
  rw [map_node]
  refine Eq.trans ?_ hset.symm
  rw [setChild, map_node]
  rfl

theorem map_id (t : RoseTree α) : map id t = t := by
  induction t using RoseTree.inductionOn with
  | node l ts ih => rw [map_node, List.map_congr_left ih, List.map_id']; rfl

theorem mem_children_setChild {q : α → Bool} {t v c : RoseTree α}
    (h : c ∈ (t.setChild q v).children) : c = v ∨ c ∈ t.children := by
  rw [setChild, children_node] at h
  split at h
  · obtain ⟨d, hd, rfl⟩ := List.mem_map.mp h
    split
    · exact .inl rfl
    · exact .inr hd
  · rcases List.mem_append.mp h with h | h
    · exact .inr h
    · exact .inl (List.mem_singleton.mp h)

theorem mem_children_setChild_iff {p : α → Bool} {t v c : RoseTree α} (hv : p v.label = true) :
    c ∈ (t.setChild p v).children ↔ c = v ∨ c ∈ t.children ∧ p c.label = false := by
  by_cases hp : p c.label = true
  · constructor
    · intro h
      left
      rw [setChild, children_node] at h
      split at h
      · obtain ⟨d, -, rfl⟩ := List.mem_map.mp h
        split
        · rfl
        · rename_i hd
          rw [if_neg hd] at hp
          exact absurd hp hd
      · rename_i hany
        rcases List.mem_append.mp h with h | h
        · exact absurd (List.any_eq_true.mpr ⟨c, h, hp⟩) hany
        · exact List.mem_singleton.mp h
    · rintro (rfl | ⟨-, hn⟩)
      · rw [setChild, children_node]
        split
        · rename_i hany
          obtain ⟨d, hd, hpd⟩ := List.any_eq_true.mp hany
          exact List.mem_map.mpr ⟨d, hd, if_pos hpd⟩
        · simp
      · rw [hp] at hn
        cases hn
  · have hfilter := congrArg (c ∈ ·) (filter_children_setChild (t := t) hv)
    simp only [List.mem_filter, eq_iff_iff] at hfilter
    have hne : c ≠ v := by
      rintro rfl
      exact hp hv
    simpa [hp, hne] using hfilter

theorem filter_setChild_of_length_le {p : α → Bool} {t v : RoseTree α} (hv : p v.label = true)
    (h : (t.children.filter fun c ↦ p c.label).length ≤ 1) :
    ((t.setChild p v).children.filter fun c ↦ p c.label) = [v] := by
  rw [setChild, children_node]
  split
  · rename_i hany
    generalize t.children = ts at h hany
    induction ts with
    | nil => simp at hany
    | cons c ts ih =>
      by_cases hc : p c.label = true
      · rw [List.filter_cons, if_pos hc, List.length_cons] at h
        have hnil : (ts.filter fun c ↦ p c.label) = [] := List.eq_nil_of_length_eq_zero (by omega)
        have hkeep : (ts.map fun c ↦ if p c.label then v else c) = ts := by
          rw [List.map_congr_left fun c hc ↦ if_neg (List.filter_eq_nil_iff.mp hnil c hc),
            List.map_id']
        rw [List.map_cons, if_pos hc, hkeep, List.filter_cons, if_pos hv, hnil]
      · rw [List.filter_cons, if_neg hc] at h
        rw [List.map_cons, if_neg hc, List.filter_cons, if_neg hc]
        exact ih h (by simpa [hc] using hany)
  · rename_i hany
    have hnil : (t.children.filter fun c ↦ p c.label) = [] :=
      List.filter_eq_nil_iff.mpr (by simpa using hany)
    rw [List.filter_append, hnil, List.nil_append, List.filter_singleton, hv]
    rfl

/-- Two trees have the same image exactly when their labels have, one by one. -/
theorem lift_iff_map_eq {f : α → γ} {g : β → γ} {t : RoseTree α} {u : RoseTree β} :
    Lift (fun a b ↦ f a = g b) t u ↔ map f t = map g u := by
  induction t using RoseTree.inductionOn generalizing u with
  | node l ts ih =>
    obtain ⟨m, us⟩ := u
    rw [lift_node, map_node, map_node, node.injEq]
    refine and_congr_right fun _ ↦ ?_
    induction ts generalizing us with
    | nil => cases us <;> simp
    | cons t ts ihts =>
      cases us with
      | nil => simp
      | cons u us =>
        rw [List.forall₂_cons, List.map_cons, List.map_cons, List.cons.injEq,
          ih t List.mem_cons_self, ihts fun t ht ↦ ih t (.tail _ ht)]

theorem Lift.map {r : α → β → Prop} {s : γ → δ → Prop} {f : α → γ} {g : β → δ}
    (hf : ∀ a b, r a b → s (f a) (g b)) {t : RoseTree α} {u : RoseTree β} (h : Lift r t u) :
    Lift s (t.map f) (u.map g) := by
  induction t using RoseTree.inductionOn generalizing u with
  | node l ts ih =>
    obtain ⟨m, us⟩ := u
    obtain ⟨hl, hts⟩ := lift_node.mp h
    rw [map_node, map_node, lift_node]
    refine ⟨hf _ _ hl, ?_⟩
    clear h hl
    induction hts with
    | nil => exact .nil
    | cons ht _ ihts =>
      exact .cons (ih _ List.mem_cons_self ht) (ihts fun t ht' ↦ ih t (.tail _ ht'))

section Children

variable {r : α → β → Prop} {p : α → Bool} {q : β → Bool} (hpq : ∀ a b, r a b → p a = q b)
  {t : RoseTree α} {u : RoseTree β}

theorem Lift.children (h : Lift r t u) : List.Forall₂ (Lift r) t.children u.children := by
  cases t
  cases u
  exact (lift_node.mp h).2

include hpq

theorem forall₂_find? {ts : List (RoseTree α)} {us : List (RoseTree β)}
    (h : List.Forall₂ (Lift r) ts us) :
    Option.Rel (Lift r) (ts.find? fun c ↦ p c.label) (us.find? fun c ↦ q c.label) := by
  induction h with
  | nil => exact .none
  | cons hc _ ih =>
    rw [List.find?_cons, List.find?_cons, hpq _ _ hc.label]
    split
    · exact .some hc
    · exact ih

theorem Lift.child? (h : Lift r t u) :
    Option.Rel (Lift r) (t.child? p) (u.child? q) := forall₂_find? hpq h.children

theorem forall₂_any {ts : List (RoseTree α)} {us : List (RoseTree β)}
    (h : List.Forall₂ (Lift r) ts us) :
    (ts.any fun c ↦ p c.label) = us.any fun c ↦ q c.label := by
  induction h with
  | nil => rfl
  | cons hc _ ih => rw [List.any_cons, List.any_cons, hpq _ _ hc.label, ih]

theorem Lift.setChild (h : Lift r t u) {v : RoseTree α} {w : RoseTree β} (hv : Lift r v w) :
    Lift r (t.setChild p v) (u.setChild q w) := by
  rw [RoseTree.setChild, RoseTree.setChild, lift_node]
  refine ⟨h.label, ?_⟩
  have hc := h.children
  rw [forall₂_any hpq hc]
  split
  · simp only [List.forall₂_map_left_iff, List.forall₂_map_right_iff]
    refine hc.imp fun a b hab ↦ ?_
    rw [hpq _ _ hab.label]
    split
    · exact hv
    · exact hab
  · exact List.rel_append hc (.cons hv .nil)

end Children

end TextToSql.Library.RoseTree
