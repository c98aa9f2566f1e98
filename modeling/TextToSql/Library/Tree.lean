import Mathlib.Data.List.Forall2

namespace TextToSql.Library

/-- A finite tree with a label at every node and ordered children. -/
inductive RoseTree (α : Type) where
  | node (label : α) (children : List (RoseTree α))

namespace RoseTree

variable {α β : Type}

def label : RoseTree α → α
  | node l _ => l

def children : RoseTree α → List (RoseTree α)
  | node _ ts => ts

@[simp] theorem label_node (l : α) (ts : List (RoseTree α)) : (node l ts).label = l := rfl

@[simp] theorem children_node (l : α) (ts : List (RoseTree α)) : (node l ts).children = ts := rfl

mutual

theorem inductionOn {P : RoseTree α → Prop}
    (node : ∀ l ts, (∀ t ∈ ts, P t) → P (.node l ts)) : ∀ t, P t
  | .node l ts => node l ts (inductAll node ts)

theorem inductAll {P : RoseTree α → Prop}
    (node : ∀ l ts, (∀ t ∈ ts, P t) → P (.node l ts)) :
    ∀ ts : List (RoseTree α), ∀ t ∈ ts, P t
  | [], _, h => nomatch h
  | t :: ts, _, h => (List.mem_cons.mp h).elim (fun he ↦ he ▸ inductionOn node t)
      (inductAll node ts _)

end

mutual

def map (f : α → β) : RoseTree α → RoseTree β
  | node l ts => node (f l) (mapAll f ts)

def mapAll (f : α → β) : List (RoseTree α) → List (RoseTree β)
  | [] => []
  | t :: ts => map f t :: mapAll f ts

end

theorem mapAll_eq (f : α → β) (ts : List (RoseTree α)) : mapAll f ts = ts.map (map f) := by
  induction ts with
  | nil => rfl
  | cons t ts ih => simp only [mapAll, ih, List.map_cons]

@[simp] theorem map_node (f : α → β) (l : α) (ts : List (RoseTree α)) :
    map f (node l ts) = node (f l) (ts.map (map f)) := by rw [map, mapAll_eq]

@[simp] theorem label_map (f : α → β) (t : RoseTree α) : (map f t).label = f t.label := by
  cases t; simp

theorem map_map {γ : Type} (f : α → β) (g : β → γ) (t : RoseTree α) :
    map g (map f t) = map (g ∘ f) t := by
  induction t using RoseTree.inductionOn with
  | node l ts ih => simpa using ih

mutual

/-- The value of a tree, from the label of its root and the values of its children. -/
def fold (f : α → List β → β) : RoseTree α → β
  | node l ts => f l (foldAll f ts)

def foldAll (f : α → List β → β) : List (RoseTree α) → List β
  | [] => []
  | t :: ts => fold f t :: foldAll f ts

end

theorem foldAll_eq (f : α → List β → β) (ts : List (RoseTree α)) :
    foldAll f ts = ts.map (fold f) := by
  induction ts with
  | nil => rfl
  | cons t ts ih => simp only [foldAll, ih, List.map_cons]

theorem fold_node (f : α → List β → β) (l : α) (ts : List (RoseTree α)) :
    fold f (node l ts) = f l (ts.map (fold f)) := by rw [fold, foldAll_eq]

def child? (p : α → Bool) (t : RoseTree α) : Option (RoseTree α) :=
  t.children.find? fun c ↦ p c.label

def setChild (t : RoseTree α) (p : α → Bool) (value : RoseTree α) : RoseTree α :=
  node t.label (if t.children.any fun c ↦ p c.label then
    t.children.map fun c ↦ if p c.label then value else c
  else t.children ++ [value])

/-- A node with the chain of its ancestors, nearest first. -/
abbrev Visit (α : Type) := List (RoseTree α) × RoseTree α

def zipLevels {γ : Type} : List (List γ) → List (List γ) → List (List γ)
  | [], ys => ys
  | xs, [] => xs
  | x :: xs, y :: ys => (x ++ y) :: zipLevels xs ys

mutual

def levels (up : List (RoseTree α)) : RoseTree α → List (List (Visit α))
  | node l ts => [(up, node l ts)] :: levelsAll (node l ts :: up) ts

def levelsAll (up : List (RoseTree α)) : List (RoseTree α) → List (List (Visit α))
  | [] => []
  | t :: ts => zipLevels (levels up t) (levelsAll up ts)

end

/-- Breadth-first traversal. -/
def walkUp (t : RoseTree α) : List (Visit α) := (levels [] t).flatten

def walk (t : RoseTree α) : List (RoseTree α) := (walkUp t).map Prod.snd

theorem mem_zipLevels {γ : Type} {x : γ} (xs ys : List (List γ)) :
    x ∈ (zipLevels xs ys).flatten ↔ x ∈ xs.flatten ∨ x ∈ ys.flatten := by
  induction xs, ys using zipLevels.induct with
  | case1 ys => simp [zipLevels]
  | case2 xs h => simp [zipLevels]
  | case3 x xs y ys ih =>
    simp only [zipLevels, List.flatten_cons, List.mem_append, ih]
    tauto

theorem mem_levelsAll {up : List (RoseTree α)} {x : Visit α} (ts : List (RoseTree α)) :
    x ∈ (levelsAll up ts).flatten ↔ ∃ t ∈ ts, x ∈ (levels up t).flatten := by
  induction ts with
  | nil => simp [levelsAll]
  | cons t ts ih => simp only [levelsAll, mem_zipLevels, ih, List.exists_mem_cons_iff]

theorem mem_levels_node {up : List (RoseTree α)} {x : Visit α} (l : α)
    (ts : List (RoseTree α)) :
    x ∈ (levels up (node l ts)).flatten ↔
      x = (up, node l ts) ∨ ∃ t ∈ ts, x ∈ (levels (node l ts :: up) t).flatten := by
  simp only [levels, List.flatten_cons, List.mem_append, List.mem_singleton, mem_levelsAll]

theorem mem_levels_up {n : RoseTree α} (t : RoseTree α) (up up' : List (RoseTree α)) :
    (∃ a, (a, n) ∈ (levels up t).flatten) ↔ ∃ a, (a, n) ∈ (levels up' t).flatten := by
  induction t using RoseTree.inductionOn generalizing up up' with
  | node l ts ih =>
    simp only [mem_levels_node, Prod.mk.injEq]
    constructor
    · rintro ⟨a, ⟨-, rfl⟩ | ⟨t, ht, h⟩⟩
      · exact ⟨up', .inl ⟨rfl, rfl⟩⟩
      · obtain ⟨b, hb⟩ := (ih t ht _ (node l ts :: up')).mp ⟨a, h⟩
        exact ⟨b, .inr ⟨t, ht, hb⟩⟩
    · rintro ⟨a, ⟨-, rfl⟩ | ⟨t, ht, h⟩⟩
      · exact ⟨up, .inl ⟨rfl, rfl⟩⟩
      · obtain ⟨b, hb⟩ := (ih t ht (node l ts :: up) _).mpr ⟨a, h⟩
        exact ⟨b, .inr ⟨t, ht, hb⟩⟩

theorem mem_walk {n t : RoseTree α} : n ∈ walk t ↔ ∃ up, (up, n) ∈ walkUp t := by
  simp [walk]

theorem mem_walk_node {n : RoseTree α} (l : α) (ts : List (RoseTree α)) :
    n ∈ walk (node l ts) ↔ n = node l ts ∨ ∃ t ∈ ts, n ∈ walk t := by
  simp only [mem_walk, walkUp, mem_levels_node, Prod.mk.injEq]
  constructor
  · rintro ⟨a, ⟨-, rfl⟩ | ⟨t, ht, h⟩⟩
    · exact .inl rfl
    · exact .inr ⟨t, ht, (mem_levels_up t _ _).mp ⟨a, h⟩⟩
  · rintro (rfl | ⟨t, ht, h⟩)
    · exact ⟨[], .inl ⟨rfl, rfl⟩⟩
    · obtain ⟨a, ha⟩ := (mem_levels_up t [] [node l ts]).mp h
      exact ⟨a, .inr ⟨t, ht, ha⟩⟩

theorem mem_levels_child {up up' : List (RoseTree α)} {n c : RoseTree α} (t : RoseTree α)
    (h : (up', n) ∈ (levels up t).flatten) (hc : c ∈ n.children) :
    (n :: up', c) ∈ (levels up t).flatten := by
  induction t using RoseTree.inductionOn generalizing up with
  | node l ts ih =>
    rcases (mem_levels_node l ts).mp h with heq | ⟨t, ht, h⟩
    · cases heq
      obtain ⟨m, us⟩ := c
      exact (mem_levels_node l ts).mpr (.inr ⟨_, hc, (mem_levels_node m us).mpr (.inl rfl)⟩)
    · exact (mem_levels_node l ts).mpr (.inr ⟨t, ht, ih t ht h⟩)

theorem mem_walkUp_child {t n c : RoseTree α} {up : List (RoseTree α)}
    (h : (up, n) ∈ walkUp t) (hc : c ∈ n.children) : (n :: up, c) ∈ walkUp t :=
  mem_levels_child t h hc

theorem parent_of_mem_levels {up : List (RoseTree α)} {x : Visit α} (t : RoseTree α)
    (h : x ∈ (levels up t).flatten) :
    x = (up, t) ∨ ∃ p up', x.1 = p :: up' ∧ x.2 ∈ p.children ∧
      (up', p) ∈ (levels up t).flatten := by
  induction t using RoseTree.inductionOn generalizing up with
  | node l ts ih =>
    rcases (mem_levels_node l ts).mp h with heq | ⟨t, ht, h⟩
    · exact .inl heq
    · right
      rcases ih t ht h with rfl | ⟨p, up', hup, hc, hp⟩
      · exact ⟨_, _, rfl, ht, (mem_levels_node l ts).mpr (.inl rfl)⟩
      · exact ⟨p, up', hup, hc, (mem_levels_node l ts).mpr (.inr ⟨t, ht, hp⟩)⟩

theorem parent_of_mem_walkUp {t n p : RoseTree α} {up : List (RoseTree α)}
    (h : (p :: up, n) ∈ walkUp t) : n ∈ p.children ∧ (up, p) ∈ walkUp t := by
  rcases parent_of_mem_levels t h with heq | ⟨q, up', hup, hc, hq⟩
  · cases heq
  · cases hup
    exact ⟨hc, hq⟩

theorem self_mem_walk (t : RoseTree α) : t ∈ walk t := by
  cases t
  exact (mem_walk_node _ _).mpr (.inl rfl)

theorem mem_walk_of_child {n t : RoseTree α} {l : α} {ts : List (RoseTree α)} (ht : t ∈ ts)
    (h : n ∈ walk t) : n ∈ walk (node l ts) := (mem_walk_node _ _).mpr (.inr ⟨t, ht, h⟩)

theorem mem_walk_child {t n c : RoseTree α} (h : n ∈ walk t) (hc : c ∈ n.children) :
    c ∈ walk t := by
  obtain ⟨up, h⟩ := mem_walk.mp h
  exact mem_walk.mpr ⟨_, mem_walkUp_child h hc⟩

theorem mem_walk_ancestor {t n a : RoseTree α} {up : List (RoseTree α)}
    (h : (up, n) ∈ walkUp t) (ha : a ∈ up) : n ∈ walk a := by
  induction up generalizing n with
  | nil => cases ha
  | cons p up ih =>
    obtain ⟨hc, hp⟩ := parent_of_mem_walkUp h
    rcases List.mem_cons.mp ha with rfl | ha
    · obtain ⟨l, ts⟩ := a
      exact mem_walk_of_child hc (self_mem_walk n)
    · exact mem_walk_child (ih hp ha) hc

theorem ancestor_mem_walk {t n a : RoseTree α} {up : List (RoseTree α)}
    (h : (up, n) ∈ walkUp t) (ha : a ∈ up) : a ∈ walk t := by
  induction up generalizing n with
  | nil => cases ha
  | cons p up ih =>
    obtain ⟨-, hp⟩ := parent_of_mem_walkUp h
    rcases List.mem_cons.mp ha with rfl | ha
    · exact mem_walk.mpr ⟨up, hp⟩
    · exact ih hp ha

theorem mem_walk_trans {s t u : RoseTree α} (hst : s ∈ walk t) (htu : t ∈ walk u) :
    s ∈ walk u := by
  induction u using RoseTree.inductionOn with
  | node l us ih =>
    rcases (mem_walk_node l us).mp htu with rfl | ⟨u, hu, htu⟩
    · exact hst
    · exact mem_walk_of_child hu (ih u hu htu)

theorem self_mem_walkUp (t : RoseTree α) : ([], t) ∈ walkUp t := by
  cases t
  exact (mem_levels_node _ _).mpr (.inl rfl)

mutual

def Lift (r : α → β → Prop) : RoseTree α → RoseTree β → Prop
  | node a ts, node b us => r a b ∧ LiftAll r ts us

def LiftAll (r : α → β → Prop) : List (RoseTree α) → List (RoseTree β) → Prop
  | [], [] => True
  | t :: ts, u :: us => Lift r t u ∧ LiftAll r ts us
  | _, _ => False

end

theorem liftAll_iff {r : α → β → Prop} {ts : List (RoseTree α)} {us : List (RoseTree β)} :
    LiftAll r ts us ↔ List.Forall₂ (Lift r) ts us := by
  induction ts generalizing us with
  | nil => cases us <;> simp [LiftAll]
  | cons t ts ih => cases us <;> simp [LiftAll, ih]

@[simp] theorem lift_node {r : α → β → Prop} {a : α} {b : β} {ts : List (RoseTree α)}
    {us : List (RoseTree β)} :
    Lift r (node a ts) (node b us) ↔ r a b ∧ List.Forall₂ (Lift r) ts us := by
  rw [Lift, liftAll_iff]

theorem Lift.label {r : α → β → Prop} {t : RoseTree α} {u : RoseTree β} (h : Lift r t u) :
    r t.label u.label := by
  cases t; cases u; exact (lift_node.mp h).1

theorem Lift.refl {r : α → α → Prop} (hr : ∀ a, r a a) (t : RoseTree α) : Lift r t t := by
  induction t using RoseTree.inductionOn with
  | node l ts ih => exact lift_node.mpr ⟨hr l, List.forall₂_same.mpr ih⟩

theorem Lift.mono {r s : α → β → Prop} (hrs : ∀ a b, r a b → s a b) {t : RoseTree α}
    {u : RoseTree β} (h : Lift r t u) : Lift s t u := by
  induction t using RoseTree.inductionOn generalizing u with
  | node l ts ih =>
    obtain ⟨m, us⟩ := u
    obtain ⟨hl, hts⟩ := lift_node.mp h
    refine lift_node.mpr ⟨hrs _ _ hl, ?_⟩
    induction hts with
    | nil => exact .nil
    | cons ht _ ihts =>
      refine .cons (ih _ List.mem_cons_self ht) (ihts (fun t ht' ↦ ih t (.tail _ ht')) ?_ )
      exact lift_node.mpr ⟨hl, by assumption⟩

def LiftVisit (r : α → β → Prop) (x : Visit α) (y : Visit β) : Prop :=
  List.Forall₂ (Lift r) x.1 y.1 ∧ Lift r x.2 y.2

theorem forall₂_zipLevels {γ δ : Type} {R : γ → δ → Prop} {xs ys : List (List γ)}
    {xs' ys' : List (List δ)} (hx : List.Forall₂ (List.Forall₂ R) xs xs')
    (hy : List.Forall₂ (List.Forall₂ R) ys ys') :
    List.Forall₂ (List.Forall₂ R) (zipLevels xs ys) (zipLevels xs' ys') := by
  induction hx generalizing ys ys' with
  | nil => simpa [zipLevels] using hy
  | cons h hx ih =>
    cases hy with
    | nil => simpa [zipLevels] using List.Forall₂.cons h hx
    | cons h' hy => exact .cons (List.rel_append h h') (ih hy)

theorem forall₂_flatten {γ δ : Type} {R : γ → δ → Prop} {xs : List (List γ)} {ys : List (List δ)}
    (h : List.Forall₂ (List.Forall₂ R) xs ys) : List.Forall₂ R xs.flatten ys.flatten := by
  induction h with
  | nil => exact .nil
  | cons h _ ih => exact List.rel_append h ih

theorem Lift.levels {r : α → β → Prop} {t : RoseTree α} {u : RoseTree β} (h : Lift r t u)
    {up : List (RoseTree α)} {up' : List (RoseTree β)} (hup : List.Forall₂ (Lift r) up up') :
    List.Forall₂ (List.Forall₂ (LiftVisit r)) (levels up t) (levels up' u) := by
  induction t using RoseTree.inductionOn generalizing u up up' with
  | node l ts ih =>
    obtain ⟨m, us⟩ := u
    refine .cons (.cons ⟨hup, h⟩ .nil) ?_
    have hup' := List.Forall₂.cons h hup
    have hts := (lift_node.mp h).2
    clear h hup
    generalize node l ts :: up = vs at hup'
    generalize node m us :: up' = vs' at hup'
    induction hts with
    | nil => exact .nil
    | cons ht _ ihts =>
      exact forall₂_zipLevels (ih _ List.mem_cons_self ht hup')
        (ihts fun t ht' ↦ ih t (.tail _ ht'))

theorem Lift.walkUp {r : α → β → Prop} {t : RoseTree α} {u : RoseTree β} (h : Lift r t u) :
    List.Forall₂ (LiftVisit r) (walkUp t) (walkUp u) := forall₂_flatten (h.levels .nil)

theorem Lift.walk {r : α → β → Prop} {t : RoseTree α} {u : RoseTree β} (h : Lift r t u) :
    List.Forall₂ (Lift r) (walk t) (walk u) := by
  have hw := h.walkUp
  simp only [RoseTree.walk, List.forall₂_map_left_iff, List.forall₂_map_right_iff]
  exact hw.imp fun _ _ hv ↦ hv.2

end RoseTree

end TextToSql.Library
