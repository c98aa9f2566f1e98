import TextToSql.Library.Relabel

namespace TextToSql.Library

variable {α β γ : Type}

/-- The first element with the property, and its level. -/
def firstLevel (p : γ → Bool) : List (List γ) → Option (Nat × γ)
  | [] => none
  | xs :: rest =>
    match xs.find? p with
    | some x => some (0, x)
    | none => (firstLevel p rest).map fun found ↦ (found.1 + 1, found.2)

def shallower : Option (Nat × γ) → Option (Nat × γ) → Option (Nat × γ)
  | none, y => y
  | x, none => x
  | some x, some y => if x.1 ≤ y.1 then some x else some y

@[simp] theorem shallower_none (x : Option (Nat × γ)) : shallower x none = x := by
  cases x <;> rfl

@[simp] theorem none_shallower (y : Option (Nat × γ)) : shallower none y = y := rfl

theorem find?_flatten_eq (p : γ → Bool) (xss : List (List γ)) :
    xss.flatten.find? p = (firstLevel p xss).map Prod.snd := by
  induction xss with
  | nil => rfl
  | cons xs rest ih =>
    rw [List.flatten_cons, List.find?_append, firstLevel]
    cases xs.find? p with
    | some x => rfl
    | none =>
      rw [Option.none_or, ih]
      cases firstLevel p rest <;> rfl

theorem shallower_succ (x y : Option (Nat × γ)) :
    shallower (x.map fun found ↦ (found.1 + 1, found.2))
        (y.map fun found ↦ (found.1 + 1, found.2)) =
      (shallower x y).map fun found ↦ (found.1 + 1, found.2) := by
  cases x with
  | none => rfl
  | some x =>
    cases y with
    | none => rfl
    | some y =>
      by_cases h : x.1 ≤ y.1 <;> simp [shallower, h]

theorem shallower_map (f : γ → β) (x y : Option (Nat × γ)) :
    shallower (x.map fun found ↦ (found.1, f found.2)) (y.map fun found ↦ (found.1, f found.2)) =
      (shallower x y).map fun found ↦ (found.1, f found.2) := by
  cases x with
  | none => rfl
  | some x =>
    cases y with
    | none => rfl
    | some y =>
      by_cases h : x.1 ≤ y.1 <;> simp [shallower, h]

namespace RoseTree

theorem firstLevel_zipLevels (p : γ → Bool) (xss yss : List (List γ)) :
    firstLevel p (zipLevels xss yss) = shallower (firstLevel p xss) (firstLevel p yss) := by
  induction xss, yss using zipLevels.induct with
  | case1 yss => rfl
  | case2 xss h => cases xss <;> simp [zipLevels, firstLevel]
  | case3 xs xss ys yss ih =>
    rw [zipLevels, firstLevel, firstLevel, firstLevel, List.find?_append, ih, ← shallower_succ]
    cases xs.find? p with
    | some x =>
      cases ys.find? p with
      | some y => rfl
      | none => cases firstLevel p yss <;> rfl
    | none =>
      cases ys.find? p with
      | some y =>
        rw [Option.none_or]
        cases firstLevel p xss <;> rfl
      | none => rfl

theorem firstLevel_levelsAll (p : Visit α → Bool) (up : List (RoseTree α))
    (ts : List (RoseTree α)) :
    firstLevel p (levelsAll up ts) =
      (ts.map fun t ↦ firstLevel p (levels up t)).foldr shallower none := by
  induction ts with
  | nil => rfl
  | cons t ts ih => rw [levelsAll, firstLevel_zipLevels, ih, List.map_cons, List.foldr_cons]

/-- The first node with a property is the root, or the first one of the children that have it on
the least level. -/
theorem firstLevel_levels (p : Visit α → Bool) (up : List (RoseTree α)) (l : α)
    (ts : List (RoseTree α)) :
    firstLevel p (levels up (node l ts)) =
      if p (up, node l ts) then some (0, (up, node l ts))
      else ((ts.map fun t ↦ firstLevel p (levels (node l ts :: up) t)).foldr shallower none).map
        fun found ↦ (found.1 + 1, found.2) := by
  rw [levels, firstLevel, List.find?_singleton, firstLevel_levelsAll]
  cases p (up, node l ts) <;> rfl

theorem foldr_setChild {M : Type} {op : M → M → M} {zero : M} {μ : RoseTree α → M}
    (hzero : op zero zero = zero) {p : α → Bool} {t v : RoseTree α}
    (hold : ∀ c ∈ t.children, p c.label = true → μ c = μ v)
    (hnew : (t.children.any fun c ↦ p c.label) = false → μ v = zero) :
    ((t.setChild p v).children.map μ).foldr op zero = (t.children.map μ).foldr op zero := by
  rw [setChild, children_node]
  split
  · rw [List.map_map]
    refine congrArg (List.foldr op zero) (List.map_congr_left fun c hc ↦ ?_)
    rw [Function.comp_apply]
    split
    · rename_i hp
      exact (hold c hc hp).symm
    · rfl
  · rename_i hany
    rw [List.map_append, List.foldr_append, List.map_singleton, List.foldr_cons, List.foldr_nil,
      hnew (by simpa using hany), hzero]

theorem foldr_filter {M : Type} {op : M → M → M} {zero : M} {μ : RoseTree α → M}
    (hzero : ∀ x, op zero x = x) {p : RoseTree α → Bool} {ts : List (RoseTree α)}
    (h : ∀ t ∈ ts, p t = false → μ t = zero) :
    ((ts.filter p).map μ).foldr op zero = (ts.map μ).foldr op zero := by
  induction ts with
  | nil => rfl
  | cons t ts ih =>
    have hrest := ih fun u hu ↦ h u (.tail _ hu)
    rw [List.filter_cons, List.map_cons, List.foldr_cons]
    split
    · rw [List.map_cons, List.foldr_cons, hrest]
    · rename_i hp
      rw [hrest, h t List.mem_cons_self (by simpa using hp), hzero]

theorem countP_walk_node (p : RoseTree α → Bool) (l : α) (ts : List (RoseTree α)) :
    (walk (node l ts)).countP p =
      (ts.map fun t ↦ (walk t).countP p).sum + if p (node l ts) then 1 else 0 := by
  rw [(perm_walk_node l ts).countP_eq, List.countP_cons, List.countP_flatMap]
  rfl

end RoseTree

end TextToSql.Library
