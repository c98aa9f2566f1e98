import Mathlib.Data.List.Basic

namespace TextToSql.Library

variable {α β : Type}

/-- The rows that match; the blank one when none does and the join keeps unmatched rows. -/
def partners (keep : Bool) (blank : β) (on : β → Bool) (ys : List β) : List β :=
  if keep ∧ (ys.filter on).isEmpty then [blank] else ys.filter on

/-- The pairs of a join, which may keep the unmatched rows of either side. -/
def outerJoin (keepLeft keepRight : Bool) (on : α → β → Bool) (blankLeft : α) (blankRight : β)
    (xs : List α) (ys : List β) : List (α × β) :=
  (xs.flatMap fun x ↦ (partners keepLeft blankRight (on x) ys).map (x, ·)) ++
    if keepRight then (ys.filter fun y ↦ !xs.any fun x ↦ on x y).map (blankLeft, ·) else []

variable {keep keepLeft keepRight : Bool} {on : α → β → Bool} {blankLeft : α} {blankRight : β}
  {xs xs' : List α} {ys ys' : List β}

theorem mem_partners {blank y : β} {on : β → Bool} (h : y ∈ partners keep blank on ys) :
    y ∈ ys ∨ keep = true ∧ y = blank := by
  rw [partners] at h
  split at h
  · rename_i hkeep
    exact .inr ⟨hkeep.1, List.mem_singleton.mp h⟩
  · exact .inl (List.mem_filter.mp h).1

theorem mem_outerJoin {p : α × β}
    (h : p ∈ outerJoin keepLeft keepRight on blankLeft blankRight xs ys) :
    (p.1 ∈ xs ∨ keepRight = true ∧ p.1 = blankLeft) ∧
      (p.2 ∈ ys ∨ keepLeft = true ∧ p.2 = blankRight) := by
  rcases List.mem_append.mp h with h | h
  · obtain ⟨x, hx, h⟩ := List.mem_flatMap.mp h
    obtain ⟨y, hy, rfl⟩ := List.mem_map.mp h
    exact ⟨.inl hx, mem_partners hy⟩
  · split at h
    · rename_i hkeep
      obtain ⟨y, hy, rfl⟩ := List.mem_map.mp h
      exact ⟨.inr ⟨hkeep, rfl⟩, .inl (List.mem_filter.mp hy).1⟩
    · cases h

/-- The filter refuses the blank row, or nothing at all. -/
def Decisive (good : α → Bool) (blank : α) : Prop := good blank = false ∨ ∀ x, good x = true

theorem Decisive.comp {good : α → Bool} {f : β → α} {blank : β} (h : Decisive good (f blank)) :
    Decisive (fun x ↦ good (f x)) blank :=
  h.imp id fun hall x ↦ hall (f x)

section Filter

variable {goodLeft : α → Bool} {goodRight : β → Bool}

theorem eq_of_filter_eq (hgood : ∀ x, goodLeft x = true)
    (h : xs.filter goodLeft = xs'.filter goodLeft) : xs = xs' := by
  rwa [List.filter_eq_self.mpr fun x _ ↦ hgood x,
    List.filter_eq_self.mpr fun x _ ↦ hgood x] at h

theorem filter_partners {on : β → Bool} (hR : Decisive goodRight blankRight)
    (hy : ys.filter goodRight = ys'.filter goodRight) :
    (partners keep blankRight on ys).filter goodRight =
      (partners keep blankRight on ys').filter goodRight := by
  rcases hR with hblank | hall
  · have hmatches (zs : List β) : (partners keep blankRight on zs).filter goodRight =
        (zs.filter goodRight).filter on := by
      rw [List.filter_comm, partners]
      split
      · rename_i hempty
        rw [List.isEmpty_iff.mp hempty.2]
        simp [hblank]
      · rfl
    rw [hmatches, hmatches, hy]
  · rw [eq_of_filter_eq hall hy]

theorem filter_unmatched (hL : Decisive goodLeft blankLeft)
    (hx : xs.filter goodLeft = xs'.filter goodLeft)
    (hy : ys.filter goodRight = ys'.filter goodRight) :
    ((ys.filter fun y ↦ !xs.any fun x ↦ on x y).map (blankLeft, ·)).filter
        (fun p ↦ goodLeft p.1 && goodRight p.2) =
      ((ys'.filter fun y ↦ !xs'.any fun x ↦ on x y).map (blankLeft, ·)).filter
        (fun p ↦ goodLeft p.1 && goodRight p.2) := by
  rcases hL with hblank | hall
  · have hnone (zs : List β) : (zs.map (blankLeft, ·)).filter
        (fun p ↦ goodLeft p.1 && goodRight p.2) = [] := by
      simp [hblank]
    rw [hnone, hnone]
  · have hgood (zs : List β) : (zs.map (blankLeft, ·)).filter
        (fun p ↦ goodLeft p.1 && goodRight p.2) = (zs.filter goodRight).map (blankLeft, ·) := by
      rw [List.filter_map]
      congr 2
      funext y
      simp [hall]
    rw [hgood, hgood, List.filter_comm, hy, List.filter_comm, eq_of_filter_eq hall hx]

/-- The good rows of a join depend on the good rows of its sides only. -/
theorem filter_outerJoin (hL : Decisive goodLeft blankLeft) (hR : Decisive goodRight blankRight)
    (hx : xs.filter goodLeft = xs'.filter goodLeft)
    (hy : ys.filter goodRight = ys'.filter goodRight) :
    (outerJoin keepLeft keepRight on blankLeft blankRight xs ys).filter
        (fun p ↦ goodLeft p.1 && goodRight p.2) =
      (outerJoin keepLeft keepRight on blankLeft blankRight xs' ys').filter
        (fun p ↦ goodLeft p.1 && goodRight p.2) := by
  have hmatched (zs : List α) (ws : List β) :
      (zs.flatMap fun x ↦ (partners keepLeft blankRight (on x) ws).map (x, ·)).filter
          (fun p ↦ goodLeft p.1 && goodRight p.2) =
        (zs.filter goodLeft).flatMap fun x ↦
          ((partners keepLeft blankRight (on x) ws).filter goodRight).map (x, ·) := by
    induction zs with
    | nil => rfl
    | cons z zs ih =>
      rw [List.flatMap_cons, List.filter_append, ih, List.filter_map, List.filter_cons]
      by_cases hz : goodLeft z = true
      · have hright : (fun p : α × β ↦ goodLeft p.1 && goodRight p.2) ∘ (z, ·) = goodRight := by
          funext y
          simp [hz]
        rw [if_pos hz, List.flatMap_cons, hright]
      · have hright : (fun p : α × β ↦ goodLeft p.1 && goodRight p.2) ∘ (z, ·) =
            fun _ ↦ false := by
          funext y
          simp [hz]
        rw [if_neg hz, hright]
        simp
  rw [outerJoin, outerJoin, List.filter_append, List.filter_append, hmatched, hmatched, hx]
  congr 1
  · have hpartners (x : α) : (partners keepLeft blankRight (on x) ys).filter goodRight =
        (partners keepLeft blankRight (on x) ys').filter goodRight := filter_partners hR hy
    simp only [hpartners]
  · split
    · exact filter_unmatched hL hx hy
    · rfl

end Filter

end TextToSql.Library
