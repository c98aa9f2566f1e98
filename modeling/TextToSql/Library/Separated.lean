import Mathlib.Data.List.TakeWhile

namespace TextToSql.Library.Separated

variable {α : Type} [DecidableEq α] {sep : α} {xs : List α}

theorem forall_ne_of_not_mem (h : sep ∉ xs) : ∀ x ∈ xs, (x != sep) = true := by
  intro x hx
  rw [bne_iff_ne]
  rintro rfl
  exact h hx

theorem takeWhile_join (h : sep ∉ xs) (ys : List α) :
    (xs ++ sep :: ys).takeWhile (· != sep) = xs := by
  rw [List.takeWhile_append_of_pos (forall_ne_of_not_mem h), List.takeWhile_cons_of_neg (by simp),
    List.append_nil]

theorem drop_dropWhile_join (h : sep ∉ xs) (ys : List α) :
    ((xs ++ sep :: ys).dropWhile (· != sep)).drop 1 = ys := by
  rw [List.dropWhile_append_of_pos (forall_ne_of_not_mem h), List.dropWhile_cons_of_neg (by simp),
    List.drop_one, List.tail_cons]

theorem not_mem_takeWhile (l : List α) : sep ∉ l.takeWhile (· != sep) := by
  intro h
  have hne := List.mem_takeWhile_imp h
  simp at hne

/-- The first part is read back exactly when it does not contain the separator. -/
theorem takeWhile_join_iff {ys : List α} :
    (xs ++ sep :: ys).takeWhile (· != sep) = xs ↔ sep ∉ xs :=
  ⟨fun h ↦ h ▸ not_mem_takeWhile _, fun h ↦ takeWhile_join h ys⟩

theorem reverse_takeWhile_reverse_join_iff {ys : List α} :
    ((ys ++ sep :: xs).reverse.takeWhile (· != sep)).reverse = xs ↔ sep ∉ xs := by
  have hrev : (ys ++ sep :: xs).reverse = xs.reverse ++ sep :: ys.reverse := by simp
  rw [hrev, List.reverse_eq_iff, takeWhile_join_iff, List.mem_reverse]

theorem reverse_takeWhile_reverse_iff :
    (xs.reverse.takeWhile (· != sep)).reverse = xs ↔ sep ∉ xs := by
  rw [List.reverse_eq_iff, List.takeWhile_eq_self_iff]
  constructor
  · intro h hm
    simpa using h sep (List.mem_reverse.mpr hm)
  · intro h x hx
    exact forall_ne_of_not_mem h x (List.mem_reverse.mp hx)

end TextToSql.Library.Separated
