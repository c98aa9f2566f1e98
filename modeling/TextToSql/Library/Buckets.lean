import Mathlib.Data.List.Basic
import Mathlib.Data.List.GetD
import Mathlib.Tactic.Common

namespace TextToSql.Library.Buckets

variable {α β : Type} (le : α → β → Bool)

def slot (bounds : List β) (a : α) : ℕ := bounds.findIdx (le a)

/-- Count a value: in the first bucket whose bound it does not exceed, or else in the last one. -/
def place (bounds : List β) (counts : List ℕ) (a : α) : List ℕ :=
  match bounds.findIdx? (le a) with
  | some i => counts.modify i (· + 1)
  | none => counts.modify (counts.length - 1) (· + 1)

/-- The totals up to each bound, and the total below the last bucket. -/
def runningTotals (counts : List ℕ) : ℕ → ℕ → List β → List (β × ℕ) × ℕ
  | _, total, [] => ([], total)
  | i, total, bound :: rest =>
    let total := total + counts.getD i 0
    let totals := runningTotals counts (i + 1) total rest
    ((bound, total) :: totals.1, totals.2)

def Growing (bounds : List β) : Prop :=
  bounds.Pairwise fun u v ↦ ∀ a, le a u = true → le a v = true

variable {le} {bounds : List β} {counts : List ℕ}

theorem slot_le (bounds : List β) (a : α) : slot le bounds a ≤ bounds.length :=
  List.findIdx_le_length

theorem place_eq (hlength : counts.length = bounds.length + 1) (a : α) :
    place le bounds counts a = counts.modify (slot le bounds a) (· + 1) := by
  rw [place, slot, List.findIdx_eq_getD_findIdx?]
  cases bounds.findIdx? (le a) with
  | some i => rfl
  | none =>
    rw [hlength]
    rfl

theorem length_place (a : α) : (place le bounds counts a).length = counts.length := by
  rw [place]
  split
  · exact List.length_modify _ _ _
  · exact List.length_modify _ _ _

theorem getD_place (hlength : counts.length = bounds.length + 1) (a : α) {i : ℕ}
    (hi : i ≤ bounds.length) : (place le bounds counts a).getD i 0 =
      counts.getD i 0 + if slot le bounds a = i then 1 else 0 := by
  have hlt : i < counts.length := by omega
  rw [place_eq hlength, List.getD_eq_getElem?_getD, List.getD_eq_getElem?_getD,
    List.getElem?_modify, List.getElem?_eq_getElem hlt]
  split
  · rfl
  · rfl

/-- Each bucket counts the values that belong to it. -/
theorem getD_foldl_place (hlength : counts.length = bounds.length + 1) (values : List α) {i : ℕ}
    (hi : i ≤ bounds.length) : (values.foldl (place le bounds) counts).getD i 0 =
      counts.getD i 0 + values.countP (slot le bounds · = i) := by
  induction values generalizing counts with
  | nil => rfl
  | cons a values ih =>
    rw [List.foldl_cons, ih ((length_place a).trans hlength), getD_place hlength a hi,
      List.countP_cons, Nat.add_assoc]
    simp only [decide_eq_true_eq, Nat.add_comm]

theorem length_foldl_place (values : List α) :
    (values.foldl (place le bounds) counts).length = counts.length := by
  induction values generalizing counts with
  | nil => rfl
  | cons a values ih => rw [List.foldl_cons, ih, length_place]

theorem slot_le_iff {front back : List β} {bound : β} (hgrowing : Growing le (front ++ bound :: back))
    (a : α) : slot le (front ++ bound :: back) a ≤ front.length ↔ le a bound = true := by
  rw [slot, List.findIdx_append]
  by_cases hfront : List.findIdx (le a) front < front.length
  · rw [if_pos hfront]
    refine iff_of_true (Nat.le_of_lt hfront) ?_
    have hholds := List.findIdx_getElem (w := hfront)
    exact (List.pairwise_append.mp hgrowing).2.2 _ (List.getElem_mem hfront) bound
      List.mem_cons_self a hholds
  · rw [if_neg hfront, List.findIdx_cons]
    cases le a bound with
    | false => simp
    | true => simp

theorem countP_slot_succ (values : List α) (i : ℕ) :
    values.countP (slot le bounds · < i + 1) =
      values.countP (slot le bounds · < i) + values.countP (slot le bounds · = i) := by
  induction values with
  | nil => rfl
  | cons a values ih =>
    simp only [List.countP_cons, ih, decide_eq_true_eq]
    split_ifs <;> omega

theorem runningTotals_eq {values : List α} {front back : List β}
    (hgrowing : Growing le (front ++ back))
    (hcounts : ∀ i ≤ (front ++ back).length,
      counts.getD i 0 = values.countP (slot le (front ++ back) · = i)) :
    runningTotals counts front.length (values.countP (slot le (front ++ back) · < front.length))
        back =
      (back.map fun bound ↦ (bound, values.countP (le · bound)),
        values.countP (slot le (front ++ back) · < (front ++ back).length)) := by
  induction back generalizing front with
  | nil => rw [runningTotals, List.append_nil, List.map_nil]
  | cons bound back ih =>
    have hassoc : front ++ bound :: back = (front ++ [bound]) ++ back := by simp
    have htotal : values.countP (slot le (front ++ bound :: back) · < front.length) +
        counts.getD front.length 0 =
          values.countP (slot le (front ++ bound :: back) · < (front ++ [bound]).length) := by
      rw [hcounts _ (by simp), List.length_append, List.length_singleton, countP_slot_succ]
    have hbound : values.countP (slot le (front ++ bound :: back) · < (front ++ [bound]).length) =
        values.countP (le · bound) := by
      apply List.countP_congr
      intro a _
      rw [List.length_append, List.length_singleton, decide_eq_true_eq, Nat.lt_succ_iff,
        slot_le_iff hgrowing]
    have hrest := @ih (front ++ [bound]) (hassoc ▸ hgrowing) (hassoc ▸ hcounts)
    rw [← hassoc, List.length_append, List.length_singleton] at hrest
    rw [List.length_append, List.length_singleton] at htotal hbound
    rw [runningTotals, htotal, hrest, List.map_cons, hbound]

/-- The running totals of the counts of some values: how many of them each bound holds, and all of
them when those of the last bucket are added. -/
theorem runningTotals_foldl_place (hgrowing : Growing le bounds) (values : List α) :
    let counts := values.foldl (place le bounds) (List.replicate (bounds.length + 1) 0)
    (runningTotals counts 0 0 bounds).1 =
        (bounds.map fun bound ↦ (bound, values.countP (le · bound))) ∧
      (runningTotals counts 0 0 bounds).2 + counts.getD (counts.length - 1) 0 = values.length := by
  intro counts
  have hlength : (List.replicate (bounds.length + 1) 0).length = bounds.length + 1 :=
    List.length_replicate
  have hcounts (i : ℕ) (hi : i ≤ bounds.length) :
      counts.getD i 0 = values.countP (slot le bounds · = i) := by
    have hempty : (List.replicate (bounds.length + 1) 0).getD i 0 = 0 :=
      List.getD_replicate _ (Nat.lt_succ_of_le hi)
    rw [getD_foldl_place hlength values hi, hempty, Nat.zero_add]
  have hzero : values.countP (slot le bounds · < 0) = 0 := by simp
  have htotals := @runningTotals_eq _ _ le counts values [] bounds hgrowing hcounts
  rw [List.nil_append, List.length_nil, hzero] at htotals
  have hlast : counts.length - 1 = bounds.length := by
    rw [length_foldl_place, hlength, Nat.add_sub_cancel]
  rw [htotals, hlast, hcounts _ (Nat.le_refl _), ← countP_slot_succ]
  refine ⟨rfl, List.countP_eq_length.mpr fun a _ ↦ ?_⟩
  rw [decide_eq_true_eq, Nat.lt_succ_iff]
  exact slot_le bounds a

theorem countP_mono {u v : β} (h : ∀ a, le a u = true → le a v = true) (values : List α) :
    values.countP (le · u) ≤ values.countP (le · v) :=
  List.countP_mono_left fun a _ ↦ h a

end TextToSql.Library.Buckets
