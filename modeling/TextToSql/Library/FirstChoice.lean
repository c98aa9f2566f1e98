import Mathlib.Data.List.Perm.Basic

namespace TextToSql.Library.FirstChoice

variable {α γ : Type} [DecidableEq α] (offers bad : γ → α → Bool) (choices : List γ)

/-- In this order some choice is made by an element that is bad for it. -/
def Spoiled (order : List α) : Prop :=
  ∃ c ∈ choices, ∃ a, order.find? (offers c) = some a ∧ bad c a = true

/-- Each of these elements is bad for a choice that no other element offers. -/
structure Blocked (elements part : List α) : Prop where
  nonempty : part ≠ []
  subset : part ⊆ elements
  bad : ∀ a ∈ part, ∃ c ∈ choices, offers c a = true ∧ bad c a = true ∧
    ∀ b ∈ elements, offers c b = true → b ∈ part

variable {offers bad choices} {elements : List α}

theorem exists_spoiled_iff :
    (∃ order, order.Perm elements ∧ Spoiled offers bad choices order) ↔
      ∃ c ∈ choices, ∃ a ∈ elements, offers c a = true ∧ bad c a = true := by
  constructor
  · rintro ⟨order, hperm, c, hc, a, hfind, hbad⟩
    exact ⟨c, hc, a, hperm.mem_iff.mp (List.mem_of_find?_eq_some hfind), List.find?_some hfind,
      hbad⟩
  · rintro ⟨c, hc, a, ha, hoffers, hbad⟩
    refine ⟨a :: elements.erase a, (List.perm_cons_erase ha).symm, c, hc, a, ?_, hbad⟩
    rw [List.find?_cons_of_pos hoffers]

theorem exists_order (hfree : ∀ part, ¬Blocked offers bad choices elements part)
    (rest : List α) (hrest : rest ⊆ elements) :
    ∃ order : List α, order.Perm rest ∧ ∀ c ∈ choices,
      (∀ b ∈ elements, offers c b = true → b ∈ rest) →
      ∀ a, order.find? (offers c) = some a → bad c a = false := by
  induction hlen : rest.length generalizing rest with
  | zero =>
    obtain rfl := List.length_eq_zero_iff.mp hlen
    exact ⟨[], .refl _, fun c _ _ a h ↦ by cases h⟩
  | succ n ih =>
    have hne : rest ≠ [] := by
      rintro rfl
      cases hlen
    -- some element of the rest is bad for no choice that is left
    obtain ⟨a, ha, hgood⟩ : ∃ a ∈ rest, ∀ c ∈ choices, offers c a = true → bad c a = true →
        ∃ b ∈ elements, offers c b = true ∧ b ∉ rest := by
      by_contra hnone
      push Not at hnone
      refine hfree rest ⟨hne, hrest, fun a ha ↦ ?_⟩
      obtain ⟨c, hc, hoffers, hbad, hclosed⟩ := hnone a ha
      exact ⟨c, hc, hoffers, hbad, hclosed⟩
    obtain ⟨order, hperm, horder⟩ := ih (rest.erase a)
      (fun b hb ↦ hrest (List.mem_of_mem_erase hb)) (by
        rw [List.length_erase_of_mem ha, hlen]
        rfl)
    refine ⟨a :: order, (hperm.cons a).trans (List.perm_cons_erase ha).symm, ?_⟩
    intro c hc hclosed b hfind
    by_cases hoffers : offers c a = true
    · rw [List.find?_cons_of_pos hoffers] at hfind
      obtain rfl := Option.some.inj hfind
      by_contra hbad
      obtain ⟨d, hd, hod, hout⟩ := hgood c hc hoffers (by simpa using hbad)
      exact hout (hclosed d hd hod)
    · rw [List.find?_cons_of_neg hoffers] at hfind
      refine horder c hc (fun d hd hod ↦ ?_) b hfind
      refine (List.mem_erase_of_ne ?_).mpr (hclosed d hd hod)
      rintro rfl
      exact hoffers hod

/-- Every order is spoiled exactly when some of the elements are blocked. -/
theorem forall_spoiled_iff :
    (∀ order, order.Perm elements → Spoiled offers bad choices order) ↔
      ∃ part, Blocked offers bad choices elements part := by
  constructor
  · intro h
    by_contra hfree
    obtain ⟨order, hperm, hgood⟩ := exists_order (fun part hb ↦ hfree ⟨part, hb⟩) elements
      (List.Subset.refl _)
    obtain ⟨c, hc, a, hfind, hbad⟩ := h order hperm
    rw [hgood c hc (fun b hb _ ↦ hb) a hfind] at hbad
    cases hbad
  · rintro ⟨part, hblocked⟩ order hperm
    -- the first blocked element makes its choice
    obtain ⟨b, hb⟩ := List.exists_mem_of_ne_nil _ hblocked.nonempty
    have hfirst : (order.find? fun a ↦ decide (a ∈ part)).isSome = true := by
      rw [List.find?_isSome]
      exact ⟨b, hperm.mem_iff.mpr (hblocked.subset hb), decide_eq_true hb⟩
    obtain ⟨a, ha⟩ := Option.isSome_iff_exists.mp hfirst
    obtain ⟨hmem, pre, post, rfl, hpre⟩ := List.find?_eq_some_iff_append.mp ha
    obtain ⟨c, hc, hoffers, hbad, hclosed⟩ := hblocked.bad a (of_decide_eq_true hmem)
    refine ⟨c, hc, a, List.find?_eq_some_iff_append.mpr ⟨hoffers, pre, post, rfl, ?_⟩, hbad⟩
    intro d hd
    by_contra hod
    rw [Bool.not_eq_true, Bool.not_eq_false'] at hod
    have hout := hpre d hd
    rw [Bool.not_eq_true', decide_eq_false_iff_not] at hout
    exact hout (hclosed d (hperm.mem_iff.mp (List.mem_append_left _ hd)) hod)

end TextToSql.Library.FirstChoice
