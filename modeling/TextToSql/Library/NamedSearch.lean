import Mathlib.Data.List.Basic

namespace TextToSql.Library.NamedSearch

variable {α β : Type} [DecidableEq β] (name : α → β)

def firstOfEach : List α → List α
  | [] => []
  | entry :: rest => entry :: (firstOfEach rest).filter fun e ↦ name e ≠ name entry

/-- The entries that pass the test, without those of a name found before. -/
def findBy (occurs : α → Bool) (entries : List α) : List α :=
  firstOfEach name (entries.filter occurs)

variable {name}

theorem mem_firstOfEach {entries : List α} {e : α} (h : e ∈ firstOfEach name entries) :
    e ∈ entries := by
  induction entries with
  | nil => cases h
  | cons entry rest ih =>
    rcases List.mem_cons.mp h with rfl | h
    · exact List.mem_cons_self
    · exact List.mem_cons_of_mem _ (ih (List.mem_filter.mp h).1)

theorem nodup_firstOfEach (entries : List α) : ((firstOfEach name entries).map name).Nodup := by
  induction entries with
  | nil => exact List.nodup_nil
  | cons entry rest ih =>
    rw [firstOfEach, List.map_cons, List.nodup_cons]
    refine ⟨?_, ih.sublist (List.filter_sublist.map _)⟩
    rw [List.mem_map]
    rintro ⟨e, he, hname⟩
    exact absurd hname (by simpa using (List.mem_filter.mp he).2)

theorem firstOfEach_sublist (entries : List α) : (firstOfEach name entries).Sublist entries := by
  induction entries with
  | nil => exact .slnil
  | cons entry rest ih => exact (List.filter_sublist.trans ih).cons_cons entry

theorem findBy_sublist (occurs : α → Bool) (entries : List α) :
    (findBy name occurs entries).Sublist entries :=
  (firstOfEach_sublist _).trans List.filter_sublist

theorem nodup_findBy (occurs : α → Bool) (entries : List α) :
    ((findBy name occurs entries).map name).Nodup := nodup_firstOfEach _

theorem findBy_cons_of_pos {occurs : α → Bool} {entry : α} {rest : List α}
    (h : occurs entry = true) : findBy name occurs (entry :: rest) =
      entry :: (findBy name occurs rest).filter fun e ↦ name e ≠ name entry := by
  rw [findBy, List.filter_cons_of_pos h, firstOfEach, findBy]

theorem findBy_cons_of_neg {occurs : α → Bool} {entry : α} {rest : List α}
    (h : ¬occurs entry = true) : findBy name occurs (entry :: rest) = findBy name occurs rest := by
  rw [findBy, List.filter_cons_of_neg h, findBy]

theorem filter_names_of_mem {entry : α} {names : List β} (h : name entry ∈ names)
    (rest : List α) : ((entry :: rest.filter fun e ↦ name e ≠ name entry).filter
      fun e ↦ name e ∉ names) = rest.filter fun e ↦ name e ∉ names := by
  rw [List.filter_cons_of_neg (by simpa using h), List.filter_filter]
  apply List.filter_congr
  intro e _
  by_cases he : name e ∈ names
  · simp [he]
  · have hne : name e ≠ name entry := fun h' ↦ he (h' ▸ h)
    simp [he, hne]

theorem filter_names_of_not_mem {entry : α} {names : List β} (h : name entry ∉ names)
    (rest : List α) : ((entry :: rest.filter fun e ↦ name e ≠ name entry).filter
      fun e ↦ name e ∉ names) = entry :: rest.filter fun e ↦ name e ∉ names ++ [name entry] := by
  rw [List.filter_cons_of_pos (by simpa using h), List.filter_filter]
  congr 1
  apply List.filter_congr
  intro e _
  simp only [List.mem_append, List.mem_singleton, not_or, Bool.decide_and, ne_eq]

theorem forall_split_cons {P : List α → α → Prop} {entry : α} {rest : List α} :
    (∀ front e back, entry :: rest = front ++ e :: back → P front e) ↔
      P [] entry ∧ ∀ front e back, rest = front ++ e :: back → P (entry :: front) e := by
  constructor
  · intro h
    exact ⟨h [] entry rest rfl, fun front e back heq ↦ h (entry :: front) e back (by rw [heq]; rfl)⟩
  · intro ⟨hfirst, hrest⟩ front e back heq
    cases front with
    | nil =>
      obtain ⟨rfl, rfl⟩ := List.cons.inj heq
      exact hfirst
    | cons d front =>
      obtain ⟨rfl, heq'⟩ := List.cons.inj heq
      exact hrest front e back heq'

theorem filter_findBy_eq_iff {p q : α → Bool} (hpq : ∀ e, p e = true → q e = true)
    (entries : List α) (names : List β) :
    (findBy name p entries).filter (fun e ↦ name e ∉ names) =
        (findBy name q entries).filter (fun e ↦ name e ∉ names) ↔
      ∀ front e back, entries = front ++ e :: back → name e ∉ names → q e = true →
        (∀ d ∈ front, q d = true → name d ≠ name e) → p e = true := by
  induction entries generalizing names with
  | nil => simp [findBy, firstOfEach]
  | cons entry rest ih =>
    rw [@forall_split_cons _ fun front e ↦ name e ∉ names → q e = true →
      (∀ d ∈ front, q d = true → name d ≠ name e) → p e = true]
    by_cases hq : q entry = true
    · rw [findBy_cons_of_pos hq]
      by_cases hname : name entry ∈ names
      · have hp : (findBy name p (entry :: rest)).filter (fun e ↦ name e ∉ names) =
            (findBy name p rest).filter fun e ↦ name e ∉ names := by
          by_cases hp : p entry = true
          · rw [findBy_cons_of_pos hp, filter_names_of_mem hname]
          · rw [findBy_cons_of_neg hp]
        rw [hp, filter_names_of_mem hname, ih]
        constructor
        · intro h
          refine ⟨fun hn ↦ absurd hname hn, fun front e back heq hn hqe hfront ↦ ?_⟩
          exact h front e back heq hn hqe fun d hd ↦ hfront d (List.mem_cons_of_mem _ hd)
        · intro h front e back heq hn hqe hfront
          refine h.2 front e back heq hn hqe (List.forall_mem_cons.mpr ⟨fun _ hne ↦ ?_, hfront⟩)
          exact hn (hne ▸ hname)
      · rw [filter_names_of_not_mem hname]
        by_cases hp : p entry = true
        · rw [findBy_cons_of_pos hp, filter_names_of_not_mem hname, List.cons_inj_right, ih]
          constructor
          · intro h
            refine ⟨fun _ _ _ ↦ hp, fun front e back heq hn hqe hfront ↦ ?_⟩
            have hfront := List.forall_mem_cons.mp hfront
            have hne : name e ∉ names ++ [name entry] := by
              rw [List.mem_append, List.mem_singleton, not_or]
              exact ⟨hn, fun h' ↦ hfront.1 hq h'.symm⟩
            exact h front e back heq hne hqe hfront.2
          · intro h front e back heq hn hqe hfront
            rw [List.mem_append, List.mem_singleton, not_or] at hn
            exact h.2 front e back heq hn.1 hqe
              (List.forall_mem_cons.mpr ⟨fun _ h' ↦ hn.2 h'.symm, hfront⟩)
        · rw [findBy_cons_of_neg hp]
          constructor
          · intro h
            have hentry : entry ∈ findBy name p rest :=
              List.mem_of_mem_filter (h ▸ List.mem_cons_self)
            exact absurd (List.mem_filter.mp (mem_firstOfEach hentry)).2 hp
          · intro h
            exact absurd (h.1 hname hq fun d hd ↦ absurd hd List.not_mem_nil) hp
    · have hp : ¬p entry = true := fun h ↦ hq (hpq entry h)
      rw [findBy_cons_of_neg hq, findBy_cons_of_neg hp, ih]
      constructor
      · intro h
        refine ⟨fun _ hqe ↦ absurd hqe hq, fun front e back heq hn hqe hfront ↦ ?_⟩
        exact h front e back heq hn hqe fun d hd ↦ hfront d (List.mem_cons_of_mem _ hd)
      · intro h front e back heq hn hqe hfront
        exact h.2 front e back heq hn hqe
          (List.forall_mem_cons.mpr ⟨fun hqd ↦ absurd hqd hq, hfront⟩)

/-- The searches agree when the first entry of each name that one of them would find is found by
the other. -/
theorem findBy_eq_iff {p q : α → Bool} (hpq : ∀ e, p e = true → q e = true) (entries : List α) :
    findBy name p entries = findBy name q entries ↔
      ∀ front e back, entries = front ++ e :: back → q e = true →
        (∀ d ∈ front, q d = true → name d ≠ name e) → p e = true := by
  simpa using filter_findBy_eq_iff hpq entries []

end TextToSql.Library.NamedSearch
