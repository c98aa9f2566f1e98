import TextToSql.Sql.Validator

namespace TextToSql.Sql.SQLValidator

open Library Domain

variable (py : Python) (schema : DatabaseSchema) (e : Expression)

/-- The tables that are recorded as owners of a column reference. -/
def owners (column : String × String) : List TableInfo :=
  if column.2 = "" ∨ column.2 = "*" then []
  else if py.lower column.1 = "" then
    if py.lower column.2 ∈ outputAliases py e then []
    else ((realTableInfos py schema e).filter (·.hasColumn py column.2)).take 1
  else if py.lower column.1 ∈ virtualAliases py e then []
  else
    ((aliasToReal py schema e (py.lower column.1)).filterMap (schema.table py)).filter
      (·.hasColumn py column.2)

def recordedText (table : TableInfo) (column : String) : String := s!"{table.name}.{column}"

def RecordedColumn (table : TableInfo) (column : String) : Prop :=
  ∃ qualifier, (qualifier, column) ∈ e.collect columnName ∧
    table ∈ owners py schema e (qualifier, column)

variable {py schema e}

def recordedBy : Except ValidationIssue (List String) → List String
  | .error _ => []
  | .ok refs => refs

theorem resolvedColumns_eq :
    resolvedColumns py schema e =
      (e.collect columnName).flatMap fun c ↦ recordedBy (checkColumn py schema e c) := by
  refine List.flatMap_congr fun c _ ↦ ?_
  cases checkColumn py schema e c <;> rfl

theorem checkQualified_owners (qualifier name : String) :
    recordedBy (checkQualified py schema e qualifier name) =
      (if qualifier ∈ virtualAliases py e then []
        else
          ((aliasToReal py schema e qualifier).filterMap (schema.table py)).filter
            (·.hasColumn py name)).map fun table ↦ recordedText table name := by
  rw [checkQualified]
  by_cases hv : qualifier ∈ virtualAliases py e
  · rw [if_pos hv, if_pos hv]
    rfl
  · rw [if_neg hv, if_neg hv]
    cases aliasToReal py schema e qualifier with
    | nil => rfl
    | cons first others =>
      dsimp only
      split
      · rename_i hnil
        rw [hnil]
        rfl
      · rfl

theorem checkUnqualified_owners (name : String) :
    recordedBy (checkUnqualified py schema e name) =
      (if py.lower name ∈ outputAliases py e then []
        else ((realTableInfos py schema e).filter (·.hasColumn py name)).take 1).map fun table ↦
          recordedText table name := by
  rw [checkUnqualified]
  by_cases ho : py.lower name ∈ outputAliases py e
  · rw [if_pos ho, if_pos ho]
    rfl
  · rw [if_neg ho, if_neg ho]
    cases (realTableInfos py schema e).filter (·.hasColumn py name) with
    | nil =>
      dsimp only
      split <;> rfl
    | cons owner owners => rfl

/-- The recorded texts are those of the owners. -/
theorem resolvedColumns_owners :
    resolvedColumns py schema e = (e.collect columnName).flatMap fun c ↦
      (owners py schema e c).map fun table ↦ recordedText table c.2 := by
  rw [resolvedColumns_eq]
  congr 1
  funext c
  unfold checkColumn owners
  split
  · rfl
  · split
    · exact checkUnqualified_owners c.2
    · exact checkQualified_owners _ c.2

theorem mem_resolvedColumns {text : String} :
    text ∈ resolvedColumns py schema e ↔
      ∃ table column, RecordedColumn py schema e table column ∧
        text = recordedText table column := by
  rw [resolvedColumns_owners, List.mem_flatMap]
  constructor
  · rintro ⟨⟨qualifier, column⟩, hc, h⟩
    obtain ⟨table, ht, rfl⟩ := List.mem_map.mp h
    exact ⟨table, column, ⟨qualifier, hc, ht⟩, rfl⟩
  · rintro ⟨table, column, ⟨qualifier, hc, ht⟩, rfl⟩
    exact ⟨(qualifier, column), hc, List.mem_map.mpr ⟨table, ht, rfl⟩⟩

theorem checkUnqualified_ok_iff (name : String) :
    (∃ refs, checkUnqualified py schema e name = .ok refs) ↔
      py.lower name ∈ outputAliases py e ∨
        (∃ table ∈ realTableInfos py schema e, table.hasColumn py name = true) ∨
        realTableInfos py schema e = [] := by
  rw [checkUnqualified]
  by_cases ho : py.lower name ∈ outputAliases py e
  · simp [ho]
  · rw [if_neg ho]
    cases hf : (realTableInfos py schema e).filter (·.hasColumn py name) with
    | nil =>
      have hnone : ∀ table ∈ realTableInfos py schema e, ¬table.hasColumn py name = true := by
        simpa [List.filter_eq_nil_iff] using hf
      dsimp only
      by_cases hi : realTableInfos py schema e = []
      · simp [hi]
      · rw [if_neg hi]
        simp only [reduceCtorEq, exists_false, ho, hi, or_false, false_or, false_iff]
        rintro ⟨table, ht, hc⟩
        exact hnone table ht hc
    | cons owner rest =>
      have howner := List.mem_filter.mp (hf ▸ List.mem_cons_self : owner ∈ _)
      exact ⟨fun _ ↦ .inr (.inl ⟨owner, howner.1, howner.2⟩), fun _ ↦ ⟨_, rfl⟩⟩

theorem checkQualified_ok_iff (qualifier name : String) :
    (∃ refs, checkQualified py schema e qualifier name = .ok refs) ↔
      qualifier ∈ virtualAliases py e ∨ aliasToReal py schema e qualifier = [] ∨
        ∃ other ∈ aliasToReal py schema e qualifier, ∃ table,
          schema.table py other = some table ∧ table.hasColumn py name = true := by
  rw [checkQualified]
  by_cases hv : qualifier ∈ virtualAliases py e
  · simp [hv]
  · rw [if_neg hv]
    cases aliasToReal py schema e qualifier with
    | nil => simp
    | cons first others =>
      dsimp only
      have howners : ((first :: others).filterMap (schema.table py)).filter (·.hasColumn py name) ≠
          [] ↔ ∃ other ∈ first :: others, ∃ table, schema.table py other = some table ∧
            table.hasColumn py name = true := by
        rw [Ne, List.filter_eq_nil_iff]
        push Not
        constructor
        · rintro ⟨table, ht, hc⟩
          obtain ⟨other, ho, ht⟩ := List.mem_filterMap.mp ht
          exact ⟨other, ho, table, ht, hc⟩
        · rintro ⟨other, ho, table, ht, hc⟩
          exact ⟨table, List.mem_filterMap.mpr ⟨other, ho, ht⟩, hc⟩
      split
      · rename_i hnil
        have hnone := howners.not.mp (not_not.mpr hnil)
        simp only [reduceCtorEq, exists_false, hv, false_or, false_iff]
        exact hnone
      · rename_i hne
        exact ⟨fun _ ↦ .inr (.inr (howners.mp hne)), fun _ ↦ ⟨_, rfl⟩⟩

theorem columnIssues_eq_nil :
    columnIssues py schema e = [] ↔
      ∀ c ∈ e.collect columnName, ∃ refs, checkColumn py schema e c = .ok refs := by
  rw [columnIssues, List.filterMap_eq_nil_iff]
  refine forall₂_congr fun c _ ↦ ?_
  cases checkColumn py schema e c <;> simp

end TextToSql.Sql.SQLValidator
