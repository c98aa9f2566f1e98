import TextToSql.Sql.RecordedColumns
import TextToSql.Sql.Skeleton

namespace TextToSql.Sql

open Library Domain

def TableRef.lowerNames (ref : TableRef) : TableRef where
  catalog := asciiLower ref.catalog
  db := asciiLower ref.db
  name := asciiLower ref.name
  alias_ := asciiLower ref.alias_
  columns := ref.columns.map asciiLower

namespace NodeType

def lowerNames : NodeType → NodeType
  | .subquery name columns => .subquery (asciiLower name) (columns.map asciiLower)
  | .lateral name columns => .lateral (asciiLower name) (columns.map asciiLower)
  | .cte name columns => .cte (asciiLower name) (columns.map asciiLower)
  | .table ref => .table ref.lowerNames
  | .column qualifier name => .column (asciiLower qualifier) (asciiLower name)
  | .identifier name => .identifier (asciiLower name)
  | .alias_ name => .alias_ (asciiLower name)
  | .func sqlName aggregate => .func (asciiLower sqlName) aggregate
  | .anonymous name => .anonymous (asciiLower name)
  | t => t

theorem skeleton_lowerNames (t : NodeType) : t.lowerNames.skeleton = t.skeleton := by
  cases t <;> rfl

end NodeType

def Node.lowerNames (n : Node) : Node := { n with type := n.type.lowerNames, quoted := [] }

@[simp] theorem Node.lowerNames_key (n : Node) : n.lowerNames.key = n.key := rfl

@[simp] theorem Node.lowerNames_type (n : Node) : n.lowerNames.type = n.type.lowerNames := rfl

def Expression.lowerNames (e : Expression) : Expression := RoseTree.map Node.lowerNames e

/-- The same statement up to the case of the letters in its names and the quotes around them. -/
def CaseVariant (e e' : Expression) : Prop := e.lowerNames = e'.lowerNames

theorem asciiLower_eq_empty {s : String} : asciiLower s = "" ↔ s = "" :=
  (SameLetters.asciiLower_left s).eq_empty_iff

theorem asciiLower_eq_star {s : String} : asciiLower s = "*" ↔ s = "*" := by
  constructor
  · intro h
    have hl : s.toList.map Char.toLower = ['*'] := by
      simpa [asciiLower] using congrArg String.toList h
    obtain ⟨c, hc, hlower⟩ := List.map_eq_singleton_iff.mp hl
    rcases toLower_eq_or c with hsame | ⟨-, halpha⟩
    · rw [hsame] at hlower
      rw [← String.ofList_toList (s := s), hc, hlower]
    · rw [hlower] at halpha
      exact absurd halpha (by decide)
  · rintro rfl
    decide

theorem Expression.skeleton_lowerNames (e : Expression) :
    e.lowerNames.skeleton = e.skeleton := by
  rw [Expression.lowerNames, Expression.skeleton, RoseTree.map_map, Expression.skeleton]
  congr 1
  funext n
  simp [Node.skeleton, Node.lowerNames, NodeType.skeleton_lowerNames]

theorem CaseVariant.skeleton {e e' : Expression} (h : CaseVariant e e') :
    e.skeleton = e'.skeleton := by
  rw [← e.skeleton_lowerNames, ← e'.skeleton_lowerNames, h]

section LowerNames

variable (py : Python) (schema : DatabaseSchema) (e : Expression)

theorem virtualAliases_lowerNames : virtualAliases py e.lowerNames = virtualAliases py e := by
  have hcte : e.lowerNames.collect cteAlias = (e.collect cteAlias).map asciiLower := by
    refine Expression.collect_map_of_map _ e fun n ↦ ?_
    rw [Node.lowerNames_type]
    cases n.type <;> simp [NodeType.lowerNames, cteAlias, asciiLower_eq_empty]
    split <;> simp
  have hsubquery :
      e.lowerNames.collect subqueryAlias = (e.collect subqueryAlias).map asciiLower := by
    refine Expression.collect_map_of_map _ e fun n ↦ ?_
    rw [Node.lowerNames_type]
    cases n.type <;> simp [NodeType.lowerNames, subqueryAlias, asciiLower_eq_empty]
    split <;> simp
  rw [virtualAliases, virtualAliases, hcte, hsubquery, ← List.map_append, List.map_map]
  exact List.map_congr_left fun s _ ↦ py.lower_asciiLower s

theorem outputAliases_lowerNames : outputAliases py e.lowerNames = outputAliases py e := by
  have halias :
      e.lowerNames.collect projectionAlias = (e.collect projectionAlias).map asciiLower := by
    refine Expression.collect_map_of_map _ e fun n ↦ ?_
    rw [Node.lowerNames_type]
    cases n.type <;> simp [NodeType.lowerNames, projectionAlias, asciiLower_eq_empty]
    split <;> simp
  rw [outputAliases, outputAliases, halias, List.map_map]
  exact List.map_congr_left fun s _ ↦ py.lower_asciiLower s

theorem functionNames_lowerNames :
    e.lowerNames.collect (functionName py) = e.collect (functionName py) := by
  refine Expression.collect_map_of_eq _ e fun n ↦ ?_
  rw [Node.lowerNames_type]
  cases n.type <;> simp [NodeType.lowerNames, functionName, py.lower_asciiLower]

theorem checkedTables_lowerNames :
    checkedTables py e.lowerNames = (checkedTables py e).map TableRef.lowerNames := by
  have htables : e.lowerNames.tables = e.tables.map TableRef.lowerNames := by
    refine Expression.collect_map_of_map _ e fun n ↦ ?_
    rw [Node.lowerNames_type]
    cases n.type <;> rfl
  rw [checkedTables, checkedTables, htables, virtualAliases_lowerNames, List.filter_map]
  refine congrArg (List.map _) (List.filter_congr fun ref _ ↦ ?_)
  simp [TableRef.lowerNames, asciiLower_eq_empty, py.lower_asciiLower]

theorem columns_lowerNames :
    e.lowerNames.collect columnName =
      (e.collect columnName).map fun c ↦ (asciiLower c.1, asciiLower c.2) := by
  refine Expression.collect_map_of_map _ e fun n ↦ ?_
  rw [Node.lowerNames_type]
  cases n.type <;> rfl

namespace SQLValidator

theorem boundTables_lowerNames :
    boundTables py schema e.lowerNames =
      (boundTables py schema e).map fun b ↦ (b.1.lowerNames, b.2) := by
  rw [boundTables, boundTables, checkedTables_lowerNames, List.filterMap_map,
    List.map_filterMap]
  refine List.filterMap_congr fun ref _ ↦ ?_
  have hname : schema.table py ref.lowerNames.name = schema.table py ref.name :=
    DatabaseSchema.table_congr py (SameLetters.asciiLower_left ref.name)
  rw [Function.comp_apply, hname, Option.map_map]
  rfl

theorem realTables_lowerNames : realTables py schema e.lowerNames = realTables py schema e := by
  rw [realTables, realTables, boundTables_lowerNames, List.map_map]
  rfl

theorem realTableInfos_lowerNames :
    realTableInfos py schema e.lowerNames = realTableInfos py schema e := by
  rw [realTableInfos, realTableInfos, realTables_lowerNames]

theorem aliasOrName_lowerNames (ref : TableRef) :
    ref.lowerNames.aliasOrName = asciiLower ref.aliasOrName := by
  simp only [TableRef.aliasOrName, TableRef.lowerNames, asciiLower_eq_empty]
  split <;> rfl

theorem mem_aliasToReal_lowerNames {qualifier name : String} :
    name ∈ aliasToReal py schema e.lowerNames qualifier ↔
      ∃ name' ∈ aliasToReal py schema e qualifier, asciiLower name' = name := by
  simp only [aliasToReal, mem_sortedSet, boundTables_lowerNames, List.mem_map, List.mem_filter,
    decide_eq_true_eq]
  constructor
  · rintro ⟨-, ⟨⟨b, hb, rfl⟩, hq⟩, rfl⟩
    rw [aliasOrName_lowerNames, TableRef.lowerNames, py.lower_asciiLower,
      py.lower_asciiLower] at hq
    exact ⟨b.1.name, ⟨b, ⟨hb, hq⟩, rfl⟩, rfl⟩
  · rintro ⟨-, ⟨b, ⟨hb, hq⟩, rfl⟩, rfl⟩
    refine ⟨(b.1.lowerNames, b.2), ⟨⟨b, hb, rfl⟩, ?_⟩, rfl⟩
    rw [aliasOrName_lowerNames, TableRef.lowerNames, py.lower_asciiLower, py.lower_asciiLower]
    exact hq

/-- Columns of the same outcome: both recorded, as the same references up to letter case, or both
refused with the same code. -/
inductive SameCheck : Except ValidationIssue (List String) →
    Except ValidationIssue (List String) → Prop where
  | error {i i' : ValidationIssue} (h : i.code = i'.code) : SameCheck (.error i) (.error i')
  | ok {refs refs' : List String}
      (h : ∀ ref, ref ∈ refs.map asciiLower ↔ ref ∈ refs'.map asciiLower) :
      SameCheck (.ok refs) (.ok refs')

theorem SameCheck.refl (check : Except ValidationIssue (List String)) : SameCheck check check := by
  cases check with
  | error i => exact .error rfl
  | ok refs => exact .ok fun _ ↦ Iff.rfl

theorem asciiLower_recorded (table name : String) :
    asciiLower s!"{table}.{asciiLower name}" = asciiLower s!"{table}.{name}" :=
  ((SameLetters.refl table).append (SameLetters.refl ".")).append
    (SameLetters.asciiLower_left name)

theorem hasColumn_asciiLower (table : TableInfo) (name : String) :
    table.hasColumn py (asciiLower name) = table.hasColumn py name := by
  rw [TableInfo.hasColumn, TableInfo.column_congr py (SameLetters.asciiLower_left name)]
  rfl

theorem mem_owners_lowerNames (qualifier name : String) (table : TableInfo) :
    table ∈ ((aliasToReal py schema e.lowerNames qualifier).filterMap
        (schema.table py)).filter (·.hasColumn py (asciiLower name)) ↔
      table ∈ ((aliasToReal py schema e qualifier).filterMap (schema.table py)).filter
        (·.hasColumn py name) := by
  simp only [List.mem_filter, List.mem_filterMap, hasColumn_asciiLower]
  refine and_congr_left fun _ ↦ ?_
  constructor
  · rintro ⟨n, hn, ht⟩
    obtain ⟨n', hn', rfl⟩ := (mem_aliasToReal_lowerNames py schema e).mp hn
    refine ⟨n', hn', ?_⟩
    rw [← ht]
    exact (DatabaseSchema.table_congr py (SameLetters.asciiLower_left n')).symm
  · rintro ⟨n, hn, ht⟩
    refine ⟨asciiLower n, (mem_aliasToReal_lowerNames py schema e).mpr ⟨n, hn, rfl⟩, ?_⟩
    rw [← ht]
    exact DatabaseSchema.table_congr py (SameLetters.asciiLower_left n)

theorem checkQualified_lowerNames (qualifier name : String) :
    SameCheck (checkQualified py schema e.lowerNames qualifier (asciiLower name))
      (checkQualified py schema e qualifier name) := by
  have howners {table : TableInfo} := mem_owners_lowerNames py schema e qualifier name table
  have hnil : aliasToReal py schema e.lowerNames qualifier = [] ↔
      aliasToReal py schema e qualifier = [] := by
    simp only [List.eq_nil_iff_forall_not_mem, mem_aliasToReal_lowerNames]
    grind
  unfold checkQualified
  rw [virtualAliases_lowerNames]
  split
  · exact .refl _
  · cases h : aliasToReal py schema e qualifier with
    | nil =>
      rw [hnil.mpr h]
      exact .refl _
    | cons first others =>
      cases h' : aliasToReal py schema e.lowerNames qualifier with
      | nil => simp [hnil.mp h'] at h
      | cons first' others' =>
        rw [h, h'] at howners
        dsimp only
        generalize ((first :: others).filterMap _).filter _ = owners at howners ⊢
        generalize ((first' :: others').filterMap _).filter _ = owners' at howners ⊢
        have hempty : owners' = [] ↔ owners = [] := by
          simp only [List.eq_nil_iff_forall_not_mem, howners]
        by_cases hno : owners = []
        · rw [if_pos hno, if_pos (hempty.mpr hno)]
          exact .error rfl
        · rw [if_neg hno, if_neg (hempty.not.mpr hno)]
          refine .ok fun ref ↦ ?_
          simp only [List.map_map, List.mem_map, Function.comp_apply, howners,
            asciiLower_recorded]

theorem checkUnqualified_lowerNames (name : String) :
    SameCheck (checkUnqualified py schema e.lowerNames (asciiLower name))
      (checkUnqualified py schema e name) := by
  unfold checkUnqualified
  rw [outputAliases_lowerNames, py.lower_asciiLower, realTableInfos_lowerNames]
  simp only [hasColumn_asciiLower]
  split
  · exact .refl _
  · split
    · rename_i owner owners _
      refine .ok fun ref ↦ ?_
      simp only [List.map_cons, List.map_nil, asciiLower_recorded]
    · split
      · exact .refl _
      · exact .error rfl

theorem checkColumn_lowerNames (column : String × String) :
    SameCheck (checkColumn py schema e.lowerNames (asciiLower column.1, asciiLower column.2))
      (checkColumn py schema e column) := by
  simp only [checkColumn, asciiLower_eq_empty, asciiLower_eq_star, py.lower_asciiLower]
  split
  · exact .refl _
  · split
    · exact checkUnqualified_lowerNames py schema e column.2
    · exact checkQualified_lowerNames py schema e (py.lower column.1) column.2

def refusal : Except ValidationIssue (List String) → Option ValidationIssue
  | .error issue => some issue
  | .ok _ => none

theorem SameCheck.recordedBy {check check' : Except ValidationIssue (List String)}
    (h : SameCheck check check') (ref : String) :
    ref ∈ (recordedBy check).map asciiLower ↔ ref ∈ (recordedBy check').map asciiLower := by
  cases h with
  | error => exact Iff.rfl
  | ok h => exact h ref

theorem SameCheck.refusal {check check' : Except ValidationIssue (List String)}
    (h : SameCheck check check') :
    (refusal check).map ValidationIssue.code = (refusal check').map ValidationIssue.code := by
  cases h with
  | error h => exact congrArg some h
  | ok => rfl

theorem columnIssues_eq (e : Expression) :
    columnIssues py schema e =
      (e.collect columnName).filterMap fun c ↦ refusal (checkColumn py schema e c) := by
  refine List.filterMap_congr fun c _ ↦ ?_
  cases checkColumn py schema e c <;> rfl

theorem columnIssues_lowerNames :
    (columnIssues py schema e.lowerNames).map ValidationIssue.code =
      (columnIssues py schema e).map ValidationIssue.code := by
  rw [columnIssues_eq, columnIssues_eq, columns_lowerNames, List.filterMap_map,
    List.map_filterMap, List.map_filterMap]
  refine List.filterMap_congr fun c _ ↦ ?_
  exact (checkColumn_lowerNames py schema e c).refusal

theorem resolvedColumns_lowerNames (ref : String) :
    ref ∈ (resolvedColumns py schema e.lowerNames).map asciiLower ↔
      ref ∈ (resolvedColumns py schema e).map asciiLower := by
  rw [resolvedColumns_eq, resolvedColumns_eq, columns_lowerNames, List.flatMap_map,
    List.map_flatMap, List.map_flatMap, List.mem_flatMap, List.mem_flatMap]
  refine exists_congr fun c ↦ and_congr_right fun _ ↦ ?_
  exact (checkColumn_lowerNames py schema e c).recordedBy ref

theorem tableIssues_lowerNames (validator : SQLValidator) (ref : TableRef) :
    (validator.tableIssues py schema ref.lowerNames).map ValidationIssue.code =
      (validator.tableIssues py schema ref).map ValidationIssue.code := by
  have hname : schema.table py (asciiLower ref.name) = schema.table py ref.name :=
    DatabaseSchema.table_congr py (SameLetters.asciiLower_left ref.name)
  have hcode (p : Prop) [Decidable p] (issue : ValidationIssue) :
      (if p then [issue] else []).map ValidationIssue.code =
        if p then [issue.code] else [] := by
    split
    · rfl
    · rfl
  rw [tableIssues, tableIssues]
  simp only [List.map_append, hcode]
  simp only [TableRef.lowerNames, ne_eq, asciiLower_eq_empty, py.lower_asciiLower, hname]

theorem findings_lowerNames (validator : SQLValidator) :
    (validator.findings py schema e.lowerNames).map ValidationIssue.code =
      (validator.findings py schema e).map ValidationIssue.code := by
  have hs := e.skeleton_lowerNames
  simp only [findings, List.map_append, List.map_flatMap, columnIssues_lowerNames,
    checkedTables_lowerNames, List.flatMap_map, tableIssues_lowerNames, functionIssues,
    functionNames_lowerNames]
  rw [← statementIssues_skeleton, hs, statementIssues_skeleton, ← forbiddenIssues_skeleton, hs,
    forbiddenIssues_skeleton, ← commentIssues_skeleton, hs, commentIssues_skeleton,
    ← starIssues_skeleton, hs, starIssues_skeleton]

end SQLValidator

end LowerNames

end TextToSql.Sql
