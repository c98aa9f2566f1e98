import TextToSql.Infrastructure.ReferenceSchema
import TextToSql.Security.ResolutionOrder
import TextToSql.Semantics.Sites
import TextToSql.Semantics.TableAuthorization

namespace TextToSql.Semantics

open Library Domain Sql Security Infrastructure

def shownTo (dialect : SQLDialect) (scope : Scope) (qualifier name : String) : List Output :=
  (innermost (Source.answers dialect qualifier name) scope.frames).flatMap fun s ↦
    s.columns.filter fun c ↦ c.name = name

def shownAt (schema : DatabaseSchema) (site : Site) : List Output :=
  match (site.node.folded schema.dialect).type with
  | .column qualifier name => shownTo schema.dialect site.scope qualifier name
  | _ => []

variable (py : Python) (schema : DatabaseSchema) (e : Expression)

def Resolves (site : Site) : Prop :=
  match (site.node.folded schema.dialect).type with
  | .table ref =>
    (site.scope.cte schema.dialect ref).isSome = true ∨ (denoted schema ref).isSome = true
  | .column qualifier name =>
    if name = "*" then innermost (Source.isNamed qualifier) site.scope.frames ≠ []
    else (qualifier = "" ∧ name ∈ site.scope.outputs) ∨
      shownTo schema.dialect site.scope qualifier name ≠ []
  | _ => True

instance (site : Site) : Decidable (Resolves schema site) := by
  unfold Resolves
  split <;> infer_instance

/-- Every table reference and every column reference resolves at its own position. -/
def WellScoped : Prop := ∀ site ∈ sites schema e {}, Resolves schema site

instance : Decidable (WellScoped schema e) := inferInstanceAs (Decidable (∀ _ ∈ _, _))

/-- The column is reached through a reference whose table the validator looks up, and has there
its own name. -/
structure LookedUp (origin : Origin) (name : String) : Prop where
  checked : origin.ref ∈ checkedTables py e
  found : schema.table py origin.ref.name = some origin.table
  named : schema.table py (lastPart origin.table.qualifiedName) = some origin.table
  column : origin.table.hasColumn py name = true

/-- A column reference, with the name that it writes, that resolves to a column of a looked-up
table. -/
def Plain (site : Site) (name : String) : Prop :=
  ∃ output ∈ shownAt schema site, ∃ origin, output.origin = some origin ∧
    LookedUp py schema e origin name

variable {py schema e}

theorem origin_of_shownTo {dialect : SQLDialect} {scope : Scope} (hs : TracedScope e scope)
    {qualifier name : String} {output : Output} {origin : Origin}
    (h : output ∈ shownTo dialect scope qualifier name) (ho : output.origin = some origin) :
    origin.ref ∈ e.tables ∧ (qualifier ≠ "" → ShownUnder e qualifier origin.ref) := by
  obtain ⟨s, hs', hc⟩ := List.mem_flatMap.mp h
  obtain ⟨hnamed, frame, hframe, hmem⟩ := mem_innermost hs'
  obtain ⟨hr, hname⟩ := hs frame hframe s hmem output (List.mem_filter.mp hc).1 origin ho
  refine ⟨hr, fun hq ↦ ?_⟩
  exact Source.name_of_answers hq hnamed ▸ hname

theorem origin_of_shownAt {site : Site} (hs : TracedScope e site.scope) {qualifier name : String}
    (ht : site.type = .column qualifier name) {output : Output} {origin : Origin}
    (h : output ∈ shownAt schema site) (ho : output.origin = some origin) :
    origin.ref ∈ e.tables ∧ (qualifier ≠ "" → ShownUnder e qualifier origin.ref) := by
  have hfolded : (site.node.folded schema.dialect).type =
      .column (schema.dialect.fold (.table ∈ site.node.quoted) qualifier)
        (schema.dialect.fold (.this ∈ site.node.quoted) name) := by
    rw [Node.folded_type, show site.node.type = .column qualifier name from ht]
    rfl
  rw [shownAt, hfolded] at h
  obtain ⟨hr, hname⟩ := origin_of_shownTo hs h ho
  refine ⟨hr, fun hq ↦ (hname ?_).congr (schema.dialect.fold_sameLetters _ _).symm⟩
  exact SQLDialect.fold_eq_empty.not.mpr hq

/-- A reference to a column of a looked-up table is tolerated, however its alias is reused. -/
theorem tolerated_of_plain {site : Site} (hs : TracedScope e site.scope) {qualifier name : String}
    (ht : site.type = .column qualifier name) (h : Plain py schema e site name) :
    Tolerated py schema e qualifier name := by
  obtain ⟨output, hshown, origin, ho, hl⟩ := h
  obtain ⟨-, halias⟩ := origin_of_shownAt hs ht hshown ho
  have hbound : (origin.ref, origin.table) ∈ SQLValidator.boundTables py schema e :=
    mem_boundTables.mpr ⟨hl.checked, hl.found⟩
  by_cases hq : qualifier = ""
  · refine .referenced hq origin.table (mem_realTableInfos.mpr ⟨_, ?_, hl.named⟩) hl.column
    exact List.mem_map_of_mem (List.mem_map.mpr ⟨_, hbound, rfl⟩)
  · rcases halias hq with hsame | ⟨alias_, hderived, hsame⟩
    · exact .owned hq _ hbound (.inl (hsame.lower py)) hl.column
    · refine .virtual hq ?_
      rw [hsame.lower py, virtualAliases]
      exact List.mem_map_of_mem (List.mem_append_right _ hderived)

def IsUnknown (issue : ValidationIssue) : Prop :=
  issue.code = "unknown_table" ∨ issue.code = "unknown_column"

variable {validator : SQLValidator}

theorem not_isUnknown_of_mem {issue : ValidationIssue}
    (h : issue ∈ statementIssues py e ++ forbiddenIssues e ++ commentIssues e ++ starIssues e ++
      validator.functionIssues py e) : ¬IsUnknown issue := by
  simp only [List.mem_append] at h
  rcases h with (((h | h) | h) | h) | h
  · unfold statementIssues at h
    dsimp only at h
    split at h
    · cases h
    · obtain rfl := List.mem_singleton.mp h
      simp [IsUnknown]
  · unfold forbiddenIssues at h
    split at h
    · cases h
    · obtain rfl := List.mem_singleton.mp h
      simp [IsUnknown]
  · unfold commentIssues at h
    split at h
    · obtain rfl := List.mem_singleton.mp h
      simp [IsUnknown, commentPresent]
    · cases h
  · unfold starIssues at h
    split at h
    · obtain rfl := List.mem_singleton.mp h
      simp [IsUnknown]
    · cases h
  · obtain ⟨name, -, rfl⟩ := List.mem_map.mp h
    simp [IsUnknown]

theorem isUnknown_tableIssues {ref : TableRef} :
    (∃ issue ∈ validator.tableIssues py schema ref, IsUnknown issue) ↔
      schema.table py ref.name = none := by
  simp only [SQLValidator.tableIssues, List.mem_append, or_and_right, exists_or]
  have hknown {p : Prop} [Decidable p] {issue : ValidationIssue} (hi : ¬IsUnknown issue) :
      ¬∃ i ∈ (if p then [issue] else []), IsUnknown i := by
    rintro ⟨i, hmem, hu⟩
    split at hmem
    · obtain rfl := List.mem_singleton.mp hmem
      exact hi hu
    · cases hmem
  rw [iff_false_intro (hknown (by simp [IsUnknown])), iff_false_intro (hknown (by simp [IsUnknown])),
    iff_false_intro (hknown (by simp [IsUnknown])), iff_false_intro (hknown (by simp [IsUnknown]))]
  by_cases hnone : schema.table py ref.name = none <;> simp [hnone, IsUnknown]

theorem isUnknown_of_mem_columnIssues {issue : ValidationIssue}
    (h : issue ∈ SQLValidator.columnIssues py schema e) : IsUnknown issue := by
  obtain ⟨c, -, h⟩ := List.mem_filterMap.mp h
  split at h
  · rename_i found hc
    cases h
    unfold SQLValidator.checkColumn at hc
    split at hc
    · cases hc
    split at hc
    · unfold SQLValidator.checkUnqualified at hc
      split at hc
      · cases hc
      split at hc
      · cases hc
      split at hc
      · cases hc
      · cases hc
        exact .inr rfl
    · unfold SQLValidator.checkQualified at hc
      split at hc
      · cases hc
      split at hc
      · cases hc
      dsimp only at hc
      split at hc
      · cases hc
        exact .inr rfl
      · cases hc
  · cases h

/-- No name is reported as unknown exactly when every looked-up table is found and every column
reference is tolerated. -/
theorem forall_not_isUnknown :
    (∀ issue ∈ validator.findings py schema e, ¬IsUnknown issue) ↔
      (∀ ref ∈ checkedTables py e, schema.table py ref.name ≠ none) ∧
        ∀ c ∈ e.collect columnName, Tolerated py schema e c.1 c.2 := by
  have hcolumns : (∀ issue ∈ SQLValidator.columnIssues py schema e, ¬IsUnknown issue) ↔
      ∀ c ∈ e.collect columnName, Tolerated py schema e c.1 c.2 := by
    have htolerated : SQLValidator.columnIssues py schema e = [] ↔
        ∀ c ∈ e.collect columnName, Tolerated py schema e c.1 c.2 :=
      SQLValidator.columnIssues_eq_nil.trans
        (forall₂_congr fun c _ ↦ checkColumn_ok_iff c.1 c.2)
    rw [← htolerated, List.eq_nil_iff_forall_not_mem]
    exact forall_congr' fun issue ↦
      ⟨fun h hmem ↦ h hmem (isUnknown_of_mem_columnIssues hmem), fun h hmem ↦ absurd hmem h⟩
  have htables : (∀ issue ∈ (checkedTables py e).flatMap (validator.tableIssues py schema),
      ¬IsUnknown issue) ↔ ∀ ref ∈ checkedTables py e, schema.table py ref.name ≠ none := by
    constructor
    · intro h ref hr hnone
      obtain ⟨issue, hi, hu⟩ := isUnknown_tableIssues.mpr hnone
      exact h issue (List.mem_flatMap.mpr ⟨ref, hr, hi⟩) hu
    · intro h issue hi hu
      obtain ⟨ref, hr, hi⟩ := List.mem_flatMap.mp hi
      exact h ref hr (isUnknown_tableIssues.mp ⟨issue, hi, hu⟩)
  rw [← hcolumns, ← htables]
  constructor
  · intro h
    exact ⟨fun issue hi ↦ h issue (List.mem_append_left _ (List.mem_append_right _ hi)),
      fun issue hi ↦ h issue (List.mem_append_right _ hi)⟩
  · rintro ⟨ht, hc⟩ issue hi
    rcases List.mem_append.mp hi with hi | hi
    · rcases List.mem_append.mp hi with hi | hi
      · exact not_isUnknown_of_mem hi
      · exact ht issue hi
    · exact hc issue hi

theorem forall_not_isUnknown_addIssues {found : List ValidationIssue} :
    (∀ issue ∈ addIssues [] found, ¬IsUnknown issue) ↔ ∀ issue ∈ found, ¬IsUnknown issue := by
  have hcodes (issues : List ValidationIssue) : (∀ issue ∈ issues, ¬IsUnknown issue) ↔
      "unknown_table" ∉ issues.map ValidationIssue.code ∧
        "unknown_column" ∉ issues.map ValidationIssue.code := by
    simp only [IsUnknown, not_or, List.mem_map, not_exists, not_and, forall_and]
  rw [hcodes, hcodes, mem_addIssues_code, mem_addIssues_code]
  simp

theorem found_of_resolves {ref : TableRef} {site : Site} (hs : NamedScope e site.scope)
    (ht : site.type = .table ref) (h : Resolves schema site) (hr : ref ∈ checkedTables py e) :
    schema.table py ref.name ≠ none := by
  obtain ⟨-, hname, hvirtual⟩ := mem_checkedTables.mp hr
  have hfolded : (site.node.folded schema.dialect).type = .table ref := by
    rw [Node.folded_type, show site.node.type = .table ref from ht]
    rfl
  rw [Resolves, hfolded] at h
  rcases h with hcte | hdenoted
  · exfalso
    rw [Scope.cte] at hcte
    split at hcte
    · rw [Option.isSome_map] at hcte
      obtain ⟨c, hc⟩ := Option.isSome_iff_exists.mp hcte
      have heq : c.1 = ref.relation schema.dialect := by simpa using List.find?_some hc
      have hsame : SameLetters c.1 ref.name := heq ▸ ref.relation_sameLetters schema.dialect
      rcases hs c (List.mem_of_find?_eq_some hc) with hempty | ⟨alias_, ha, halias⟩
      · exact hname (hsame.eq_empty_iff.mp hempty)
      · apply hvirtual
        rw [← hsame.lower py, halias.lower py, virtualAliases]
        exact List.mem_map_of_mem (List.mem_append_left _ ha)
    · cases hcte
  · obtain ⟨table, ht⟩ := Option.isSome_iff_exists.mp hdenoted
    obtain ⟨hmem, -, -, heq, -⟩ := denotes_of_denoted ht
    rw [DatabaseSchema.table_congr py (SQLDialect.sameLetters_of_fold_eq heq)]
    exact Option.isSome_iff_ne_none.mp (DatabaseSchema.table_isSome py hmem)

/-- A well-scoped statement has no name reported as unknown exactly when the references that do
not resolve to a column of a looked-up table are tolerated. -/
theorem notUnknown_iff (h : WellScoped schema e) :
    (∀ issue ∈ (validator.validateExpression py schema e
      (SQLValidator.newOutcome py [e])).issues, ¬IsUnknown issue) ↔
    ∀ site ∈ sites schema e {}, ∀ qualifier name, site.type = .column qualifier name →
      ¬Plain py schema e site name → Tolerated py schema e qualifier name := by
  have hissues : (∀ issue ∈ (validator.validateExpression py schema e
      (SQLValidator.newOutcome py [e])).issues, ¬IsUnknown issue) ↔
      ∀ issue ∈ validator.findings py schema e, ¬IsUnknown issue := by
    rw [SQLValidator.validateExpression_issues]
    exact forall_not_isUnknown_addIssues
  rw [hissues, forall_not_isUnknown]
  constructor
  · rintro ⟨-, hcolumns⟩ site hsite qualifier name ht -
    obtain ⟨-, n, hn, hnt⟩ := own_of_mem_sites hsite
    exact hcolumns (qualifier, name) (mem_columnNames.mpr ⟨n, hn, hnt.trans ht⟩)
  · intro hsites
    constructor
    · intro ref hr
      obtain ⟨n, hn, ht⟩ := Expression.mem_tables.mp (mem_checkedTables.mp hr).1
      obtain ⟨scope, hsite⟩ := exists_site e hn {}
      exact found_of_resolves (own_of_mem_sites hsite).1.named ht (h _ hsite) hr
    · rintro ⟨qualifier, name⟩ hc
      obtain ⟨n, hn, ht⟩ := mem_columnNames.mp hc
      obtain ⟨scope, hsite⟩ := exists_site e hn {}
      by_cases hp : Plain py schema e ⟨scope, n.label⟩ name
      · exact tolerated_of_plain (own_of_mem_sites hsite).1.traced ht hp
      · exact hsites _ hsite qualifier name ht hp

def recentOrders (alias_ : String) : Expression :=
  .mk .this (.select false)
    [.mk .with_ (.with_ false)
        [.mk .expressions (.cte "recent" [])
          [.mk .this (.select false)
            [.mk .expressions (.alias_ "order_id") [.mk .this (.column "o" "id") []],
              .mk .from_ .from_ [.mk .this (.table { name := "orders", alias_ := "o" }) []]]]],
      .mk .expressions (.column alias_ "order_id") [],
      .mk .from_ .from_ [.mk .this (.table { name := "recent", alias_ }) []]]

theorem notUnknown_recentOrders :
    (∀ issue ∈ (({} : SQLValidator).validateExpression .ascii usersAndOrders (recentOrders "r")
      (SQLValidator.newOutcome .ascii [recentOrders "r"])).issues, ¬IsUnknown issue) ↔
    ∀ site ∈ sites usersAndOrders (recentOrders "r") {}, ∀ qualifier name,
      site.type = .column qualifier name →
      ¬Plain .ascii usersAndOrders (recentOrders "r") site name →
        Tolerated .ascii usersAndOrders (recentOrders "r") qualifier name :=
  notUnknown_iff (by decide +kernel)

theorem reused_alias_unknown :
    WellScoped usersAndOrders (recentOrders "o") ∧
      ∃ issue ∈ (({} : SQLValidator).validateExpression .ascii usersAndOrders (recentOrders "o")
        (SQLValidator.newOutcome .ascii [recentOrders "o"])).issues, IsUnknown issue := by
  refine ⟨by decide +kernel, ?_⟩
  simp only [IsUnknown]
  decide +kernel

end TextToSql.Semantics
