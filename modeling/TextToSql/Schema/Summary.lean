import TextToSql.Domain.PlainCatalog
import TextToSql.Infrastructure.ReferenceSchema
import TextToSql.Llm.Prompt
import TextToSql.Security.References

namespace TextToSql.Schema

open Domain Infrastructure Security Sql SQLValidator

structure SchemaColumnSummary where
  name : String
  dataType : String
  nullable : Bool
  isPrimaryKey : Bool
  classification : String
  sensitive : Bool
  deriving DecidableEq

structure SchemaTableSummary where
  name : String
  kind : String
  comment : Option String := none
  columns : List SchemaColumnSummary
  deriving DecidableEq

structure SchemaSummaryResponse where
  dialect : SQLDialect
  version : String
  tables : List SchemaTableSummary
  deriving DecidableEq

abbrev ColumnVisibility : Type := String → String → DataClassification → Bool

def defaultVisibility : ColumnVisibility := fun _ _ classification ↦
  classification ∉ [.authSecret, .highlyRestricted]

def columnSummary (column : ColumnInfo) : SchemaColumnSummary where
  name := column.name
  dataType := column.dataType
  nullable := column.nullable
  isPrimaryKey := column.isPrimaryKey
  classification := column.classification.value
  sensitive := Llm.isSensitive column.classification

def tableSummary (visible : ColumnVisibility) (table : TableInfo) : SchemaTableSummary where
  name := table.qualifiedName
  kind := table.kind
  comment := table.comment
  columns := (table.columns.filter fun column ↦
    visible table.name column.name column.classification).map columnSummary

def summary (schema : DatabaseSchema) (visible : Option ColumnVisibility) :
    SchemaSummaryResponse where
  dialect := schema.dialect
  version := schema.version
  tables := schema.tables.map (tableSummary (visible.getD defaultVisibility))

/-- The summary that `GET /schema` gives a caller. -/
def summaryFor (py : Python) (schema : DatabaseSchema) (roles : List String) :
    SchemaSummaryResponse :=
  summary schema (some fun _ _ classification ↦ canView py classification roles)

def Shows (response : SchemaSummaryResponse) (table column : String) : Prop :=
  ∃ t ∈ response.tables, t.name = table ∧ ∃ c ∈ t.columns, c.name = column

/-- Tables without a dot in their names, and in each of them columns whose normalized names
differ. -/
structure Addressable (py : Python) (schema : DatabaseSchema) : Prop where
  plain : schema.Plain py
  undotted : ∀ t ∈ schema.tables, '.' ∉ t.name.toList
  distinct : ∀ t ∈ schema.tables, (t.columns.map (·.key py)).Nodup

variable {py : Python} {schema : DatabaseSchema}

theorem column_of_mem {table : TableInfo} {column : ColumnInfo}
    (hd : (table.columns.map (·.key py)).Nodup) (hc : column ∈ table.columns) :
    table.column py column.name = some column := by
  cases hfound : table.column py column.name with
  | none =>
    rw [TableInfo.column, List.find?_eq_none] at hfound
    exact absurd (decide_eq_true (p := column.key py = py.norm column.name) rfl)
      (hfound column hc)
  | some found =>
    have hkey : found.key py = column.key py := TableInfo.column_key py hfound
    rw [List.inj_on_of_nodup_map hd (TableInfo.column_mem py hfound) hc hkey]

namespace Addressable

variable (h : Addressable py schema) {table : TableInfo} {column : ColumnInfo}

include h

theorem table_name (ht : table ∈ schema.tables) : schema.table py table.name = some table :=
  h.plain.index_eq_some.mpr ⟨ht, h.plain.key_eq ht⟩

theorem lookupReference_eq (ht : table ∈ schema.tables) (hc : column ∈ table.columns) :
    lookupReference py schema (recordedText table column.name) = some column := by
  have hdecoded : decoded py schema (recordedText table column.name) = some (table, column.name) :=
    decoded_recordedText.mpr ⟨h.undotted table ht, h.table_name ht⟩
  rw [lookupReference_of_decoded hdecoded, column_of_mem (h.distinct table ht) hc]

theorem columnDenials_eq_nil (ht : table ∈ schema.tables) (hc : column ∈ table.columns)
    (roles : List String) :
    columnDenials py schema roles (recordedText table column.name) = [] ↔
      canView py column.classification roles = true := by
  rw [columnDenials, h.lookupReference_eq ht hc]
  dsimp only
  split
  · rename_i hv
    exact ⟨fun _ ↦ hv, fun _ ↦ rfl⟩
  · rename_i hv
    exact ⟨fun hd ↦ absurd hd (List.cons_ne_nil _ _), fun hv' ↦ absurd hv' hv⟩

theorem shows_iff (ht : table ∈ schema.tables) (hc : column ∈ table.columns)
    (roles : List String) :
    Shows (summaryFor py schema roles) table.name column.name ↔
      canView py column.classification roles = true := by
  constructor
  · rintro ⟨t, htables, hname, c, hcolumns, hcolumn⟩
    obtain ⟨table', ht', rfl⟩ := List.mem_map.mp htables
    obtain ⟨column', hcolumn', rfl⟩ := List.mem_map.mp hcolumns
    obtain ⟨hc', hv⟩ := List.mem_filter.mp hcolumn'
    rw [tableSummary, h.plain.qualifiedName_eq ht'] at hname
    have htable := (h.table_name ht').symm.trans ((congrArg _ hname).trans (h.table_name ht))
    obtain rfl := Option.some.inj htable
    have hfound := column_of_mem (h.distinct _ ht') hc'
    rw [show column'.name = column.name from hcolumn,
      column_of_mem (h.distinct _ ht) hc] at hfound
    rwa [Option.some.inj hfound]
  · intro hv
    refine ⟨_, List.mem_map_of_mem ht, h.plain.qualifiedName_eq ht, _,
      List.mem_map_of_mem (List.mem_filter.mpr ⟨hc, hv⟩), rfl⟩

end Addressable

def recordedTexts (columns : List (TableInfo × ColumnInfo)) : List String :=
  columns.map fun x ↦ recordedText x.1 x.2.name

/-- The policy accepts columns of the catalog exactly when `GET /schema` shows the caller all of
them. -/
theorem enforce_iff_shows (py : Python) (config : SecurityPolicyConfig) (schema : DatabaseSchema)
    (h : Addressable py schema) (auth : AuthContext) (tables : List String)
    (columns : List (TableInfo × ColumnInfo))
    (hcolumns : ∀ x ∈ columns, x.1 ∈ schema.tables ∧ x.2 ∈ x.1.columns) :
    (enforce py config schema tables (recordedTexts columns) auth).allowed = true ↔
      (enforce py config schema tables [] auth).allowed = true ∧
        ∀ x ∈ columns, Shows (summaryFor py schema auth.roles) x.1.name x.2.name := by
  simp only [enforce, denials, recordedTexts, List.isEmpty_iff, List.append_eq_nil_iff,
    List.flatMap_eq_nil_iff, List.flatMap_nil, and_true, List.forall_mem_map]
  refine and_congr_right fun _ ↦ forall₂_congr fun x hx ↦ ?_
  obtain ⟨ht, hc⟩ := hcolumns x hx
  rw [h.columnDenials_eq_nil ht hc, h.shows_iff ht hc]

theorem addressable_usersAndOrders : Addressable .ascii usersAndOrders where
  plain :=
    { unqualified := by decide +kernel
      name := by
        intro t ht
        constructor <;> revert t <;> decide +kernel
      distinct := by decide +kernel }
  undotted := by decide +kernel
  distinct := by decide +kernel

def userColumns : List (TableInfo × ColumnInfo) :=
  [users.columns[0], users.columns[3], users.columns[4]].map fun column ↦ (users, column)

def analyst : AuthContext where
  userId := "u1"
  tenantId := "1"
  roles := ["analyst"]

theorem enforce_analyst_shows :
    ((enforce .ascii {} usersAndOrders ["users"] (recordedTexts userColumns) analyst).allowed =
        true ↔
      (enforce .ascii {} usersAndOrders ["users"] [] analyst).allowed = true ∧
        ∀ x ∈ userColumns,
          Shows (summaryFor .ascii usersAndOrders ["analyst"]) x.1.name x.2.name) ∧
      (enforce .ascii {} usersAndOrders ["users"] [] analyst).allowed = true ∧
      (enforce .ascii {} usersAndOrders ["users"] (recordedTexts userColumns) analyst).allowed =
        false :=
  ⟨enforce_iff_shows .ascii {} usersAndOrders addressable_usersAndOrders analyst ["users"]
    userColumns (by decide +kernel), by decide +kernel, by decide +kernel⟩

end TextToSql.Schema
