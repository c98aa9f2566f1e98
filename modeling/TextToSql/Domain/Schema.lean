import TextToSql.Domain.Text

namespace TextToSql.Domain

inductive SQLDialect where
  | sqlite | postgres
  deriving DecidableEq

def SQLDialect.sqlglotName : SQLDialect → String
  | .sqlite => "sqlite"
  | .postgres => "postgres"

inductive DataClassification where
  | isPublic | internal | confidential | pii | financial | authSecret | highlyRestricted
  deriving DecidableEq

def DataClassification.value : DataClassification → String
  | .isPublic => "public"
  | .internal => "internal"
  | .confidential => "confidential"
  | .pii => "pii"
  | .financial => "financial"
  | .authSecret => "auth_secret"
  | .highlyRestricted => "highly_restricted"

structure ForeignKeyRef where
  columns : List String
  referredTable : String
  referredColumns : List String
  referredSchema : Option String := none
  deriving DecidableEq

structure ColumnInfo where
  name : String
  dataType : String := ""
  nullable : Bool := true
  isPrimaryKey : Bool := false
  comment : Option String := none
  classification : DataClassification := .internal
  sampleValues : List String := []
  deriving DecidableEq

structure TableInfo where
  name : String
  schemaName : Option String := none
  kind : String := "table"
  comment : Option String := none
  columns : List ColumnInfo := []
  primaryKey : List String := []
  foreignKeys : List ForeignKeyRef := []
  uniqueConstraints : List (List String) := []
  indexes : List String := []
  rowEstimate : Option Int := none
  tenantColumn : Option String := none
  deriving DecidableEq

structure DatabaseSchema where
  dialect : SQLDialect
  tables : List TableInfo := []
  version : String := "0"

variable (py : Python)

def ColumnInfo.key (column : ColumnInfo) : String := py.norm column.name

namespace TableInfo

def qualifiedName (table : TableInfo) : String :=
  match table.schemaName with
  | some schema => if schema = "" then table.name else schema ++ "." ++ table.name
  | none => table.name

def key (table : TableInfo) : String := py.norm table.qualifiedName

def column (table : TableInfo) (name : String) : Option ColumnInfo :=
  table.columns.find? fun c ↦ c.key py = py.norm name

def hasColumn (table : TableInfo) (name : String) : Bool := (table.column py name).isSome

def tenant (table : TableInfo) : Option String := table.tenantColumn.filter (· ≠ "")

theorem column_congr {table : TableInfo} {s t : String} (h : SameLetters s t) :
    table.column py s = table.column py t := by
  rw [column, column, h.norm py]

theorem column_mem {table : TableInfo} {name : String} {c : ColumnInfo}
    (h : table.column py name = some c) : c ∈ table.columns := List.mem_of_find?_eq_some h

theorem column_key {table : TableInfo} {name : String} {c : ColumnInfo}
    (h : table.column py name = some c) : c.key py = py.norm name := by
  simpa using List.find?_some h

end TableInfo

namespace DatabaseSchema

/-- One round of `_index`: the qualified name is set, the bare name only if it is free. -/
def addToIndex (idx : String → Option TableInfo) (table : TableInfo) :
    String → Option TableInfo :=
  let idx := Function.update idx (table.key py) (some table)
  if (idx (py.norm table.name)).isSome then idx
  else Function.update idx (py.norm table.name) (some table)

def index (schema : DatabaseSchema) : String → Option TableInfo :=
  schema.tables.foldl (addToIndex py) fun _ ↦ none

def table (schema : DatabaseSchema) (name : String) : Option TableInfo :=
  schema.index py (py.norm name)

theorem table_congr {schema : DatabaseSchema} {s t : String} (h : SameLetters s t) :
    schema.table py s = schema.table py t := by
  rw [table, table, h.norm py]

/-- What an index knows about its entries. -/
def Indexed (tables : List TableInfo) (idx : String → Option TableInfo) : Prop :=
  ∀ k t, idx k = some t → t ∈ tables ∧ (t.key py = k ∨ py.norm t.name = k)

theorem indexed_addToIndex {tables : List TableInfo} {idx : String → Option TableInfo}
    (h : Indexed py tables idx) {table : TableInfo} (ht : table ∈ tables) :
    Indexed py tables (addToIndex py idx table) := by
  have hu : Indexed py tables (Function.update idx (table.key py) (some table)) := by
    intro k t hk
    by_cases hkey : k = table.key py
    · subst hkey
      rw [Function.update_self] at hk
      cases hk
      exact ⟨ht, .inl rfl⟩
    · rw [Function.update_of_ne hkey] at hk
      exact h k t hk
  intro k t hk
  rw [addToIndex] at hk
  split at hk
  · exact hu k t hk
  · by_cases hkey : k = py.norm table.name
    · subst hkey
      rw [Function.update_self] at hk
      cases hk
      exact ⟨ht, .inr rfl⟩
    · rw [Function.update_of_ne hkey] at hk
      exact hu k t hk

theorem indexed_index (schema : DatabaseSchema) :
    Indexed py schema.tables (schema.index py) := by
  suffices h : ∀ tables, tables ⊆ schema.tables → ∀ idx, Indexed py schema.tables idx →
      Indexed py schema.tables (tables.foldl (addToIndex py) idx) from
    h _ (List.Subset.refl _) _ (fun _ _ h ↦ nomatch h)
  intro tables
  induction tables with
  | nil => exact fun _ _ h ↦ h
  | cons t ts ih =>
    intro hts idx h
    obtain ⟨ht, hts⟩ := List.cons_subset.mp hts
    exact ih hts _ (indexed_addToIndex py h ht)

theorem table_mem {schema : DatabaseSchema} {name : String} {t : TableInfo}
    (h : schema.table py name = some t) : t ∈ schema.tables := (indexed_index py schema _ _ h).1

theorem table_key {schema : DatabaseSchema} {name : String} {t : TableInfo}
    (h : schema.table py name = some t) :
    t.key py = py.norm name ∨ py.norm t.name = py.norm name :=
  (indexed_index py schema _ _ h).2

theorem addToIndex_keeps {idx : String → Option TableInfo} {k : String}
    (h : (idx k).isSome = true) (table : TableInfo) :
    (addToIndex py idx table k).isSome = true := by
  unfold addToIndex
  split <;> simp only [Function.update_apply] <;> split_ifs <;> simp_all

theorem addToIndex_self (idx : String → Option TableInfo) (table : TableInfo) :
    (addToIndex py idx table (py.norm table.name)).isSome = true := by
  unfold addToIndex
  split
  · assumption
  · simp

theorem foldl_addToIndex_keeps {idx : String → Option TableInfo} {k : String}
    (h : (idx k).isSome = true) (tables : List TableInfo) :
    (tables.foldl (addToIndex py) idx k).isSome = true := by
  induction tables generalizing idx with
  | nil => exact h
  | cons t ts ih => exact ih (addToIndex_keeps py h t)

theorem table_isSome {schema : DatabaseSchema} {table : TableInfo} (h : table ∈ schema.tables) :
    (schema.table py table.name).isSome = true := by
  obtain ⟨before, after, htables⟩ := List.append_of_mem h
  rw [DatabaseSchema.table, index, htables, List.foldl_append, List.foldl_cons]
  exact foldl_addToIndex_keeps py (addToIndex_self py _ table) after

end DatabaseSchema

end TextToSql.Domain
