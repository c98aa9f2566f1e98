import TextToSql.Domain.Schema

namespace TextToSql.Schema

open Domain

structure ColumnAnnotation where
  table : String
  column : String
  classification : DataClassification := .internal
  comment : Option String := none
  sampleValues : List String := []

structure TableAnnotation where
  table : String
  comment : Option String := none
  tenantColumn : Option String := none

/-- The annotations of the semantic layer. -/
structure SemanticLayer where
  columnAnnotations : List ColumnAnnotation := []
  tableAnnotations : List TableAnnotation := []

def orElse (value other : Option String) : Option String :=
  (value.filter (· ≠ "")).or other

variable (py : Python) (semantic : SemanticLayer)

namespace SemanticLayer

def columnAnnotation (table column : String) : Option ColumnAnnotation :=
  let t := py.lower (strip table)
  let c := py.lower (strip column)
  semantic.columnAnnotations.find? fun ann ↦ py.lower ann.table = t ∧ py.lower ann.column = c

def tableAnnotation (table : String) : Option TableAnnotation :=
  let t := py.lower (strip table)
  semantic.tableAnnotations.find? fun ann ↦ py.lower ann.table = t

end SemanticLayer

/-- The annotated tenant column, if it exists on the table. -/
def annotatedTenantColumn (table : TableInfo) : Option String :=
  (semantic.tableAnnotation py table.name).bind fun ann ↦
    ann.tenantColumn.filter fun column ↦ column ≠ "" ∧ table.hasColumn py column = true

def enrichColumn (table : TableInfo) (column : ColumnInfo) : ColumnInfo :=
  match semantic.columnAnnotation py table.name column.name with
  | none => column
  | some ann =>
    { column with
      classification := ann.classification
      comment := orElse ann.comment column.comment
      sampleValues := ann.sampleValues }

def enrichTable (table : TableInfo) : TableInfo :=
  { table with
    columns := table.columns.map (enrichColumn py semantic table)
    tenantColumn := annotatedTenantColumn py semantic table
    comment := orElse ((semantic.tableAnnotation py table.name).bind TableAnnotation.comment)
      table.comment }

def enrich (raw : DatabaseSchema) : DatabaseSchema :=
  { raw with tables := raw.tables.map (enrichTable py semantic) }

variable {py semantic}

@[simp] theorem name_enrichColumn (table : TableInfo) (column : ColumnInfo) :
    (enrichColumn py semantic table column).name = column.name := by
  unfold enrichColumn
  split <;> rfl

theorem column_enrichTable (table : TableInfo) (name : String) :
    (enrichTable py semantic table).column py name =
      (table.column py name).map (enrichColumn py semantic table) := by
  have hkey (column : ColumnInfo) :
      (enrichColumn py semantic table column).key py = column.key py := by
    rw [ColumnInfo.key, name_enrichColumn, ColumnInfo.key]
  rw [TableInfo.column, TableInfo.column, enrichTable, List.find?_map]
  simp only [Function.comp_def, hkey]

theorem hasColumn_enrichTable (table : TableInfo) (name : String) :
    (enrichTable py semantic table).hasColumn py name = table.hasColumn py name := by
  rw [TableInfo.hasColumn, TableInfo.hasColumn, column_enrichTable, Option.isSome_map]

theorem tenant_enrichTable (table : TableInfo) :
    (enrichTable py semantic table).tenant = annotatedTenantColumn py semantic table := by
  rw [TableInfo.tenant, enrichTable, annotatedTenantColumn]
  cases semantic.tableAnnotation py table.name with
  | none => rfl
  | some ann =>
    change (ann.tenantColumn.filter _).filter _ = ann.tenantColumn.filter _
    rw [Option.filter_filter]
    congr 1
    funext column
    by_cases h : column = "" <;> simp [h]

/-- A tenant column of the catalog is a column of its table. -/
theorem tenant_hasColumn {table : TableInfo} {column : String}
    (h : (enrichTable py semantic table).tenant = some column) :
    (enrichTable py semantic table).hasColumn py column = true := by
  rw [tenant_enrichTable, annotatedTenantColumn] at h
  obtain ⟨ann, -, h⟩ := Option.bind_eq_some_iff.mp h
  have hp := (Option.filter_eq_some_iff.mp h).2
  rw [hasColumn_enrichTable]
  simpa using (of_decide_eq_true hp).2

theorem index_enrich (raw : DatabaseSchema) (key : String) :
    (enrich py semantic raw).index py key =
      (raw.index py key).map (enrichTable py semantic) := by
  suffices h : ∀ (tables : List TableInfo) (idx idx' : String → Option TableInfo),
      (∀ k, idx' k = (idx k).map (enrichTable py semantic)) → ∀ k,
      ((tables.map (enrichTable py semantic)).foldl (DatabaseSchema.addToIndex py) idx') k =
        ((tables.foldl (DatabaseSchema.addToIndex py) idx) k).map (enrichTable py semantic) from
    h raw.tables (fun _ ↦ none) (fun _ ↦ none) (fun _ ↦ rfl) key
  have hset (idx idx' : String → Option TableInfo)
      (h : ∀ k, idx' k = (idx k).map (enrichTable py semantic)) (name : String)
      (table : TableInfo) (k : String) :
      Function.update idx' name (some (enrichTable py semantic table)) k =
        (Function.update idx name (some table) k).map (enrichTable py semantic) := by
    by_cases hk : k = name
    · rw [hk, Function.update_self, Function.update_self]
      rfl
    · rw [Function.update_of_ne hk, Function.update_of_ne hk, h]
  intro tables
  induction tables with
  | nil => exact fun _ _ h ↦ h
  | cons table tables ih =>
    intro idx idx' h
    refine ih _ _ fun k ↦ ?_
    have hkey := hset idx idx' h (table.key py) table
    have hfree : (Function.update idx' ((enrichTable py semantic table).key py)
        (some (enrichTable py semantic table)) (py.norm (enrichTable py semantic table).name)).isSome =
        (Function.update idx (table.key py) (some table) (py.norm table.name)).isSome :=
      (congrArg Option.isSome (hkey _)).trans Option.isSome_map
    rw [DatabaseSchema.addToIndex, DatabaseSchema.addToIndex, hfree]
    split
    · exact hkey k
    · exact hset _ _ hkey (py.norm table.name) table k

theorem table_enrich (raw : DatabaseSchema) (name : String) :
    (enrich py semantic raw).table py name =
      (raw.table py name).map (enrichTable py semantic) := index_enrich raw _

end TextToSql.Schema
