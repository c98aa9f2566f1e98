import TextToSql.Application.Container
import TextToSql.Schema.SemanticLayer
import TextToSql.Semantics.Scope

namespace TextToSql.Application

open Library Domain Sql Security Schema Semantics

/-- `TenantRewriter`, with the column name that it is built with and that `rewrite` never reads. -/
structure TenantRewriter where
  tenantColumnDefault : String := "organization_id"

def TenantRewriter.targets (_rewriter : TenantRewriter) (py : Python) (schema : DatabaseSchema)
    (e : Expression) : List (Target Expression) := Security.targets py schema id e

def buildRewriter (settings : Settings) : TenantRewriter :=
  ⟨(securityConfig settings).tenantColumn⟩

variable (settings : Settings) (py : Python) (semantic : SemanticLayer) (raw : DatabaseSchema)
  (e : Expression)

def scopeOf (visit : RoseTree.Visit Node) : Option Expression :=
  visit.1.find? fun a ↦ a.label.type.isSelect

/-- A reference to a base table in a select, whose table has the configured tenant column. -/
structure HasTenantColumn (visit : RoseTree.Visit Node) (ref : TableRef) (scope : Expression)
    (table : TableInfo) : Prop where
  visited : visit ∈ RoseTree.walkUp e
  isTable : visit.2.label.type = .table ref
  base : ref ∈ baseTables (enrich py semantic raw) e
  inSelect : scopeOf visit = some scope
  found : (enrich py semantic raw).table py ref.name = some table
  physical : table.hasColumn py settings.tenantColumn = true

def Receives (ref : TableRef) (scope : Expression) (column : String) : Prop :=
  ⟨scope, ref, column⟩ ∈ (buildRewriter settings).targets py (enrich py semantic raw) e

def TenantEnforced : Prop :=
  ∀ visit ref scope table, HasTenantColumn settings py semantic raw e visit ref scope table →
    ∃ column, Receives settings py semantic raw e ref scope column

def ConfiguredColumnEnforced : Prop :=
  ∀ visit ref scope table, HasTenantColumn settings py semantic raw e visit ref scope table →
    ∃ column, Receives settings py semantic raw e ref scope column ∧
      py.norm column = py.norm settings.tenantColumn

def Annotated (table : TableInfo) (column : String) : Prop :=
  ∃ ann, semantic.tableAnnotation py table.name = some ann ∧ ann.tenantColumn = some column ∧
    column ≠ "" ∧ table.hasColumn py column = true

variable {settings py semantic raw e}

theorem annotatedTenantColumn_eq_some {table : TableInfo} {column : String} :
    annotatedTenantColumn py semantic table = some column ↔
      Annotated py semantic table column := by
  simp only [annotatedTenantColumn, Annotated, Option.bind_eq_some_iff,
    Option.filter_eq_some_iff, decide_eq_true_eq]

theorem annotated_enrichTable {table : TableInfo} {column : String} :
    Annotated py semantic (enrichTable py semantic table) column ↔
      Annotated py semantic table column := by
  simp only [Annotated, hasColumn_enrichTable]
  rfl

theorem tenant_eq_some {ref : TableRef} {table : TableInfo} {column : String}
    (ht : (enrich py semantic raw).table py ref.name = some table) :
    table.tenant = some column ↔ Annotated py semantic table column := by
  rw [table_enrich] at ht
  obtain ⟨table, -, rfl⟩ := Option.map_eq_some_iff.mp ht
  rw [tenant_enrichTable, annotatedTenantColumn_eq_some, annotated_enrichTable]

theorem receives_iff {visit : RoseTree.Visit Node} {ref : TableRef} {scope : Expression}
    {table : TableInfo} (h : HasTenantColumn settings py semantic raw e visit ref scope table)
    {column : String} :
    Receives settings py semantic raw e ref scope column ↔ Annotated py semantic table column := by
  have hcolumn : tenantColumn py (enrich py semantic raw) (.table ref) =
      table.tenant.map fun column ↦ (ref, column) := by
    rw [tenantColumn, NodeType.tableRef, Option.bind_some, h.found, Option.bind_some]
  rw [← tenant_eq_some h.found, Receives, TenantRewriter.targets, Security.targets,
    List.mem_filterMap]
  constructor
  · rintro ⟨other, -, hother⟩
    obtain ⟨found, hfound, hmap⟩ := Option.bind_eq_some_iff.mp hother
    obtain ⟨_, -, heq⟩ := Option.map_eq_some_iff.mp hmap
    cases heq
    obtain ⟨ref', href', hfound⟩ := Option.bind_eq_some_iff.mp hfound
    obtain ⟨c, hc, rfl⟩ := Option.map_eq_some_iff.mp hfound
    rwa [h.found] at hc
  · intro hc
    refine ⟨visit, h.visited, ?_⟩
    have hscope : (visit.1.find? fun a ↦ (id a.label).type.isSelect) = some scope := h.inSelect
    rw [targetOf, id, h.isTable, hcolumn, hc, Option.map_some, Option.bind_some, hscope]
    rfl

variable (settings py semantic raw e)

/-- What the setting enforces is what the annotations of the semantic layer say: a predicate is
added where they name a column of the table, on the configured column where they name that one. -/
theorem tenantColumn_iff :
    (TenantEnforced settings py semantic raw e ↔
      ∀ visit ref scope table, HasTenantColumn settings py semantic raw e visit ref scope table →
        ∃ column, Annotated py semantic table column) ∧
      (ConfiguredColumnEnforced settings py semantic raw e ↔
        ∀ visit ref scope table,
          HasTenantColumn settings py semantic raw e visit ref scope table →
            ∃ column, Annotated py semantic table column ∧
              py.norm column = py.norm settings.tenantColumn) := by
  refine ⟨forall_congr' fun visit ↦ forall_congr' fun ref ↦ forall_congr' fun scope ↦
    forall_congr' fun table ↦ forall_congr' fun h ↦ exists_congr fun column ↦ receives_iff h,
    forall_congr' fun visit ↦ forall_congr' fun ref ↦ forall_congr' fun scope ↦
      forall_congr' fun table ↦ forall_congr' fun h ↦ exists_congr fun column ↦
        and_congr_left' (receives_iff h)⟩

def invoices : TableInfo where
  name := "invoices"
  columns := ["id", "organization_id", "amount"].map fun name ↦ { name }

def invoicesOnly : DatabaseSchema where
  dialect := .sqlite
  tables := [invoices]

def invoiceIds : Expression := selectFrom "id" "invoices" []

/-- An accepted statement that reads the invoices of all tenants. -/
theorem unannotated_unscoped :
    ((buildGate defaultSettings .ascii (.one "SELECT id FROM invoices" invoiceIds
      "SELECT id FROM invoices") none).secureCandidate .sqlite
        (enrich .ascii {} invoicesOnly) ⟨"u1", "1", []⟩ 1000 "SELECT id FROM invoices").ok = true ∧
      ¬TenantEnforced defaultSettings .ascii {} invoicesOnly invoiceIds := by
  refine ⟨by decide +kernel, fun h ↦ ?_⟩
  have hbase : ({ name := "invoices" } : TableRef) ∈
      baseTables (enrich .ascii {} invoicesOnly) invoiceIds := by decide +kernel
  obtain ⟨column, hc⟩ := h
    ([Expression.mk .from_ .from_ [.node { type := .table { name := "invoices" } } []],
      invoiceIds], .node { type := .table { name := "invoices" } } [])
    { name := "invoices" } invoiceIds
    (enrichTable .ascii {} invoices)
    ⟨by simp [invoiceIds, selectFrom, Expression.mk, RoseTree.walkUp, RoseTree.levels,
      RoseTree.levelsAll, RoseTree.zipLevels], rfl, hbase, rfl, by decide +kernel,
      by decide +kernel⟩
  have hnone : (buildRewriter defaultSettings).targets .ascii (enrich .ascii {} invoicesOnly)
      invoiceIds = [] := by rfl
  rw [Receives, hnone] at hc
  cases hc

end TextToSql.Application
