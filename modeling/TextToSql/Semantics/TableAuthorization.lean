import TextToSql.Infrastructure.ReferenceSchema
import TextToSql.Security.Policy
import TextToSql.Semantics.Scope
import TextToSql.Sql.Tolerated

namespace TextToSql.Semantics

open Library Domain Sql Security Infrastructure

namespace Scoped

variable {α : Type} {schema : DatabaseSchema} {ms : List Scoped} {scope : Scope}

theorem mem_sequentially {f : Scoped → Scope → List α} {x : α}
    (h : x ∈ sequentially f ms scope) : ∃ m ∈ ms, ∃ scope', x ∈ f m scope' := by
  induction ms generalizing scope with
  | nil => cases h
  | cons m ms ih =>
    rcases List.mem_append.mp h with h | h
    · exact ⟨m, List.mem_cons_self, scope, h⟩
    · obtain ⟨m', hm', h⟩ := ih h
      exact ⟨m', .tail _ hm', h⟩

theorem mem_definitions {recursive : Bool} {f : Scoped → Scope → List α} {x : α}
    (h : x ∈ definitions recursive f ms scope) : ∃ m ∈ ms, ∃ scope', x ∈ f m scope' := by
  unfold definitions at h
  split at h
  · obtain ⟨m, hm, h⟩ := List.mem_flatMap.mp h
    exact ⟨m, hm, _, h⟩
  · exact mem_sequentially h

theorem mem_tablesOf {node : Node} {ref : TableRef} (h : ref ∈ tablesOf schema node ms scope) :
    node.type = .table ref ∨ ∃ m ∈ ms, ∃ scope', ref ∈ m.tables scope' := by
  have hchildren {f : Scoped → Scope} (h : ref ∈ ms.flatMap fun m ↦ m.tables (f m)) :
      ∃ m ∈ ms, ∃ scope', ref ∈ m.tables scope' := by
    obtain ⟨m, hm, h⟩ := List.mem_flatMap.mp h
    exact ⟨m, hm, _, h⟩
  have hquery (h : ref ∈ ms.flatMap fun m ↦
      if m.isWith then m.tables scope else m.tables (bindAll ms scope)) :
      ∃ m ∈ ms, ∃ scope', ref ∈ m.tables scope' := by
    obtain ⟨m, hm, h⟩ := List.mem_flatMap.mp h
    split at h
    · exact ⟨m, hm, _, h⟩
    · exact ⟨m, hm, _, h⟩
  unfold tablesOf at h
  split at h
  · exact .inr (hquery h)
  · exact .inr (hquery h)
  · exact .inr (hquery h)
  · exact .inr (mem_definitions h)
  · rename_i ref' ht
    rcases List.mem_append.mp h with h | h
    · split at h
      · cases h
      · obtain rfl := List.mem_singleton.mp h
        exact .inl ht
    · exact .inr (hchildren h)
  · exact .inr (hchildren h)

end Scoped

theorem tables_subset {schema : DatabaseSchema} {e : Expression} {scope : Scope} {ref : TableRef}
    (h : ref ∈ (scoping schema e).tables scope) : ref ∈ e.tables := by
  induction e using RoseTree.inductionOn generalizing scope with
  | node l ts ih =>
    rw [scoping_node] at h
    rw [Expression.mem_tables]
    rcases Scoped.mem_tablesOf h with ht | ⟨m, hm, scope', h⟩
    · exact ⟨_, RoseTree.self_mem_walk _, ht⟩
    · obtain ⟨t, ht, rfl⟩ := List.mem_map.mp hm
      obtain ⟨n, hn, hr⟩ := Expression.mem_tables.mp (ih t ht h)
      exact ⟨n, RoseTree.mem_walk_of_child ht hn, hr⟩

variable (py : Python) (schema : DatabaseSchema) (e : Expression) (ref : TableRef)

def IsSystem : Prop :=
  (ref.db ≠ "" ∧ py.lower ref.db ∈ systemSchemas) ∨
    ∃ pre ∈ systemTablePrefixes, startsWith pre (py.lower ref.name) = true

/-- The reference denotes a catalog table, not a system relation, that is reported. -/
def Authorized (reported : List String) : Prop :=
  ∃ table, Denotes schema ref table ∧ ¬IsSystem py ref ∧ table.qualifiedName ∈ reported

/-- The references that the table check passes over, or looks up as another table. -/
inductive Overlooked : Prop where
  | unnamed (h : ref.name = "")
  | aliased (h : py.lower ref.name ∈ virtualAliases py e)
  | misread (h : ∀ table, schema.table py ref.name = some table → ¬Denotes schema ref table)

/-- Another reference, which is looked up, stands for the table that this one denotes. -/
def NamedElsewhere : Prop :=
  ∃ table, Denotes schema ref table ∧ ¬IsSystem py ref ∧
    ∃ other ∈ checkedTables py e, ∃ found, schema.table py other.name = some found ∧
      found.qualifiedName = table.qualifiedName

variable {py schema e ref}

theorem not_isSystem_of_accepts {validator : SQLValidator}
    (h : validator.Accepts py schema e) (hr : ref ∈ checkedTables py e) : ¬IsSystem py ref := by
  obtain ⟨-, hdb, hreserved, -⟩ := h.table hr
  rintro (⟨hne, hmem⟩ | ⟨pre, hpre, hs⟩)
  · exact hdb.elim hne (absurd hmem)
  · rw [hreserved pre hpre] at hs
    cases hs

/-- A reference that is not overlooked is authorized in every accepted statement. -/
theorem authorized_of_not_overlooked {validator : SQLValidator}
    (h : validator.Accepts py schema e) (hr : ref ∈ e.tables) (hno : ¬Overlooked py schema e ref) :
    Authorized py schema ref (sortedSet (SQLValidator.realTables py schema e)) := by
  have hchecked : ref ∈ checkedTables py e :=
    mem_checkedTables.mpr ⟨hr, fun h ↦ hno (.unnamed h), fun h ↦ hno (.aliased h)⟩
  have hread : ∃ table, schema.table py ref.name = some table ∧ Denotes schema ref table := by
    by_contra hnone
    exact hno (.misread fun table ht hd ↦ hnone ⟨table, ht, hd⟩)
  obtain ⟨table, ht, hd⟩ := hread
  refine ⟨table, hd, not_isSystem_of_accepts h hchecked, ?_⟩
  rw [mem_sortedSet, mem_realTables]
  exact ⟨ref, hchecked, table, ht, rfl⟩

variable {validator : SQLValidator} {glot : Sqlglot} {sql : String} {dialect : SQLDialect}
  {outcome : ValidationOutcome}

def validated (sql : String) (e : Expression) : Except SQLParseError ValidationOutcome :=
  ({} : SQLValidator).validate .ascii usersAndOrders (.one sql e sql) sql .postgres

theorem validated_eq (sql : String) (e : Expression) :
    validated sql e = .ok (({} : SQLValidator).validateExpression .ascii usersAndOrders e
      ((SQLValidator.newOutcome .ascii [e]).addAll (commentBackstop sql))) :=
  SQLValidator.validate_of_parse (parseStatements_one sql sql e .postgres)

def recentRoles : Expression :=
  .mk .this (.select false)
    [.mk .with_ (.with_ false)
        [.mk .expressions (.cte "recent" [])
          [.mk .this (.select false)
            [.mk .expressions (.alias_ "order_id") [.mk .this (.column "o" "id") []],
              .mk .expressions (.alias_ "tenant") [.mk .this (.column "o" "organization_id") []],
              .mk .from_ .from_ [.mk .this (.table { name := "orders", alias_ := "o" }) []]]]],
      .mk .expressions (.column "u" "role") [],
      .mk .expressions (.column "r" "order_id") [],
      .mk .from_ .from_ [.mk .this (.table { name := "users", alias_ := "u" }) []],
      .mk .joins (.join "" "" "")
        [.mk .this (.table { name := "recent", alias_ := "r" }) [],
          .mk .on_ .eq [.mk .this (.column "r" "tenant") [],
            .mk .expression (.column "u" "organization_id") []]]]

def recentRolesText : String :=
  "WITH recent AS (SELECT o.id AS order_id, o.organization_id AS tenant FROM orders AS o) " ++
    "SELECT u.role, r.order_id FROM users AS u JOIN recent AS r ON r.tenant = u.organization_id"

def orderIds : Expression := selectFrom "id" "orders" []

def shadowPasswords : Expression :=
  .mk .this (.select false)
    [.mk .expressions (.column "p" "passwd") [],
      .mk .from_ .from_ [.mk .this (.table { name := "pg_shadow", alias_ := "p" }) []],
      .mk .joins (.join "" "" "")
        [.mk .this (.subquery "pg_shadow" []) [orderIds],
          .mk .on_ .eq
            [.mk .this (.column "p" "usesysid") [],
              .mk .expression (.column "pg_shadow" "id") []]]]

end TextToSql.Semantics
