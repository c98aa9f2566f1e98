import TextToSql.Sql.RecordedColumns

namespace TextToSql.Sql

open Library Domain SQLValidator

section

variable (py : Python) (schema : DatabaseSchema) (e : Expression)

def GoesBy (ref : TableRef) (qualifier : String) : Prop :=
  py.lower qualifier = py.lower ref.aliasOrName ∨ py.lower qualifier = py.lower ref.name

/-- The statement as a whole has a reading of the column reference. -/
inductive Tolerated (qualifier name : String) : Prop
  | unnamed (h : name = "" ∨ name = "*")
  /-- the qualifier is the name of some CTE or derived table -/
  | virtual (hq : qualifier ≠ "") (h : py.lower qualifier ∈ virtualAliases py e)
  /-- no looked-up table goes by the qualifier -/
  | unbound (hq : qualifier ≠ "")
      (h : ∀ b ∈ boundTables py schema e, ¬GoesBy py b.1 qualifier)
  /-- a looked-up table that goes by the qualifier has such a column -/
  | owned (hq : qualifier ≠ "") (b : TableRef × TableInfo)
      (hb : b ∈ boundTables py schema e) (hn : GoesBy py b.1 qualifier)
      (h : b.2.hasColumn py name = true)
  /-- some select list has an alias of the name -/
  | output (hq : qualifier = "") (h : py.lower name ∈ outputAliases py e)
  /-- a referenced table has such a column -/
  | referenced (hq : qualifier = "") (table : TableInfo)
      (ht : table ∈ realTableInfos py schema e) (h : table.hasColumn py name = true)
  | tableless (hq : qualifier = "") (h : realTableInfos py schema e = [])

end

variable {py : Python} {schema : DatabaseSchema} {e : Expression}

theorem mem_checkedTables {ref : TableRef} :
    ref ∈ checkedTables py e ↔
      ref ∈ e.tables ∧ ref.name ≠ "" ∧ py.lower ref.name ∉ virtualAliases py e := by
  simp [checkedTables]

theorem mem_columnNames {qualifier name : String} :
    (qualifier, name) ∈ e.collect columnName ↔
      ∃ n ∈ e.walk, n.label.type = .column qualifier name := by
  rw [Expression.mem_collect]
  refine exists_congr fun n ↦ and_congr_right fun _ ↦ ?_
  cases n.label.type <;> simp [columnName]

theorem mem_realTables {name : String} :
    name ∈ realTables py schema e ↔
      ∃ ref ∈ checkedTables py e, ∃ found, schema.table py ref.name = some found ∧
        found.qualifiedName = name := by
  simp only [realTables, boundTables, List.mem_map, List.mem_filterMap,
    Option.map_eq_some_iff]
  constructor
  · rintro ⟨b, ⟨ref, href, found, hf, rfl⟩, rfl⟩
    exact ⟨ref, href, found, hf, rfl⟩
  · rintro ⟨ref, href, found, hf, rfl⟩
    exact ⟨_, ⟨ref, href, found, hf, rfl⟩, rfl⟩

theorem mem_realTableInfos_iff {table : TableInfo} :
    table ∈ realTableInfos py schema e ↔
      ∃ qualified ∈ realTables py schema e, schema.table py (lastPart qualified) = some table := by
  rw [realTableInfos, List.mem_filterMap]
  constructor
  · rintro ⟨name, hn, ht⟩
    obtain ⟨qualified, hq, rfl⟩ := List.mem_map.mp (py.mem_enumerate.mp hn)
    exact ⟨qualified, hq, ht⟩
  · rintro ⟨qualified, hq, ht⟩
    exact ⟨_, py.mem_enumerate.mpr (List.mem_map_of_mem hq), ht⟩

theorem mem_boundTables {b : TableRef × TableInfo} :
    b ∈ boundTables py schema e ↔
      b.1 ∈ checkedTables py e ∧ schema.table py b.1.name = some b.2 := by
  obtain ⟨ref, table⟩ := b
  simp only [boundTables, List.mem_filterMap, Option.map_eq_some_iff]
  constructor
  · rintro ⟨ref', hr, table', ht, heq⟩
    cases heq
    exact ⟨hr, ht⟩
  · rintro ⟨hr, ht⟩
    exact ⟨ref, hr, table, ht, rfl⟩

theorem mem_aliasToReal_iff {qualifier other : String} :
    other ∈ aliasToReal py schema e (py.lower qualifier) ↔
      ∃ b ∈ boundTables py schema e, GoesBy py b.1 qualifier ∧ b.1.name = other := by
  simp only [aliasToReal, mem_sortedSet, List.mem_map, List.mem_filter,
    decide_eq_true_eq, and_assoc, GoesBy]

theorem checkQualified_ok_iff_tolerated {qualifier name : String} (hq : qualifier ≠ "")
    (hn : ¬(name = "" ∨ name = "*")) :
    (∃ refs, checkQualified py schema e (py.lower qualifier) name = .ok refs) ↔
      Tolerated py schema e qualifier name := by
  rw [checkQualified_ok_iff]
  constructor
  · rintro (hv | hnil | ⟨other, ho, table, ht, hc⟩)
    · exact .virtual hq hv
    · refine .unbound hq fun b hb hg ↦ ?_
      have hmem := mem_aliasToReal_iff.mpr ⟨b, hb, hg, rfl⟩
      rw [hnil] at hmem
      cases hmem
    · obtain ⟨b, hb, hg, rfl⟩ := mem_aliasToReal_iff.mp ho
      have htable : b.2 = table := by
        rw [(mem_boundTables.mp hb).2] at ht
        exact Option.some.inj ht
      exact .owned hq b hb hg (htable ▸ hc)
  · intro h
    cases h with
    | unnamed h => exact absurd h hn
    | virtual _ hv => exact .inl hv
    | unbound _ hnone =>
      refine .inr (.inl (List.eq_nil_iff_forall_not_mem.mpr fun other ho ↦ ?_))
      obtain ⟨b, hb, hg, -⟩ := mem_aliasToReal_iff.mp ho
      exact hnone b hb hg
    | owned _ b hb hg hc =>
      exact .inr (.inr ⟨b.1.name, mem_aliasToReal_iff.mpr ⟨b, hb, hg, rfl⟩, b.2,
        (mem_boundTables.mp hb).2, hc⟩)
    | output h => exact absurd h hq
    | referenced h => exact absurd h hq
    | tableless h => exact absurd h hq

theorem checkUnqualified_ok_iff_tolerated {name : String} (hn : ¬(name = "" ∨ name = "*")) :
    (∃ refs, checkUnqualified py schema e name = .ok refs) ↔
      Tolerated py schema e "" name := by
  rw [checkUnqualified_ok_iff]
  constructor
  · rintro (ho | ⟨table, ht, hc⟩ | hnil)
    · exact .output rfl ho
    · exact .referenced rfl table ht hc
    · exact .tableless rfl hnil
  · intro h
    cases h with
    | unnamed h => exact absurd h hn
    | virtual hq | unbound hq | owned hq => exact absurd rfl hq
    | output _ ho => exact .inl ho
    | referenced _ table ht hc => exact .inr (.inl ⟨table, ht, hc⟩)
    | tableless _ hnil => exact .inr (.inr hnil)

/-- The column check passes exactly the tolerated references. -/
theorem checkColumn_ok_iff (qualifier name : String) :
    (∃ refs, checkColumn py schema e (qualifier, name) = .ok refs) ↔
      Tolerated py schema e qualifier name := by
  rw [checkColumn]
  by_cases hn : name = "" ∨ name = "*"
  · rw [if_pos hn]
    exact ⟨fun _ ↦ .unnamed hn, fun _ ↦ ⟨_, rfl⟩⟩
  · rw [if_neg hn]
    by_cases hq : qualifier = ""
    · subst hq
      rw [if_pos ((py.lower_eq_empty _).mpr rfl)]
      exact checkUnqualified_ok_iff_tolerated hn
    · rw [if_neg fun h ↦ hq ((py.lower_eq_empty _).mp h)]
      exact checkQualified_ok_iff_tolerated hq hn

/-- The statement-wide maps are built from the same names. -/
structure SameNames (e e' : Expression) : Prop where
  tables : ∀ ref, ref ∈ e'.tables ↔ ref ∈ e.tables
  ctes : ∀ name, name ∈ e'.collect cteAlias ↔ name ∈ e.collect cteAlias
  subqueries : ∀ name, name ∈ e'.collect subqueryAlias ↔ name ∈ e.collect subqueryAlias
  outputs : ∀ name, name ∈ e'.collect projectionAlias ↔ name ∈ e.collect projectionAlias

namespace SameNames

variable {e' : Expression} (h : SameNames e e')

include h

theorem virtualAliases (name : String) :
    name ∈ Sql.virtualAliases py e' ↔ name ∈ Sql.virtualAliases py e := by
  simp only [Sql.virtualAliases, List.mem_map, List.mem_append, h.ctes, h.subqueries]

theorem outputAliases (name : String) :
    name ∈ Sql.outputAliases py e' ↔ name ∈ Sql.outputAliases py e := by
  simp only [Sql.outputAliases, List.mem_map, h.outputs]

theorem checkedTables (ref : TableRef) :
    ref ∈ Sql.checkedTables py e' ↔ ref ∈ Sql.checkedTables py e := by
  rw [mem_checkedTables, mem_checkedTables, h.tables, h.virtualAliases]

theorem boundTables (b : TableRef × TableInfo) :
    b ∈ SQLValidator.boundTables py schema e' ↔ b ∈ SQLValidator.boundTables py schema e := by
  rw [mem_boundTables, mem_boundTables, h.checkedTables]

theorem realTables (name : String) :
    name ∈ SQLValidator.realTables py schema e' ↔ name ∈ SQLValidator.realTables py schema e := by
  simp only [mem_realTables, h.checkedTables]

theorem realTableInfos (table : TableInfo) :
    table ∈ SQLValidator.realTableInfos py schema e' ↔
      table ∈ SQLValidator.realTableInfos py schema e := by
  simp only [mem_realTableInfos_iff, h.realTables]

theorem aliasToReal (qualifier : String) :
    SQLValidator.aliasToReal py schema e' qualifier =
      SQLValidator.aliasToReal py schema e qualifier := by
  refine sortedSet_congr fun name ↦ ?_
  simp only [List.mem_map, List.mem_filter, h.boundTables]

theorem tolerated (qualifier name : String) :
    Tolerated py schema e' qualifier name ↔ Tolerated py schema e qualifier name := by
  rw [← checkColumn_ok_iff, ← checkColumn_ok_iff, checkColumn, checkColumn]
  have hnil : SQLValidator.realTableInfos py schema e' = [] ↔
      SQLValidator.realTableInfos py schema e = [] := by
    simp only [List.eq_nil_iff_forall_not_mem, h.realTableInfos]
  split
  · rfl
  · split
    · simp only [checkUnqualified_ok_iff, h.outputAliases, h.realTableInfos, hnil]
    · simp only [checkQualified_ok_iff, h.virtualAliases, h.aliasToReal]

theorem owners_qualified {column : String × String} (hq : py.lower column.1 ≠ "") :
    owners py schema e' column = owners py schema e column := by
  rw [owners, owners, if_neg hq, if_neg hq, h.aliasToReal]
  split
  · rfl
  · by_cases hv : py.lower column.1 ∈ Sql.virtualAliases py e
    · rw [if_pos hv, if_pos (h.virtualAliases _ |>.mpr hv)]
    · rw [if_neg hv, if_neg fun hv' ↦ hv ((h.virtualAliases _).mp hv')]

end SameNames

end TextToSql.Sql
