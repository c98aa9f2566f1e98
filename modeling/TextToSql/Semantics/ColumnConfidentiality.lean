import TextToSql.Semantics.ReadOrigins
import TextToSql.Semantics.TableAuthorization

namespace TextToSql.Semantics

open Library Domain Sql Security Infrastructure

variable (py : Python) (schema : DatabaseSchema) (e : Expression)

/-- The reads that the column check passes over, or records as another column. -/
inductive Unrecorded (r : Read) : Prop where
  | merged (h : ∀ qualifier name, r.via ≠ .column qualifier name)
  | unnamed {qualifier : String} (hv : r.via = .column qualifier "")
  | virtual {qualifier name : String} (hv : r.via = .column qualifier name) (hq : qualifier ≠ "")
      (h : py.lower qualifier ∈ virtualAliases py e)
  | unchecked {qualifier name : String} (hv : r.via = .column qualifier name)
      (hq : qualifier ≠ "") (h : r.origin.ref ∉ checkedTables py e)
  | misread {qualifier name : String} (hv : r.via = .column qualifier name) (hq : qualifier ≠ "")
      (h : schema.table py r.origin.ref.name ≠ some r.origin.table)
  | output {name : String} (hv : r.via = .column "" name)
      (h : py.lower name ∈ outputAliases py e)
  | shadowed {name : String} (hv : r.via = .column "" name)
      (h : (SQLValidator.realTableInfos py schema e).find? (·.hasColumn py name) ≠
        some r.origin.table)
  | renamed {qualifier name : String} (hv : r.via = .column qualifier name)
      (h : r.origin.table.hasColumn py name = false)
  | miscoded {qualifier name : String} (hv : r.via = .column qualifier name)
      (h : lookupReference py schema s!"{r.origin.table.name}.{name}" ≠ some r.origin.column)

variable {py schema e}

theorem mem_aliasToReal {ref : TableRef} {table : TableInfo} {qualifier : String}
    (hr : ref ∈ checkedTables py e) (ht : schema.table py ref.name = some table)
    (hq : qualifier = py.lower ref.aliasOrName) :
    ref.name ∈ SQLValidator.aliasToReal py schema e qualifier := by
  simp only [SQLValidator.aliasToReal, mem_sortedSet, List.mem_map, List.mem_filter]
  refine ⟨(ref, table), ⟨?_, by simp [hq]⟩, rfl⟩
  exact List.mem_filterMap.mpr ⟨ref, hr, by rw [ht]; rfl⟩

theorem checkQualified_records {qualifier name : String} {refs : List String} {ref : TableRef}
    {table : TableInfo}
    (h : SQLValidator.checkQualified py schema e qualifier name = .ok refs)
    (hv : qualifier ∉ virtualAliases py e)
    (hr : ref.name ∈ SQLValidator.aliasToReal py schema e qualifier)
    (ht : schema.table py ref.name = some table) (hc : table.hasColumn py name = true) :
    s!"{table.name}.{name}" ∈ refs := by
  unfold SQLValidator.checkQualified at h
  rw [if_neg hv] at h
  split at h
  · rename_i hnil
    rw [hnil] at hr
    cases hr
  · rename_i first others hcons
    rw [hcons] at hr
    dsimp only at h
    split at h
    · cases h
    · cases h
      refine List.mem_map.mpr ⟨table, List.mem_filter.mpr ⟨?_, hc⟩, rfl⟩
      exact List.mem_filterMap.mpr ⟨ref.name, hr, ht⟩

theorem checkUnqualified_records {name : String} {refs : List String} {table : TableInfo}
    (h : SQLValidator.checkUnqualified py schema e name = .ok refs)
    (ho : py.lower name ∉ outputAliases py e)
    (hf : (SQLValidator.realTableInfos py schema e).find? (·.hasColumn py name) = some table) :
    s!"{table.name}.{name}" ∈ refs := by
  unfold SQLValidator.checkUnqualified at h
  rw [if_neg ho] at h
  rw [← List.head?_filter] at hf
  split at h
  · rename_i owner owners hcons
    rw [hcons, List.head?_cons, Option.some_inj] at hf
    cases h
    rw [hf]
    exact List.mem_cons_self
  · rename_i hnil
    rw [hnil] at hf
    cases hf

theorem recorded {validator : SQLValidator} (ha : validator.Accepts py schema e) {r : Read}
    (hr : r ∈ reads schema e) (hu : ¬Unrecorded py schema e r) :
    ∃ recorded ∈ SQLValidator.resolvedColumns py schema e,
      lookupReference py schema recorded = some r.origin.column := by
  have hvia : ∃ qualifier name, r.via = .column qualifier name := by
    by_contra hnone
    exact hu (.merged fun qualifier name hv ↦ hnone ⟨qualifier, name, hv⟩)
  obtain ⟨qualifier, name, hv⟩ := hvia
  obtain ⟨hmem, hstar, href⟩ := readTraced_of_mem hr qualifier name hv
  have hname : name ≠ "" := by
    rintro rfl
    exact hu (.unnamed hv)
  have hcolumn : r.origin.table.hasColumn py name = true := by
    by_contra hc
    exact hu (.renamed hv (by simpa using hc))
  have hlookup : lookupReference py schema s!"{r.origin.table.name}.{name}" =
      some r.origin.column := by
    by_contra hc
    exact hu (.miscoded hv hc)
  obtain ⟨refs, hrefs⟩ := ha.column hmem
  suffices h : s!"{r.origin.table.name}.{name}" ∈ refs from
    ⟨_, List.mem_flatMap.mpr ⟨_, hmem, by rwa [hrefs]⟩, hlookup⟩
  simp only [SQLValidator.checkColumn, hname, hstar, or_self, if_false,
    py.lower_eq_empty] at hrefs
  split at hrefs
  · rename_i hq
    subst hq
    refine checkUnqualified_records hrefs (fun ho ↦ hu (.output hv ho)) ?_
    by_contra hf
    exact hu (.shadowed hv hf)
  · rename_i hq
    obtain ⟨-, hshown⟩ := href hq
    have hvirtual : py.lower qualifier ∉ virtualAliases py e := fun h ↦ hu (.virtual hv hq h)
    have hchecked : r.origin.ref ∈ checkedTables py e := by
      by_contra hc
      exact hu (.unchecked hv hq hc)
    have htable : schema.table py r.origin.ref.name = some r.origin.table := by
      by_contra hc
      exact hu (.misread hv hq hc)
    -- the alias of a derived table would make the qualifier virtual
    have hsource : SameLetters qualifier r.origin.ref.aliasOrName := by
      refine hshown.resolve_right ?_
      rintro ⟨alias_, ha, hsame⟩
      apply hvirtual
      rw [hsame.lower py, virtualAliases]
      exact List.mem_map_of_mem (List.mem_append_right _ ha)
    exact checkQualified_records hrefs hvirtual
      (mem_aliasToReal hchecked htable (hsource.lower py)) htable hcolumn

variable {validator : SQLValidator} {glot : Sqlglot} {sql : String} {dialect : SQLDialect}
  {outcome : ValidationOutcome} {config : SecurityPolicyConfig} {auth : AuthContext}

def member : AuthContext where
  userId := "u1"
  tenantId := "1"
  roles := ["member"]

def decided (e : Expression) : PolicyDecision :=
  enforce .ascii {} usersAndOrders
    (sortedSet (SQLValidator.realTables .ascii usersAndOrders e))
    (sortedSet (SQLValidator.resolvedColumns .ascii usersAndOrders e)) member

def passwordHashes : Expression :=
  .mk .this (.select false)
    [.mk .expressions (.alias_ "password_hash") [.mk .this (.column "" "password_hash") []],
      .mk .from_ .from_ [.mk .this (.table { name := "users" }) []]]

def usersAsRows : Expression :=
  .mk .this (.select false)
    [.mk .expressions (.alias_ "u")
        [.mk .this (.anonymous "row_to_json") [.mk .expressions (.column "" "u") []]],
      .mk .from_ .from_ [.mk .this (.table { name := "users", alias_ := "u" }) []]]

-- PostgreSQL has values for rows, SQLite has none
example : ∃ r ∈ reads { usersAndOrders with dialect := .postgres } usersAsRows,
    r.origin.column.classification = .authSecret := by decide +kernel

example : (reads usersAndOrders usersAsRows).length = 0 := by decide +kernel

end TextToSql.Semantics
