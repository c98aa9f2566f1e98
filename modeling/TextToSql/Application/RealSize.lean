import TextToSql.Application.BoundedResults
import TextToSql.Application.Revalidation
import TextToSql.Security.PlannerEstimate

namespace TextToSql.Application

open Library Domain Sql Security Infrastructure

def TooCostly (secured : Secured) : Prop :=
  secured.ok = false ∧ ∃ issue ∈ secured.issues, issue.code = "estimated_cost_too_high"

/-- The verdict on a result of the size. -/
structure Reflects (config : SecurityPolicyConfig) (rows : ℚ) (secured : Secured) : Prop where
  high : TooCostly secured ↔ config.costRowsHighThreshold ≤ rows
  medium : ¬TooCostly secured →
    (secured.cost.map CostReport.riskLevel = some .medium ↔ config.costRowsMediumThreshold ≤ rows)

/-- What the planner says of a candidate, of the candidate without its row bound, and of the
candidate with another row bound. -/
structure Estimates (gate : Gate) (planner : Planner) (maxRows : Nat) (q : Expression)
    (rows unbounded : ℚ) : Prop where
  candidate : planRows gate.py planner (gate.glot.sql .postgres q) = some rows
  withoutLimit : planRows gate.py planner (gate.glot.sql .postgres (withoutLimit q)) =
    some unbounded
  limited : planRows gate.py planner (gate.glot.sql .postgres (setLimit q maxRows)) =
    some (min (maxRows : ℚ) unbounded)

def SameClass (config : SecurityPolicyConfig) (rows rows' : ℚ) : Prop :=
  (config.costRowsHighThreshold ≤ rows ↔ config.costRowsHighThreshold ≤ rows') ∧
    (rows < config.costRowsHighThreshold →
      (config.costRowsMediumThreshold ≤ rows ↔ config.costRowsMediumThreshold ≤ rows'))

variable {gate : Gate} {schema : DatabaseSchema} {auth : AuthContext} {maxRows : Nat}
  {sql : String} {outcome : ValidationOutcome} {prepared : Prepared} {e : Expression}
  {planner : Planner} {config : SecurityPolicyConfig} {rows rows' unbounded : ℚ}

theorem reflects_iff {secured : Secured} (h : Reflects config rows' secured) :
    Reflects config rows secured ↔ SameClass config rows rows' := by
  constructor
  · intro hr
    have hhigh := hr.high.symm.trans h.high
    refine ⟨hhigh, fun hlow ↦ ?_⟩
    have hno : ¬TooCostly secured := fun hc ↦ absurd (hr.high.mp hc) (not_le.mpr hlow)
    exact (hr.medium hno).symm.trans (h.medium hno)
  · rintro ⟨hhigh, hmedium⟩
    refine ⟨h.high.trans hhigh.symm, fun hno ↦ ?_⟩
    have hlow : rows < config.costRowsHighThreshold :=
      not_le.mp fun hc ↦ hno (h.high.mpr (hhigh.mp hc))
    exact (h.medium hno).trans (hmedium hlow).symm

theorem reflects_charge (hs : structuralIssues gate.py gate.config prepared.expression = [])
    (hengine : gate.readonlyEngine = some planner)
    (h : planRows gate.py planner prepared.sql = some rows) :
    Reflects gate.config rows (gate.charge .postgres prepared) := by
  obtain ⟨report, ha, hr, hi, hanalyze⟩ := analyze_estimated hs h
  have hcost : (gate.charge .postgres prepared).cost =
      some (classify gate.config report) := by
    rw [Gate.charge, hengine, hanalyze]
    split <;> rfl
  by_cases hhigh : gate.config.costRowsHighThreshold ≤ rows
  · obtain ⟨hno, hissue⟩ := classify_high ha hr hhigh
    have hcostly : TooCostly (gate.charge .postgres prepared) := by
      rw [TooCostly, Gate.charge, hengine, hanalyze, if_neg (by rw [hno]; decide)]
      exact ⟨rfl, hissue⟩
    exact ⟨iff_of_true hcostly hhigh, fun h ↦ absurd hcostly h⟩
  · have hlow := @classify_low gate.config rows report ha hr (not_le.mp hhigh)
    have hcostly : ¬TooCostly (gate.charge .postgres prepared) := by
      rintro ⟨hok, -⟩
      rw [Gate.charge_ok, hengine, hanalyze, hlow, ha] at hok
      cases hok
    refine ⟨iff_of_false hcostly hhigh, fun _ ↦ ?_⟩
    rw [hcost, hlow]
    by_cases hmedium : gate.config.costRowsMediumThreshold ≤ rows <;> simp [hmedium]

theorem secureCandidate_of_prepare {dialect : SQLDialect}
    (h : gate.validator.validate gate.py schema gate.glot sql dialect = .ok outcome)
    (hp : gate.prepare dialect schema auth maxRows outcome = .ok prepared) :
    gate.secureCandidate dialect schema auth maxRows sql = gate.charge dialect prepared := by
  rw [Gate.secureCandidate, h]
  change gate.secureOutcome dialect schema auth maxRows outcome = _
  rw [Gate.secureOutcome, hp]

/-- The verdict on a candidate that passes every other check reflects the size of its result
exactly when its row bound stays, or the bound that replaces it leaves the size between the same
thresholds. -/
theorem reflects_candidate_iff
    (h : gate.validator.validate gate.py schema gate.glot sql .postgres = .ok outcome)
    (he : outcome.expression = some e)
    (hp : gate.prepare .postgres schema auth maxRows outcome = .ok prepared)
    (hs : structuralIssues gate.py gate.config prepared.expression = [])
    (hengine : gate.readonlyEngine = some planner)
    (hest : Estimates gate planner maxRows (gate.scopedExpression schema auth.tenantId e) rows
      unbounded) :
    Reflects gate.config rows (gate.secureCandidate .postgres schema auth maxRows sql) ↔
      (Replaces (gate.scopedExpression schema auth.tenantId e) maxRows →
        SameClass gate.config rows (min (maxRows : ℚ) unbounded)) := by
  obtain ⟨e', hpasses, hexpression, hsql, -, -⟩ := Gate.prepare_ok hp
  obtain rfl : e' = e := Option.some.inj (hpasses.expression.symm.trans he)
  rw [secureCandidate_of_prepare h hp]
  rw [hexpression, Gate.finalExpression] at hsql
  generalize gate.scopedExpression schema auth.tenantId e' = q at hsql hest ⊢
  by_cases hr : Replaces q maxRows
  · rw [enforceLimit_replaces hr] at hsql
    rw [forall_prop_of_true hr]
    exact reflects_iff (reflects_charge hs hengine (hsql ▸ hest.limited))
  · rw [enforceLimit_leaves hr] at hsql
    rw [forall_prop_of_false hr, iff_true]
    exact reflects_charge hs hengine (hsql ▸ hest.candidate)

/-- Where the candidate has no more rows than it would without its own bound, and at least as many
as the new bound lets through, the thresholds that matter are those that the bound reaches. -/
theorem sameClass_min_iff (h : min (maxRows : ℚ) rows = min (maxRows : ℚ) unbounded) :
    SameClass config rows (min (maxRows : ℚ) unbounded) ↔
      (config.costRowsHighThreshold ≤ rows → config.costRowsHighThreshold ≤ maxRows) ∧
        (rows < config.costRowsHighThreshold → config.costRowsMediumThreshold ≤ rows →
          config.costRowsMediumThreshold ≤ maxRows) := by
  rw [SameClass, ← h, le_min_iff, le_min_iff]
  constructor
  · rintro ⟨hhigh, hmedium⟩
    exact ⟨fun hle ↦ (hhigh.mp hle).1, fun hlt hle ↦ ((hmedium hlt).mp hle).1⟩
  · rintro ⟨hhigh, hmedium⟩
    exact ⟨⟨fun hle ↦ ⟨hhigh hle, hle⟩, And.right⟩,
      fun hlt ↦ ⟨fun hle ↦ ⟨hmedium hlt hle, hle⟩, And.right⟩⟩

def regionIds : Expression := selectFrom "id" "regions" []

def regionIdsText : String := "SELECT id FROM regions"

def planOf (rows : ℚ) : PlanValue :=
  .array [.object [("Plan", .object [("Total Cost", .number 1), ("Plan Rows", .number rows)])]]

def regionsPlanner : Planner where
  explain text :=
    if text = explainSql (regionIdsText ++ " LIMIT 1000") then some (planOf 1000)
    else some (planOf 5000000)

def regionsGate : Gate where
  py := .ascii
  glot :=
    { Sqlglot.one regionIdsText regionIds regionIdsText with
      sql := fun _ e ↦
        if (e.arg .limit).isSome then regionIdsText ++ " LIMIT 1000" else regionIdsText }
  validator := {}
  config := {}
  readonlyEngine := some regionsPlanner

theorem estimates_regions : Estimates regionsGate regionsPlanner 1000
    (regionsGate.scopedExpression usersAndOrders "1" regionIds) 5000000 5000000 :=
  ⟨by decide +kernel, by decide +kernel, by decide +kernel⟩

theorem accepted_regions : (regionsGate.secureCandidate .postgres usersAndOrders ⟨"u1", "1", []⟩
    1000 regionIdsText).ok = true := by
  decide +kernel

theorem reflects_regions :
    Reflects regionsGate.config 5000000 (regionsGate.secureCandidate .postgres usersAndOrders
        ⟨"u1", "1", []⟩ 1000 regionIdsText) ↔
      (Replaces (regionsGate.scopedExpression usersAndOrders "1" regionIds) 1000 →
        SameClass regionsGate.config 5000000 (min ((1000 : Nat) : ℚ) 5000000)) := by
  obtain ⟨outcome, prepared, hv, hp, -, -⟩ := Gate.secureCandidate_ok accepted_regions
  obtain ⟨e, hpasses, hexpression, -, -, -⟩ := Gate.prepare_ok hp
  have hparse : parseStatements regionsGate.glot regionIdsText .postgres = .ok [regionIds] := by
    simp [parseStatements, regionsGate, Sqlglot.one]
  obtain rfl := Except.ok.inj (hv.symm.trans (SQLValidator.validate_of_parse hparse))
  obtain rfl : regionIds = e := Option.some.inj hpasses.expression
  have hs : structuralIssues regionsGate.py regionsGate.config prepared.expression = [] := by
    rw [hexpression]
    decide +kernel
  exact reflects_candidate_iff hv rfl hp hs rfl estimates_regions

theorem large_result_accepted :
    Estimates regionsGate regionsPlanner 1000
        (regionsGate.scopedExpression usersAndOrders "1" regionIds) 5000000 5000000 ∧
      ¬Reflects regionsGate.config 5000000 (regionsGate.secureCandidate .postgres usersAndOrders
        ⟨"u1", "1", []⟩ 1000 regionIdsText) := by
  refine ⟨estimates_regions, fun h ↦ ?_⟩
  have hcostly := h.high.mpr (by decide +kernel)
  have hok := hcostly.1
  rw [accepted_regions] at hok
  cases hok

end TextToSql.Application
