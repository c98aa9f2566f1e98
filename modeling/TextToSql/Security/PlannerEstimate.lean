import TextToSql.Security.Cost

namespace TextToSql.Security

open Library Domain Sql

variable {py : Python} {config : SecurityPolicyConfig} {e : Expression} {sqlText : String}
  {planner : Planner} {rows : ℚ}

def planRows (py : Python) (planner : Planner) (sqlText : String) : Option ℚ :=
  (planner.explain (explainSql sqlText)).bind fun row ↦
    row.plan.bind (PlanValue.floatField py "Plan Rows")

theorem estimateWithExplain_some (h : planRows py planner sqlText = some rows)
    (report : CostReport) :
    ∃ cost, estimateWithExplain py sqlText planner report =
      { report with estimatedRows := some rows, estimatedCost := cost } := by
  obtain ⟨row, hrow, h⟩ := Option.bind_eq_some_iff.mp h
  obtain ⟨plan, hplan, hfield⟩ := Option.bind_eq_some_iff.mp h
  refine ⟨(plan.floatField py "Total Cost").or report.estimatedCost, ?_⟩
  rw [estimateWithExplain, hrow]
  cases row with
  | null => cases hplan
  | number value => cases hplan
  | array items => simp only [hplan, hfield]
  | object fields => simp only [hplan, hfield]

theorem classify_high {report : CostReport} (ha : report.allowed = true)
    (hr : report.estimatedRows = some rows) (h : config.costRowsHighThreshold ≤ rows) :
    (classify config report).allowed = false ∧
      ∃ issue ∈ (classify config report).issues, issue.code = "estimated_cost_too_high" := by
  rw [classify, if_pos ha]
  simp only [hr, ge_iff_le, h, if_true]
  exact ⟨rfl, _, List.mem_append_right _ List.mem_cons_self, rfl⟩

theorem classify_low {report : CostReport} (ha : report.allowed = true)
    (hr : report.estimatedRows = some rows) (h : rows < config.costRowsHighThreshold) :
    classify config report =
      { report with
        riskLevel := if config.costRowsMediumThreshold ≤ rows then .medium else .low } := by
  have hno : ¬rows ≥ config.costRowsHighThreshold := not_le.mpr h
  have hrisk : classifyRisk config report =
      if config.costRowsMediumThreshold ≤ rows then .medium else .low := by
    rw [classifyRisk, hr]
    exact if_neg hno
  rw [classify, if_pos ha, hrisk]
  simp only [hr, hno, if_false]

theorem analyze_estimated (hs : structuralIssues py config e = [])
    (h : planRows py planner sqlText = some rows) :
    ∃ report : CostReport, report.allowed = true ∧ report.estimatedRows = some rows ∧
      report.issues = [] ∧
      analyze py config e sqlText .postgres (some planner) = classify config report := by
  rw [analyze, hs]
  obtain ⟨cost, hestimate⟩ := estimateWithExplain_some h
    { allowed := true
      riskLevel := .low
      joinCount := (e.findAll NodeType.isJoin).length
      subqueryDepth := maxSelectDepth e
      selectedColumns := projectedColumnCount e }
  exact ⟨_, rfl, rfl, rfl, congrArg (classify config) hestimate⟩

end TextToSql.Security
