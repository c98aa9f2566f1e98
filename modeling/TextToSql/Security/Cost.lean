import TextToSql.Security.Policy

namespace TextToSql.Security

open Library Domain Sql

structure CostReport where
  allowed : Bool
  riskLevel : RiskLevel
  joinCount : Nat
  subqueryDepth : Nat
  selectedColumns : Nat
  estimatedRows : Option ℚ := none
  estimatedCost : Option ℚ := none
  issues : List ValidationIssue := []

namespace CostReport

def reject (report : CostReport) (issue : ValidationIssue) : CostReport :=
  { report with allowed := false, riskLevel := .high, issues := report.issues ++ [issue] }

def rejectAll (report : CostReport) (found : List ValidationIssue) : CostReport :=
  found.foldl reject report

end CostReport

/-- The answer to `EXPLAIN (FORMAT JSON)`, as far as it is read. -/
inductive PlanValue where
  | null
  | number (value : ℚ)
  | array (items : List PlanValue)
  | object (fields : List (String × PlanValue))

namespace PlanValue

def field (name : String) : PlanValue → Option PlanValue
  | object fields => (fields.find? fun f ↦ f.1 = name).map Prod.snd
  | _ => none

def floatField (py : Python) (name : String) : PlanValue → Option ℚ
  | object fields =>
    match (fields.find? fun f ↦ f.1 = name).map Prod.snd with
    | none => some 0
    | some (number value) => some (py.float value)
    | some _ => none
  | _ => none

def plan : PlanValue → Option PlanValue
  | array (first :: _) => first.field "Plan"
  | array [] => none
  | row => row.field "Plan"

end PlanValue

/-- What the cost analysis sees of a database engine: its answer to a statement, if it gives one. -/
structure Planner where
  explain : String → Option PlanValue

def explainSql (sql : String) : String := "EXPLAIN (FORMAT JSON) " ++ sql

def estimateWithExplain (py : Python) (sql : String) (planner : Planner) (report : CostReport) :
    CostReport :=
  match planner.explain (explainSql sql) with
  | none | some .null => report
  | some row =>
    match row.plan with
    | none => report
    | some plan =>
      match plan.floatField py "Plan Rows" with
      | none => report
      | some rows =>
        { report with
          estimatedRows := some rows
          estimatedCost := (plan.floatField py "Total Cost").or report.estimatedCost }

def maxSelectDepth (e : Expression) : Nat :=
  let depths := ((RoseTree.walkUp e).filter fun v ↦ v.2.label.type.isSelect).map fun v ↦
    1 + v.1.countP fun a ↦ a.label.type.isSelect
  if depths.foldl max 0 = 0 then 1 else depths.foldl max 0

def projectedColumnCount (e : Expression) : Nat :=
  match (if e.label.type.isSelect then some e else (e.findAll NodeType.isSelect).head?) with
  | none => 0
  | some select => (select.args .expressions).length

def isUnconditional (py : Python) (join : Expression) : Bool :=
  match join.label.type with
  | .join kind side _ =>
    py.upper kind = "CROSS" ||
      (!((join.arg .on_).isSome || (join.arg .using_).isSome) &&
        !(hasWord "NATURAL" (py.upper kind) || hasWord "NATURAL" (py.upper side)))
  | _ => false

def hasCartesianProduct (py : Python) (e : Expression) : Bool :=
  (e.findAll NodeType.isJoin).any (isUnconditional py)

variable (py : Python) (config : SecurityPolicyConfig)

/-- The limits that the statement itself exceeds. -/
def structuralIssues (e : Expression) : List ValidationIssue :=
  let joinCount := (e.findAll NodeType.isJoin).length
  let depth := maxSelectDepth e
  let selected := projectedColumnCount e
  (if joinCount > config.maxJoins then
    [{ code := "too_many_joins"
       message := s!"Query has {joinCount} joins; limit is {config.maxJoins}." }]
  else []) ++
  (if depth > config.maxSubqueryDepth then
    [{ code := "subquery_too_deep"
       message :=
        s!"Subquery nesting depth {depth} exceeds limit {config.maxSubqueryDepth}." }]
  else []) ++
  (if selected > config.maxSelectedColumns then
    [{ code := "too_many_columns"
       message := s!"Query projects {selected} columns; limit is {config.maxSelectedColumns}." }]
  else []) ++
  (if hasCartesianProduct py e then
    [{ code := "cartesian_product"
       message := "Query contains a cross join / Cartesian product without a join condition." }]
  else [])

def classifyRisk (report : CostReport) : RiskLevel :=
  match report.estimatedRows with
  | some rows =>
    if rows ≥ config.costRowsHighThreshold then .high
    else if rows ≥ config.costRowsMediumThreshold then .medium
    else .low
  | none =>
    if report.joinCount ≥ max 1 (config.maxJoins - 1) ∨
        report.subqueryDepth ≥ max 1 (config.maxSubqueryDepth - 1) then .medium
    else .low

def classify (report : CostReport) : CostReport :=
  if report.allowed then
    let report := { report with riskLevel := classifyRisk config report }
    match report.estimatedRows with
    | none => report
    | some rows =>
      if rows ≥ config.costRowsHighThreshold then
        report.reject
          { code := "estimated_cost_too_high"
            message := s!"Estimated result size (~{rows.num.tdiv rows.den} rows) " ++
              "exceeds the configured maximum." }
      else report
  else report

def analyze (e : Expression) (sqlText : String) (dialect : SQLDialect)
    (engine : Option Planner) : CostReport :=
  let report : CostReport :=
    { allowed := true
      riskLevel := .low
      joinCount := (e.findAll NodeType.isJoin).length
      subqueryDepth := maxSelectDepth e
      selectedColumns := projectedColumnCount e }
  let report := report.rejectAll (structuralIssues py config e)
  classify config
    (match engine, dialect with
    | some planner, .postgres => estimateWithExplain py sqlText planner report
    | _, _ => report)

end TextToSql.Security
