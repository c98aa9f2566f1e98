import TextToSql.Application.Orchestrator
import TextToSql.Infrastructure.ReferenceSchema

namespace TextToSql.Application

open Domain Sql Security Execution

/-- The settings that the pipeline reads, within their bounds. -/
structure Settings where
  sqlDialect : SQLDialect := .sqlite
  maxRows : Nat := 1000
  maxRows_bounds : 1 ≤ maxRows ∧ maxRows ≤ 1000000 := by decide
  statementTimeoutMs : Nat := 5000
  statementTimeoutMs_bounds : 100 ≤ statementTimeoutMs ∧ statementTimeoutMs ≤ 600000 := by decide
  maxJoins : Nat := 6
  maxSubqueryDepth : Nat := 4
  maxSelectedColumns : Nat := 60
  costRowsMediumThreshold : ℚ := 100000
  costRowsHighThreshold : ℚ := 1000000
  maxRepairAttempts : Nat := 2
  maxRepairAttempts_bounds : maxRepairAttempts ≤ 10 := by decide
  discloseModelMetadata : Bool := true
  allowedSchemas : List String := []
  tenantColumn : String := "organization_id"

def defaultSettings : Settings := {}

/-- `SecurityPolicyConfig.from_settings`. -/
def securityConfig (settings : Settings) : SecurityPolicyConfig where
  tenantColumn := settings.tenantColumn
  maxRows := settings.maxRows
  maxJoins := settings.maxJoins
  maxSubqueryDepth := settings.maxSubqueryDepth
  maxSelectedColumns := settings.maxSelectedColumns
  costRowsMediumThreshold := settings.costRowsMediumThreshold
  costRowsHighThreshold := settings.costRowsHighThreshold
  allowedSchemas := settings.allowedSchemas

def buildGate (settings : Settings) (py : Python) (glot : Sqlglot) (engine : Option Planner) :
    Gate where
  py
  glot
  validator :=
    { functionDenylist := (securityConfig settings).functionDenylist
      allowedSchemas := (securityConfig settings).allowedSchemas }
  config := securityConfig settings
  readonlyEngine := engine

def plannerOf (answer : ResultSet → Option PlanValue) (engine : Engine) : Planner where
  explain sql :=
    match engine.answer engine.connect (.explain sql) with
    | .error _ => none
    | .ok result => answer result

/-- The engine wired from its settings, over a fixed catalog, a provider and a database. -/
def create (settings : Settings) (py : Python) (glot : Sqlglot) (schema : DatabaseSchema)
    (engine : Engine) (scalar : ResultSet → Option PlanValue)
    (generate : List (GenerationRequest Unit) → GenerationResponse) : Orchestrator Unit where
  gate := buildGate settings py glot (some (plannerOf scalar engine))
  settingsDialect := settings.sqlDialect
  maxRows := settings.maxRows
  maxRepairAttempts := settings.maxRepairAttempts
  discloseModelMetadata := settings.discloseModelMetadata
  statementTimeoutMs := settings.statementTimeoutMs
  readonlyEngine := engine
  schema
  detect _ := none
  assemble _ _ _ _ := ()
  generate
  providerModel := "deterministic-fake"
  facts result := s!"Returned {result.rowCount} rows."
  sanitizeCorrelationId id := id.getD "corr"

end TextToSql.Application
