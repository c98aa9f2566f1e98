import TextToSql.Application.Gate
import TextToSql.Application.Repair
import TextToSql.Execution.Executor

namespace TextToSql.Application

open Domain Sql Security Execution

structure RepairContext where
  attempt : Nat
  attempt_pos : 1 ≤ attempt
  previousSql : String
  errors : List String

/-- What the provider receives. The assembled prompt, the selected part of the schema, the
semantic layer and the resolved date are the `context`. -/
structure GenerationRequest (γ : Type) where
  question : String
  dialect : SQLDialect
  context : γ
  maxRows : Nat
  conversation : Option ConversationState
  repair : Option RepairContext
  model : String

structure GenerationResponse where
  sql : String
  explanation : String := ""
  assumptions : List String := []
  confidence : ℚ := 1 / 2
  promptVersion : String := "unknown"
  provider : String := "unknown"
  model : String := "unknown"
  promptTokens : Nat := 0
  completionTokens : Nat := 0

inductive ResponseStatus where
  | success | clarificationRequired | preview
  deriving DecidableEq

structure QueryResponse where
  status : ResponseStatus
  correlationId : String
  sql : Option String := none
  dialect : Option SQLDialect := none
  columns : List String := []
  rows : List (List Json) := []
  rowCount : Option Nat := none
  truncated : Bool := false
  explanation : Option String := none
  assumptions : List String := []
  warnings : List String := []
  confidence : Option ℚ := none
  validation : Option ValidationReport := none
  clarification : Option Clarification := none
  model : Option ModelMetadata := none

/-- One pass through the generation loop: the request, the answer, and the check of the candidate
with the arguments it was given. -/
structure Round (γ : Type) where
  request : GenerationRequest γ
  generation : GenerationResponse
  auth : AuthContext
  maxRows : Nat
  secured : Secured

/-- A call of `ReadOnlyExecutor.execute` and the statements it sent on its connection. -/
structure ExecutorCall where
  sql : String
  dialect : SQLDialect
  maxRows : Nat
  sent : List Statement

/-- Everything that one call of `process` does. -/
structure Run (γ : Type) where
  rounds : List (Round γ) := []
  executions : List ExecutorCall := []
  outcome : Except EngineError QueryResponse

structure Orchestrator (γ : Type) where
  gate : Gate
  settingsDialect : SQLDialect
  maxRows : Nat
  maxRepairAttempts : Nat
  discloseModelMetadata : Bool
  statementTimeoutMs : Nat
  readonlyEngine : Engine
  /-- `catalog.get_schema()` -/
  schema : DatabaseSchema
  /-- `ambiguity.detect` -/
  detect : String → Option Clarification
  /-- retrieval, date resolution and prompt building -/
  assemble : QueryRequest → SQLDialect → Nat → DatabaseSchema → γ
  /-- `provider.generate`, given every request it has received so far -/
  generate : List (GenerationRequest γ) → GenerationResponse
  providerModel : String
  /-- the statement of facts about a result -/
  facts : ExecutionResult → String
  /-- `sanitize_correlation_id` -/
  sanitizeCorrelationId : Option String → String

def truncationWarning (rowCount : Nat) : String :=
  s!"Results were truncated to {rowCount} rows; refine the " ++
    "question or add filters to see the full set."

def lowConfidenceWarning : String :=
  "Low generation confidence — verify the SQL matches your intent."

def explainResult (facts : ExecutionResult → String) (result : ExecutionResult)
    (assumptions : List String) (confidence : ℚ) (truncatedNote : Bool) :
    String × List String :=
  let parts := facts result ::
    (if assumptions = [] then []
    else ["Assumptions: " ++ String.intercalate "; " assumptions ++ "."])
  let warnings :=
    (if truncatedNote || result.truncated then [truncationWarning result.rowCount] else []) ++
    (if confidence < 1 / 2 then [lowConfidenceWarning] else [])
  (String.intercalate " " parts, warnings)

def authCodes : List String := ["column_denied", "table_denied", "table_not_allowed"]

def costCodes : List String :=
  ["cartesian_product", "too_many_joins", "subquery_too_deep", "too_many_columns",
    "estimated_cost_too_high"]

def securityCodes : List String :=
  ["non_read_only_statement", "forbidden_statement", "multiple_statements", "comment_present",
    "system_catalog_access", "cross_database_access", "schema_not_allowed"]

/-- The error that `_raise_for_failure` raises. -/
def failure (secured : Secured) (attempts : Nat) : EngineError :=
  let has (codes : List String) := secured.issues.any fun i ↦ i.code ∈ codes
  let details := ErrorDetails.rejected secured.issues attempts
  if has authCodes then
    { type := .authorizationError
      message := "The query accesses data you are not permitted to read."
      details }
  else if has costCodes then
    { type := .costRejectedError
      message := "The query was rejected as too expensive or complex."
      details }
  else if has securityCodes then
    { type := .sqlValidationError
      message := "The generated SQL violated a safety rule."
      details }
  else
    { type := .repairExhaustedError
      message := "A valid query could not be produced within the allowed repair attempts."
      details }

def buildReport (secured : Secured) (applied : List String) : ValidationReport :=
  { isValid := secured.ok
    statementType := some secured.statementType.value
    referencedTables := secured.referencedTables
    referencedColumns := secured.referencedColumns
    issues := secured.issues
    riskLevel := secured.cost.map (·.riskLevel)
    estimatedCost := secured.cost.bind (·.estimatedRows)
    appliedRewrites := applied }

namespace Orchestrator

variable {γ : Type} (o : Orchestrator γ) (request : QueryRequest) (auth : AuthContext)

def dialect : SQLDialect := request.dialect.getD o.settingsDialect

def effectiveMaxRows : Nat := min (request.maxRows.getD o.maxRows) o.maxRows

def secure (sql : String) : Secured :=
  o.gate.secureCandidate (o.dialect request) o.schema auth (o.effectiveMaxRows request) sql

def round (sent : List (GenerationRequest γ)) (repair : Option RepairContext) : Round γ :=
  let generationRequest : GenerationRequest γ :=
    { question := request.question
      dialect := o.dialect request
      context := o.assemble request (o.dialect request) (o.effectiveMaxRows request) o.schema
      maxRows := o.effectiveMaxRows request
      conversation := request.conversation
      repair
      model := o.providerModel }
  let generation := o.generate (sent ++ [generationRequest])
  { request := generationRequest
    generation
    auth
    maxRows := o.effectiveMaxRows request
    secured := o.secure request auth generation.sql }

/-- The loop with `remaining` attempts after the current one: the rounds and the number of
repairs. -/
def generateWithRepair (sent : List (GenerationRequest γ)) (repair : Option RepairContext)
    (attempts : Nat) : Nat → List (Round γ) × Nat
  | 0 => ([o.round request auth sent repair], attempts)
  | remaining + 1 =>
    let current := o.round request auth sent repair
    if current.secured.ok then ([current], attempts)
    else if isRepairable current.secured.issues then
      let context : RepairContext :=
        { attempt := attempts + 1
          attempt_pos := Nat.le_add_left 1 attempts
          previousSql := current.generation.sql
          errors := sanitizedFeedback current.secured.issues }
      let later := generateWithRepair (sent ++ [current.request]) (some context) (attempts + 1)
        remaining
      (current :: later.1, later.2)
    else ([current], attempts)

def modelMetadata (generation : GenerationResponse) (attempts : Nat) : Option ModelMetadata :=
  if o.discloseModelMetadata then
    some
      { provider := generation.provider
        model := generation.model
        promptVersion := generation.promptVersion
        promptTokens := some generation.promptTokens
        completionTokens := some generation.completionTokens
        repairAttempts := attempts }
  else none

def preview (generation : GenerationResponse) (secured : Secured) (attempts : Nat) :
    QueryResponse :=
  { status := .preview
    correlationId := o.sanitizeCorrelationId request.correlationId
    sql := secured.finalSql
    dialect := some (o.dialect request)
    explanation := if generation.explanation = "" then none else some generation.explanation
    assumptions := generation.assumptions
    confidence := some generation.confidence
    validation := some (buildReport secured secured.appliedRewrites)
    model := o.modelMetadata generation attempts }

def success (generation : GenerationResponse) (secured : Secured) (attempts : Nat)
    (result : ExecutionResult) : QueryResponse :=
  let explained :=
    if request.explain then
      explainResult o.facts result generation.assumptions generation.confidence result.truncated
    else (generation.explanation, [])
  { status := .success
    correlationId := o.sanitizeCorrelationId request.correlationId
    sql := secured.finalSql
    dialect := some (o.dialect request)
    columns := result.columns
    rows := result.rows
    rowCount := some result.rowCount
    truncated := result.truncated
    explanation := some explained.1
    assumptions := generation.assumptions
    warnings := explained.2
    confidence := some generation.confidence
    validation := some (buildReport secured secured.appliedRewrites)
    model := o.modelMetadata generation attempts }

def executeFinal (rounds : List (Round γ)) (generation : GenerationResponse) (secured : Secured)
    (attempts : Nat) (sql : String) : Run γ :=
  let executed := execute o.gate.py o.readonlyEngine (o.dialect request) o.statementTimeoutMs sql
    (o.effectiveMaxRows request)
  { rounds
    executions := [⟨sql, o.dialect request, o.effectiveMaxRows request, executed.1⟩]
    outcome := executed.2.map (o.success request generation secured attempts) }

/-- What happens after the loop, given its last round. -/
def dispatch (execute : Bool) (rounds : List (Round γ)) (generation : GenerationResponse)
    (secured : Secured) (attempts : Nat) : Run γ :=
  match secured.ok, secured.finalSql with
  | true, some sql =>
    if execute && !request.dryRun && !request.sqlOnly then
      o.executeFinal request rounds generation secured attempts sql
    else { rounds, outcome := .ok (o.preview request generation secured attempts) }
  | _, _ => { rounds, outcome := .error (failure secured attempts) }

def tenantMismatch : Bool := request.tenantId.any (· ≠ auth.tenantId)

def process (execute : Bool) : Run γ :=
  if tenantMismatch request auth then
    { outcome := .error
        { type := .authorizationError
          message := "The requested tenant does not match the authenticated tenant."
          details := .code "tenant_mismatch" } }
  else
    match o.detect request.question with
    | some clarification =>
      { outcome := .ok
          { status := .clarificationRequired
            correlationId := o.sanitizeCorrelationId request.correlationId
            clarification := some clarification } }
    | none =>
      let looped := o.generateWithRepair request auth [] none 0 o.maxRepairAttempts
      match looped.1.getLast? with
      | none => { outcome := .error (failure { ok := false } looped.2) }
      | some last => o.dispatch request execute looped.1 last.generation last.secured looped.2

end Orchestrator

end TextToSql.Application
