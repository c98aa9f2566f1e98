import TextToSql.Api.Http
import TextToSql.Schema.Freshness

namespace TextToSql.Api

open Library Domain Application Execution

/-- A request to check a statement that has passed the field bounds of its model. -/
structure ValidateSqlRequest where
  sql : String
  sql_length : 1 ≤ sql.length ∧ sql.length ≤ 20000
  dialect : Option SQLDialect := none

/-- The running service: the schema catalog with the clock and what an introspection gives, what the
database answers, the calls of `process`, and the calls of `inc` so far. -/
structure Service (γ : Type) where
  world : Schema.World
  environment : Environment
  sessions : List (Session γ) := []
  increments : List Increment := []

/-- What happens to the service. A request comes with the identifiers that are drawn for it: one in
the middleware and one in the handler. -/
inductive Event where
  | query (headers : Headers) (uuid bound : Uuid) (request : QueryRequest) (execute : Bool)
  | wake (id : ℕ) (input : Input)
  | validate (headers : Headers) (bound : Uuid) (request : ValidateSqlRequest)
  | schema (headers : Headers) (bound : Uuid)
  | refresh (headers : Headers) (bound : Uuid)
  | ready (connected : Bool)
  | advance (seconds : ℚ) (nonneg : 0 ≤ seconds)
  | change (database : Except String DatabaseSchema)
  | write (environment : Environment)

/-- What a handler does: the event of the schema catalog that it causes, the session that it starts
or moves, the counters, how a call of `process` ends, and the response. -/
structure Reaction (γ : Type) where
  catalog : Option Schema.Event := none
  session : Option (Processes.Move (Session γ) Session.Wake) := none
  increments : List Increment := []
  outcome : Option (Except Fault QueryResponse) := none
  response : Option Response := none

def Reaction.refuse {γ : Type} (fault : Fault) (correlationId : String) : Reaction γ :=
  { response := some (envelope fault correlationId) }

def Reaction.finish {γ : Type} (outcome : Except Fault QueryResponse)
    (correlationId bound : String) : Reaction γ :=
  { outcome := some outcome, response := some (respond correlationId bound outcome) }

namespace Service

variable {γ : Type} (o : Orchestrator γ) (service : Service γ)

def served : Except String DatabaseSchema :=
  (service.world.reply o.gate.py (.getSchema false)).answer

def tenantMismatchFault : Fault :=
  .engine
    { type := .authorizationError
      message := "The requested tenant does not match the authenticated tenant."
      details := .code "tenant_mismatch" }

/-- The start of `process`, up to the first request to the provider. -/
def begin_ (request : QueryRequest) (auth : AuthContext) (execute : Bool)
    (correlationId bound : String) : Reaction γ :=
  if Orchestrator.tenantMismatch request auth then
    .finish (.error tenantMismatchFault) correlationId bound
  else
    match o.detect request.question with
    | some clarification =>
      { Reaction.finish
          (.ok
            { status := .clarificationRequired
              correlationId
              clarification := some clarification })
          correlationId bound with
        increments := [requestsTotal execute, clarificationsTotal clarification.category] }
    | none =>
      match service.served o with
      | .error _ =>
        { Reaction.finish (.error .unhandled) correlationId bound with
          catalog := some (.call (.getSchema false))
          increments := [requestsTotal execute] }
      | .ok schema =>
        { catalog := some (.call (.getSchema false))
          session := some (.spawn (Session.opened o request auth execute correlationId bound
            schema))
          increments := [requestsTotal execute] }

def ended (session : Session γ) : Option (Except Fault QueryResponse) :=
  match session.phase with
  | .finished outcome => some outcome
  | _ => none

def wake (id : ℕ) (input : Input) : Reaction γ :=
  match service.sessions[id]? with
  | none => {}
  | some session =>
    match session.phase with
    | .finished _ => {}
    | _ =>
      let resumed := session.resume o service.environment input
      let outcome := ended resumed.1
      { session := some (.deliver id (service.environment, input))
        increments := resumed.2
        outcome
        response := outcome.map (respond session.correlationId session.bound) }

def validateSql (request : ValidateSqlRequest) (auth : AuthContext) (schema : DatabaseSchema) :
    ValidationReport :=
  let gate : Gate := { o.gate with readonlyEngine := service.environment.planner }
  let secured := gate.secureCandidate (request.dialect.getD o.settingsDialect) schema auth o.maxRows
    request.sql
  buildReport secured secured.appliedRewrites

def fromCatalog (call : Schema.Call) (correlationId : String)
    (answer : DatabaseSchema → Body) : Reaction γ :=
  { catalog := some (.call call)
    response := some
      (match (service.world.reply o.gate.py call).answer with
      | .ok schema => { status := 200, body := answer schema }
      | .error _ => envelope .unhandled correlationId) }

def ready (connected : Bool) : Reaction γ :=
  let available := (service.served o).toOption.isSome
  let mark (ok : Bool) := if ok then "ok" else "unavailable"
  { catalog := some (.call (.getSchema false))
    response := some
      { status := if connected && available then 200 else 503
        body := .health (if connected && available then "ok" else "not_ready")
          [("database", mark connected), ("schema", mark available)] } }

def react : Event → Reaction γ
  | .query headers uuid bound request execute =>
    let header := sanitizeCorrelationId bound headers.correlationId
    match getAuthContext headers with
    | .error error => .refuse (.engine error) header
    | .ok auth =>
      service.begin_ o request auth execute
        (processCorrelationId uuid request.correlationId header) header
  | .wake id input => service.wake o id input
  | .validate headers bound request =>
    let header := sanitizeCorrelationId bound headers.correlationId
    match getAuthContext headers with
    | .error error => .refuse (.engine error) header
    | .ok auth =>
      service.fromCatalog o (.getSchema false) header fun schema ↦
        .report (service.validateSql o request auth schema)
  | .schema headers bound =>
    let header := sanitizeCorrelationId bound headers.correlationId
    match getAuthContext headers with
    | .error error => .refuse (.engine error) header
    | .ok auth =>
      service.fromCatalog o (.getSchema false) header fun schema ↦
        .summary (Schema.summaryFor o.gate.py schema auth.roles)
  | .refresh headers bound =>
    let header := sanitizeCorrelationId bound headers.correlationId
    match requireAdmin o.gate.py headers with
    | .error error => .refuse (.engine error) header
    | .ok auth =>
      service.fromCatalog o .refresh header fun schema ↦
        .summary (Schema.summaryFor o.gate.py schema auth.roles)
  | .ready connected => service.ready o connected
  | .advance seconds nonneg => { catalog := some (.advance seconds nonneg) }
  | .change database => { catalog := some (.change database) }
  | .write _ => {}

/-- The service after an event. -/
def step (event : Event) : Service γ where
  world := (service.react o event).catalog.elim service.world (service.world.step o.gate.py)
  environment :=
    match event with
    | .write environment => environment
    | _ => service.environment
  sessions := (service.react o event).session.elim service.sessions
    (Processes.move (Session.next o) service.sessions)
  increments := service.increments ++ (service.react o event).increments

def start (ttl : ℚ) (semantic : Schema.SemanticLayer) (now : ℚ)
    (database : Except String DatabaseSchema) (environment : Environment) : Service γ where
  world := .start ttl semantic now database
  environment

end Service

abbrev Past (γ : Type) : Type := List (Service γ × Event)

end TextToSql.Api
