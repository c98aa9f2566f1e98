import TextToSql.Application.Sessions
import TextToSql.Schema.Summary

namespace TextToSql.Api

open Domain Application Schema

/-- What `uuid4().hex` gives. -/
structure Uuid where
  hex : String
  length_hex : hex.length = 32
  digits : ∀ c ∈ hex.toList, c.isDigit ∨ c ∈ ['a', 'b', 'c', 'd', 'e', 'f']

def isSafe (c : Char) : Bool := c.isAlphanum || c ∈ ['_', '.', ':', '-']

def maxIdLen : ℕ := 128

def newCorrelationId (uuid : Uuid) : String := "corr_" ++ uuid.hex

def sanitizeCorrelationId (uuid : Uuid) (value : Option String) : String :=
  match value with
  | none => newCorrelationId uuid
  | some value =>
    if value = "" then newCorrelationId uuid
    else
      let cleaned := String.ofList ((value.toList.filter isSafe).take maxIdLen)
      if cleaned = "" then newCorrelationId uuid else cleaned

/-- The id that `process` binds, from the one in the body and the one that the middleware bound. -/
def processCorrelationId (uuid : Uuid) (requested : Option String) (bound : String) : String :=
  sanitizeCorrelationId uuid
    (match requested.filter (· ≠ "") with
    | some requested => some requested
    | none => if bound = "-" then none else some bound)

structure Headers where
  correlationId : Option String := none
  userId : Option String := none
  tenantId : Option String := none
  roles : Option String := none

def splitRoles (roles : String) : List String :=
  ((roles.toList.splitOn ',').map fun r ↦ strip (String.ofList r)).filter (· ≠ "")

def getAuthContext (headers : Headers) : Except EngineError AuthContext :=
  match headers.userId.filter (· ≠ ""), headers.tenantId.filter (· ≠ "") with
  | some userId, some tenantId =>
    .ok { userId, tenantId, roles := splitRoles (headers.roles.getD "") }
  | _, _ =>
    .error
      { type := .authorizationError
        message := "Authentication context is required (X-User-Id and X-Tenant-Id headers)."
        details := .code "missing_identity" }

def isAdmin (py : Python) (auth : AuthContext) : Bool := "admin" ∈ auth.roles.map py.lower

def requireAdmin (py : Python) (headers : Headers) : Except EngineError AuthContext :=
  match getAuthContext headers with
  | .error error => .error error
  | .ok auth =>
    if isAdmin py auth then .ok auth
    else
      .error
        { type := .authorizationError
          message := "This operation requires the 'admin' role."
          details := .code "admin_required" }

inductive ErrorCategory where
  | client | ambiguity | authorization | validation | provider | database | cost | configuration
  | dependency | internal
  deriving DecidableEq

def ErrorCategory.value : ErrorCategory → String
  | .client => "client"
  | .ambiguity => "ambiguity"
  | .authorization => "authorization"
  | .validation => "validation"
  | .provider => "provider"
  | .database => "database"
  | .cost => "cost"
  | .configuration => "configuration"
  | .dependency => "dependency"
  | .internal => "internal"

def errorCategory : ErrorType → ErrorCategory
  | .authorizationError => .authorization
  | .costRejectedError => .cost
  | .sqlValidationError | .repairExhaustedError => .validation
  | .executionError => .database

def errorRetryable : ErrorType → Bool
  | .authorizationError | .costRejectedError | .sqlValidationError | .repairExhaustedError => false
  | .executionError => true

structure ErrorDetail where
  code : String
  message : String
  category : String
  retryable : Bool
  details : Option ErrorDetails := none

structure ErrorResponse where
  error : ErrorDetail
  correlationId : String

inductive Body where
  | query (response : QueryResponse)
  | report (report : ValidationReport)
  | summary (response : SchemaSummaryResponse)
  | error (response : ErrorResponse)
  | health (status : String) (checks : List (String × String))

structure Response where
  status : ℕ
  body : Body

def envelope (fault : Fault) (correlationId : String) : Response :=
  match fault with
  | .engine error =>
    { status := error.type.httpStatus
      body := .error
        { error :=
            { code := error.type.errorCode
              message := error.message
              category := (errorCategory error.type).value
              retryable := errorRetryable error.type
              details := some error.details }
          correlationId } }
  | .provider error =>
    { status := error.type.httpStatus
      body := .error
        { error :=
            { code := error.type.errorCode
              message := error.message
              category := ErrorCategory.provider.value
              retryable := error.retryable }
          correlationId } }
  | .unhandled =>
    { status := 500
      body := .error
        { error :=
            { code := "engine_error"
              message := "An unexpected internal error occurred."
              category := ErrorCategory.internal.value
              retryable := false }
          correlationId } }

def statusCode (status : ResponseStatus) : ℕ :=
  if status = .clarificationRequired then 409 else 200

/-- What the route answers when `process` has ended. The handler of an unexpected exception runs
outside the task of the route, where the id of the middleware is bound. -/
def respond (correlationId bound : String) : Except Fault QueryResponse → Response
  | .ok response => { status := statusCode response.status, body := .query response }
  | .error .unhandled => envelope .unhandled bound
  | .error fault => envelope fault correlationId

end TextToSql.Api
