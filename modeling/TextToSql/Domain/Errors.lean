import TextToSql.Domain.Models

namespace TextToSql.Domain

inductive ErrorType where
  | authorizationError | costRejectedError | sqlValidationError | repairExhaustedError
  | executionError
  deriving DecidableEq

namespace ErrorType

def errorCode : ErrorType → String
  | authorizationError => "authorization_denied"
  | costRejectedError => "query_cost_rejected"
  | sqlValidationError => "sql_validation_failed"
  | repairExhaustedError => "repair_exhausted"
  | executionError => "execution_failed"

def httpStatus : ErrorType → Nat
  | authorizationError => 403
  | costRejectedError | sqlValidationError | repairExhaustedError => 422
  | executionError => 500

end ErrorType

/-- The safe details of an error. -/
inductive ErrorDetails where
  | code (code : String)
  | rejected (issues : List ValidationIssue) (repairAttempts : Nat)
  | reason (reason : String)

structure EngineError where
  type : ErrorType
  message : String
  details : ErrorDetails

end TextToSql.Domain
