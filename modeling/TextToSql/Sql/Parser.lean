import TextToSql.Domain.Lines
import TextToSql.Domain.Models
import TextToSql.Sql.Expression

namespace TextToSql.Sql

open Domain

/-- The functions of the SQL toolkit that the pipeline calls. -/
structure Sqlglot where
  parse : SQLDialect → String → Except String (List (Option Expression))
  sql : SQLDialect → Expression → String

def Sqlglot.one (sql : String) (statement : Expression) (rendered : String) : Sqlglot where
  parse _ text := if text = sql then .ok [some statement] else .error "Invalid expression"
  sql _ _ := rendered

def selectFrom (column table : String) (clauses : List Expression) : Expression :=
  .mk .this (.select false)
    (.mk .expressions (.column "" column) [] ::
      .mk .from_ .from_ [.mk .this (.table { name := table }) []] :: clauses)

structure SQLParseError where
  message : String
  reason : Option String := none

def firstLine (text : String) : String :=
  let stripped := strip text
  if stripped = "" then "parse error"
  else String.ofList ((stripped.toList.takeWhile fun c ↦ !isLineBreak c).take 200)

def parseStatements (glot : Sqlglot) (sql : String) (dialect : SQLDialect) :
    Except SQLParseError (List Expression) :=
  match glot.parse dialect sql with
  | .error exc =>
    .error { message := "The generated SQL could not be parsed.", reason := some (firstLine exc) }
  | .ok parsed =>
    let statements := parsed.filterMap id
    if statements = [] then
      .error { message := "No SQL statement was found in the input." }
    else .ok statements

theorem parseStatements_one (sql rendered : String) (e : Expression) (dialect : SQLDialect) :
    parseStatements (.one sql e rendered) sql dialect = .ok [e] := by
  simp [parseStatements, Sqlglot.one]

def commandType (keyword : String) : StatementType :=
  match keyword with
  | "TRUNCATE" => .truncate
  | "GRANT" => .grant
  | "REVOKE" => .revoke
  | "VACUUM" => .other
  | "ANALYZE" => .other
  | "CALL" => .call
  | "EXECUTE" => .call
  | "COPY" => .other
  | _ => .other

def classifyStatement (py : Python) (expression : Expression) : StatementType :=
  match expression.label.type with
  | .select _ => .select
  | .setOperation _ _ => .union
  | .subquery _ _ => .select
  | .statement .insert => .insert
  | .statement .update => .update
  | .statement .delete => .delete
  | .statement .merge => .merge
  | .statement .drop => .drop
  | .statement .alter => .alter
  | .statement .create => .create
  | .statement .truncateTable => .truncate
  | .statement .grant => .grant
  | .statement .set => .set
  | .statement .transaction | .statement .commit | .statement .rollback => .transaction
  | .statement .pragma => .pragma
  | .statement (.command keyword) => commandType (py.upper keyword)
  | _ => .other

def isQuery : NodeType → Bool
  | .select _ | .setOperation _ _ | .subquery _ _ => true
  | _ => false

theorem commandType_not_readOnly (keyword : String) :
    (commandType keyword).isReadOnly = false := by
  unfold commandType
  split <;> rfl

/-- The read-only statements are the queries. -/
theorem classifyStatement_isReadOnly (py : Python) (e : Expression) :
    (classifyStatement py e).isReadOnly = isQuery e.label.type := by
  unfold classifyStatement
  cases e.label.type with
  | statement kind =>
    cases kind with
    | command keyword => exact commandType_not_readOnly _
    | _ => rfl
  | _ => rfl

end TextToSql.Sql
