import TextToSql.Domain.Errors

namespace TextToSql.Execution

open Domain

/-- A value as the database driver returns it. -/
inductive Value where
  | none
  | bool (value : Bool)
  | int (value : Int)
  | float (value : ℚ)
  | text (value : String)
  | decimal (value : ℚ)
  | temporal (isoformat : String)
  | binary (bytes : List UInt8)
  | other (str : String)
  deriving DecidableEq

inductive Json where
  | null
  | bool (value : Bool)
  | int (value : Int)
  | float (value : ℚ)
  | text (value : String)
  deriving DecidableEq

def toJsonable (py : Python) : Value → Json
  | .none => .null
  | .bool value => .bool value
  | .int value => .int value
  | .float value => .float value
  | .text value => .text value
  | .decimal value => .float (py.float value)
  | .temporal isoformat => .text isoformat
  | .binary _ => .text "«binary»"
  | .other str => .text str

inductive Backend where
  | sqlite | postgresql | other
  deriving DecidableEq

/-- A statement sent on a connection. -/
inductive Statement where
  | queryOnly
  | setReadOnly
  | setTimeout (ms : Nat)
  | explain (sql : String)
  | query (sql : String)
  deriving DecidableEq

structure ResultSet where
  columns : List String
  rows : List (List Value)

/-- A database engine: what it answers to a statement after those already sent on the same
connection. -/
structure Engine where
  backend : Backend
  answer : List Statement → Statement → Except String ResultSet

namespace Engine

def connect (engine : Engine) : List Statement :=
  if engine.backend = .sqlite then [.queryOnly] else []

end Engine

structure ExecutionResult where
  columns : List String
  rows : List (List Json)
  rowCount : Nat
  truncated : Bool

def classifyDbError (py : Python) (text : String) : String :=
  let textLower := py.lower text
  if hasWord "timeout" textLower ∨ hasWord "canceling statement" textLower then
    "statement_timeout"
  else if hasWord "permission" textLower ∨ hasWord "read-only" textLower ∨
      hasWord "readonly" textLower then
    "read_only_violation"
  else if hasWord "syntax" textLower then "syntax_error"
  else "database_error"

/-- `_apply_session_guards`: the statements sent before the query. -/
def sessionGuards (dialect : SQLDialect) (timeoutMs : Nat) : List Statement :=
  if dialect = .postgres then [.setReadOnly, .setTimeout timeoutMs] else []

/-- Sends statements one after the other, up to the first that fails. The result holds what has
been sent, and the answer to the last statement. -/
def send (engine : Engine) (sent : List Statement) (last : ResultSet) :
    List Statement → List Statement × Except String ResultSet
  | [] => (sent, .ok last)
  | s :: rest =>
    match engine.answer sent s with
    | .error exc => (sent ++ [s], .error exc)
    | .ok result => send engine (sent ++ [s]) result rest

def collect (py : Python) (result : ResultSet) (maxRows : Nat) : ExecutionResult :=
  let fetched := result.rows.take (maxRows + 1)
  let rows := (fetched.take maxRows).map (·.map (toJsonable py))
  { columns := result.columns
    rows
    rowCount := rows.length
    truncated := fetched.length > maxRows }

def execute (py : Python) (engine : Engine) (dialect : SQLDialect) (timeoutMs : Nat) (sql : String)
    (maxRows : Nat) : List Statement × Except EngineError ExecutionResult :=
  match send engine engine.connect ⟨[], []⟩ (sessionGuards dialect timeoutMs ++ [.query sql]) with
  | (sent, .ok result) => (sent, .ok (collect py result maxRows))
  | (sent, .error exc) =>
    (sent, .error
      { type := .executionError
        message := "The query could not be executed."
        details := .reason (classifyDbError py exc) })

/-- Every query comes after the two guards on its connection. -/
def Guarded (sent : List Statement) : Prop :=
  ∀ before sql after, sent = before ++ .query sql :: after →
    .setReadOnly ∈ before ∧ ∃ ms, .setTimeout ms ∈ before

section

variable {py : Python} {engine : Engine} {dialect : SQLDialect} {timeoutMs maxRows : Nat}
  {sql : String}

theorem execute_error {error : EngineError}
    (h : (execute py engine dialect timeoutMs sql maxRows).2 = .error error) :
    error.type = .executionError ∧ ∃ reason, error.details = .reason reason := by
  unfold execute at h
  split at h
  · cases h
  · cases h
    exact ⟨rfl, _, rfl⟩

theorem send_ok {sent : List Statement} {last result : ResultSet} {front : List Statement}
    {s : Statement} (h : (send engine sent last (front ++ [s])).2 = .ok result) :
    ∃ sent', engine.answer sent' s = .ok result := by
  induction front generalizing sent last with
  | nil =>
    rw [List.nil_append, send] at h
    split at h
    · cases h
    · rename_i answer ha
      rw [send] at h
      cases h
      exact ⟨sent, ha⟩
  | cons f front ih =>
    rw [List.cons_append, send] at h
    split at h
    · cases h
    · exact ih h

theorem execute_ok {result : ExecutionResult}
    (h : (execute py engine dialect timeoutMs sql maxRows).2 = .ok result) :
    ∃ sent answer, engine.answer sent (.query sql) = .ok answer ∧
      result = collect py answer maxRows := by
  unfold execute at h
  split at h
  · rename_i answer hs
    cases h
    obtain ⟨sent, ha⟩ := send_ok (congrArg Prod.snd hs)
    exact ⟨sent, answer, ha, rfl⟩
  · cases h

theorem send_sent (sent : List Statement) (last : ResultSet) (statements : List Statement) :
    ∃ done, done <+: statements ∧ (send engine sent last statements).1 = sent ++ done := by
  induction statements generalizing sent last with
  | nil => exact ⟨[], List.nil_prefix, (List.append_nil sent).symm⟩
  | cons s rest ih =>
    rw [send]
    split
    · exact ⟨[s], ⟨rest, rfl⟩, rfl⟩
    · rename_i result _
      obtain ⟨done, hdone, heq⟩ := ih (sent ++ [s]) result
      refine ⟨s :: done, List.cons_prefix_cons.mpr ⟨rfl, hdone⟩, ?_⟩
      rw [heq, List.append_assoc, List.singleton_append]

theorem execute_sent :
    (execute py engine dialect timeoutMs sql maxRows).1 =
      (send engine engine.connect ⟨[], []⟩ (sessionGuards dialect timeoutMs ++ [.query sql])).1 := by
  unfold execute
  split
  · rename_i h
    rw [h]
  · rename_i h
    rw [h]

theorem eq_of_append_query {sql' : String} {front before after : List Statement}
    (hfront : ∀ s ∈ front, ∀ q, s ≠ .query q)
    (h : before ++ .query sql' :: after = front ++ [.query sql]) : before = front := by
  induction front generalizing before with
  | nil =>
    cases before with
    | nil => rfl
    | cons b bs => simp at h
  | cons s rest ih =>
    cases before with
    | nil =>
      simp only [List.nil_append, List.cons_append, List.cons.injEq] at h
      exact absurd h.1.symm (hfront s List.mem_cons_self sql')
    | cons b bs =>
      simp only [List.cons_append, List.cons.injEq] at h
      rw [h.1, ih (fun t ht ↦ hfront t (.tail _ ht)) h.2]

theorem guarded_execute_postgres :
    Guarded (execute py engine .postgres timeoutMs sql maxRows).1 := by
  intro before sql' after h
  obtain ⟨done, ⟨rest, hrest⟩, heq⟩ := @send_sent engine engine.connect ⟨[], []⟩
    (sessionGuards .postgres timeoutMs ++ [.query sql])
  rw [execute_sent, heq] at h
  have hfront : ∀ s ∈ engine.connect ++ sessionGuards .postgres timeoutMs,
      ∀ q, s ≠ .query q := by
    unfold Engine.connect sessionGuards
    split <;> simp
  have hall : before ++ .query sql' :: (after ++ rest) =
      (engine.connect ++ sessionGuards .postgres timeoutMs) ++ [.query sql] := by
    rw [List.append_assoc, ← hrest, ← List.append_assoc, h]
    simp
  rw [eq_of_append_query hfront hall]
  exact ⟨by simp [sessionGuards], timeoutMs, by simp [sessionGuards]⟩

theorem not_guarded_execute_sqlite :
    ¬Guarded (execute py engine .sqlite timeoutMs sql maxRows).1 := by
  intro h
  have hsent : (execute py engine .sqlite timeoutMs sql maxRows).1 =
      engine.connect ++ .query sql :: [] := by
    rw [execute_sent]
    simp only [sessionGuards, reduceCtorEq, if_false, List.nil_append, send]
    split <;> rfl
  have hguard := (h _ _ _ hsent).1
  unfold Engine.connect at hguard
  split at hguard <;> simp at hguard

end

end TextToSql.Execution
