import TextToSql.Domain.JsonValue
import TextToSql.Domain.Schema
import TextToSql.Library.Dictionary
import TextToSql.Llm.Retries

namespace TextToSql.Llm.OpenaiAdapter

open Domain Library

/-- What the adapter takes from the runtime: the `json` module, the conversions of strings, and the
texts of floats, lists and dictionaries. -/
structure Conversions where
  py : Python
  loads : String → Decoded JsonValue
  intOfString : String → Option ℤ
  floatOfString : String → Option PyFloat
  strOfFloat : PyFloat → String
  repr : JsonValue → String

/-- Exceptions of built-in operations. -/
inductive BuiltinError where
  | typeError | attributeError | valueError | overflowError
  | raised (exception : String)
  deriving DecidableEq

def truthy : JsonValue → Bool
  | .null => false
  | .bool b => b
  | .int n => n ≠ 0
  | .float x => x ≠ .finite 0
  | .str s => s ≠ ""
  | .arr items => !items.isEmpty
  | .obj entries => !entries.isEmpty

def intOfFloat : PyFloat → Except BuiltinError ℤ
  | .nan => .error .valueError
  | .negInf | .posInf => .error .overflowError
  | .finite q => .ok (if 0 ≤ q then ⌊q⌋ else ⌈q⌉)

def floatOfInt (n : ℤ) : Except BuiltinError PyFloat :=
  match binary64 n with
  | .finite q => .ok (.finite q)
  | _ => .error .overflowError

section Convert

variable (conv : Conversions)

def toInt : JsonValue → Except BuiltinError ℤ
  | .null | .arr _ | .obj _ => .error .typeError
  | .bool b => .ok (if b then 1 else 0)
  | .int n => .ok n
  | .float x => intOfFloat x
  | .str s =>
    match conv.intOfString s with
    | some n => .ok n
    | none => .error .valueError

def toFloat : JsonValue → Except BuiltinError PyFloat
  | .null | .arr _ | .obj _ => .error .typeError
  | .bool b => .ok (.finite (if b then 1 else 0))
  | .int n => floatOfInt n
  | .float x => .ok x
  | .str s =>
    match conv.floatOfString s with
    | some x => .ok x
    | none => .error .valueError

def toStr : JsonValue → String
  | .null => "None"
  | .bool b => if b then "True" else "False"
  | .int n => toString n
  | .float x => conv.strOfFloat x
  | .str s => s
  | value => conv.repr value

def toTexts (value : JsonValue) : Except BuiltinError (List String) :=
  if !truthy value then .ok []
  else
    match value with
    | .arr items => .ok (items.map (toStr conv))
    | .obj entries => .ok (Dictionary.keys entries)
    | .str s => .ok (s.toList.map fun c ↦ String.ofList [c])
    | _ => .error .typeError

end Convert

structure TokenUsage where
  promptTokens : ℤ
  completionTokens : ℤ

structure GenerationResponse where
  sql : String
  dialect : SQLDialect
  explanation : String
  referencedTables : List String
  referencedColumns : List String
  assumptions : List String
  confidence : PyFloat
  needsClarification : Bool
  promptVersion : String
  provider : String
  model : String
  usage : TokenUsage

/-- What the adapter reads of the request, and its own settings. -/
structure ResponseContext where
  dialect : SQLDialect
  promptVersion : String
  providerName : String
  model : String

inductive ParseError where
  | providerOutputError (message : String)
  | builtin (error : BuiltinError)

def item (key : String) : JsonValue → Option JsonValue
  | .obj entries => Dictionary.find key entries
  | _ => none

def firstItem : JsonValue → Option JsonValue
  | .arr items => items.head?
  | .str s => s.toList.head?.map fun c ↦ .str (String.ofList [c])
  | _ => none

def messageContent (data : JsonValue) : Option JsonValue :=
  (((item "choices" data).bind firstItem).bind (item "message")).bind (item "content")

def getOr (key : String) (default : JsonValue) (entries : List (String × JsonValue)) : JsonValue :=
  (Dictionary.find key entries).getD default

section Parse

variable (conv : Conversions)

def coerceDialect (value : JsonValue) (default : SQLDialect) : SQLDialect :=
  match value with
  | .str s =>
    if conv.py.lower s = SQLDialect.sqlite.sqlglotName then .sqlite
    else if conv.py.lower s = SQLDialect.postgres.sqlglotName then .postgres
    else default
  | _ => default

def clamp (conf : PyFloat) : PyFloat :=
  let smaller := if conf.lt (.finite 1) then conf else .finite 1
  if (PyFloat.finite 0).lt smaller then smaller else .finite 0

/-- Of the exceptions of `float`, an `OverflowError` is not handled. -/
def coerceConfidence (value : JsonValue) : Except BuiltinError PyFloat :=
  match toFloat conv value with
  | .ok conf => .ok (clamp conf)
  | .error .typeError | .error .valueError => .ok (.finite (1 / 2))
  | .error error => .error error

def tokenCount (key : String) (usage : List (String × JsonValue)) : Except BuiltinError ℤ :=
  let value := getOr key (.int 0) usage
  if truthy value then toInt conv value else .ok 0

def tokenUsage (data : JsonValue) : Except BuiltinError TokenUsage :=
  match (item "usage" data).filter truthy with
  | none => .ok ⟨0, 0⟩
  | some (.obj usage) =>
    match tokenCount conv "prompt_tokens" usage with
    | .error error => .error error
    | .ok promptTokens =>
      match tokenCount conv "completion_tokens" usage with
      | .error error => .error error
      | .ok completionTokens => .ok ⟨promptTokens, completionTokens⟩
  | some _ => .error .attributeError

def sqlObject : JsonValue → Option (List (String × JsonValue) × String)
  | .obj entries =>
    match Dictionary.find "sql" entries with
    | some (.str sql) => some (entries, sql)
    | _ => none
  | _ => none

def decodeMessage (data : JsonValue) : Except ParseError (List (String × JsonValue) × String) :=
  match messageContent data with
  | none => .error (.providerOutputError "Provider response missing message content.")
  | some (.str content) =>
    match conv.loads content with
    | .jsonDecodeError =>
      .error (.providerOutputError "Provider message content was not valid JSON.")
    | .raised exception => .error (.builtin (.raised exception))
    | .data obj =>
      match sqlObject obj with
      | some message => .ok message
      | none => .error (.providerOutputError "Provider JSON did not include a 'sql' string.")
  | some _ => .error (.builtin .typeError)

def buildResponse (context : ResponseContext) (data : JsonValue)
    (entries : List (String × JsonValue)) (sql : String) :
    Except BuiltinError GenerationResponse := do
  let usage ← tokenUsage conv data
  let referencedTables ← toTexts conv (getOr "referenced_tables" (.arr []) entries)
  let referencedColumns ← toTexts conv (getOr "referenced_columns" (.arr []) entries)
  let assumptions ← toTexts conv (getOr "assumptions" (.arr []) entries)
  let confidence ← coerceConfidence conv (getOr "confidence" .null entries)
  return {
    sql := strip sql
    dialect := coerceDialect conv (getOr "dialect" .null entries) context.dialect
    explanation := toStr conv (getOr "explanation" (.str "") entries)
    referencedTables := referencedTables
    referencedColumns := referencedColumns
    assumptions := assumptions
    confidence := confidence
    needsClarification := truthy (getOr "needs_clarification" (.bool false) entries)
    promptVersion := context.promptVersion
    provider := context.providerName
    model := context.model
    usage := usage }

def parseResponse (context : ResponseContext) (data : JsonValue) :
    Except ParseError GenerationResponse :=
  match decodeMessage conv data with
  | .error error => .error error
  | .ok (entries, sql) =>
    match buildResponse conv context data entries sql with
    | .error error => .error (.builtin error)
    | .ok response => .ok response

end Parse

end TextToSql.Llm.OpenaiAdapter
