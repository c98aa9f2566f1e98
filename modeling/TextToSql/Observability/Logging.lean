import TextToSql.Domain.JsonValue
import TextToSql.Library.Dictionary

namespace TextToSql.Observability

open Domain Library

/-- The value of a field. An object of another class is written as what `str` makes of it. -/
inductive Value where
  | none
  | bool (b : Bool)
  | int (n : ℤ)
  | float (x : PyFloat)
  | str (s : String)
  | list (items : List Value)
  | tuple (items : List Value)
  | dict (entries : List (String × Value))
  | object (text : String)

namespace Value

def dumps : Value → JsonValue
  | .none => .null
  | .bool b => .bool b
  | .int n => .int n
  | .float x => .float x
  | .str s => .str s
  | .list items => .arr (items.map dumps)
  | .tuple items => .arr (items.map dumps)
  | .dict entries => .obj (entries.map fun entry ↦ (entry.1, entry.2.dumps))
  | .object text => .str text
  decreasing_by
    · decreasing_tactic
    · decreasing_tactic
    · have hlt := sizeOf_snd_lt ‹_›
      simp only [dict.sizeOf_spec]
      omega

def strings : Value → List String
  | .none | .bool _ | .int _ | .float _ => []
  | .str s => [s]
  | .list items => items.flatMap strings
  | .tuple items => items.flatMap strings
  | .dict entries => entries.flatMap fun entry ↦ entry.2.strings
  | .object text => [text]
  decreasing_by
    · decreasing_tactic
    · decreasing_tactic
    · have hlt := sizeOf_snd_lt ‹_›
      simp only [dict.sizeOf_spec]
      omega

@[simp] theorem dumps_str (s : String) : (str s).dumps = .str s := by rw [dumps]

theorem strings_dumps (value : Value) : value.dumps.strings = value.strings := by
  fun_induction dumps value with
  | case1 => simp [JsonValue.strings, strings]
  | case2 => simp [JsonValue.strings, strings]
  | case3 => simp [JsonValue.strings, strings]
  | case4 => simp [JsonValue.strings, strings]
  | case5 => simp [strings]
  | case6 items ih =>
    rw [JsonValue.strings, strings, List.flatMap_map]
    exact List.flatMap_congr ih
  | case7 items ih =>
    rw [JsonValue.strings, strings, List.flatMap_map]
    exact List.flatMap_congr ih
  | case8 entries ih =>
    rw [JsonValue.strings, strings, List.flatMap_map]
    exact List.flatMap_congr ih
  | case9 => simp [strings]

end Value

/-- The class name of an exception, and the text of its value. -/
structure ExcInfo where
  typeName : String
  text : String

/-- A call of a logger, with the correlation id that is bound to its context. Keyword arguments have
distinct names. -/
structure LogCall where
  enabled : Bool
  levelName : String
  logger : String
  event : String
  excInfo : Option ExcInfo := none
  correlationId : String
  fields : List (String × Value)
  nodup : (Dictionary.keys fields).Nodup

structure LogRecord where
  levelName : String
  name : String
  message : String
  structured : List (String × Value)
  correlationId : String
  excInfo : Option ExcInfo

variable (redactText : String → String)

/-- Only a field that is a string itself is redacted. -/
def redactField : Value → Value
  | .str s => .str (redactText s)
  | value => value

def emit (redact : Bool) (call : LogCall) : Option LogRecord :=
  if !call.enabled then none
  else
    some
      { levelName := call.levelName
        name := call.logger
        message := if redact then redactText call.event else call.event
        structured := call.fields.map fun field ↦
          (field.1, if redact then redactField redactText field.2 else field.2)
        correlationId := call.correlationId
        excInfo := call.excInfo }

def mergeField (payload : List (String × Value)) (field : String × Value) : List (String × Value) :=
  if field.1 ∉ Dictionary.keys payload then payload ++ [field] else payload

def reservedFields (record : LogRecord) : List (String × Value) :=
  [("level", .str record.levelName), ("logger", .str record.name), ("event", .str record.message),
    ("correlation_id", .str record.correlationId)]

def withException (payload : List (String × Value)) : Option ExcInfo → List (String × Value)
  | none => payload
  | some exc =>
    Dictionary.upsert (fun _ ↦ .str (redactText exc.text)) "error_message"
      (Dictionary.upsert (fun _ ↦ .str exc.typeName) "error_type" payload)

def format (record : LogRecord) : List (String × JsonValue) :=
  let payload := record.structured.foldl mergeField (reservedFields record)
  (withException redactText payload record.excInfo).map fun entry ↦ (entry.1, entry.2.dumps)

def logLine (redact : Bool) (call : LogCall) : Option (List (String × JsonValue)) :=
  (emit redactText redact call).map (format redactText)

end TextToSql.Observability
