import TextToSql.Domain.Lines
import TextToSql.Library.Backtracking

namespace TextToSql.Llm

open Domain Library.Backtracking

def isControl (c : Char) : Bool :=
  c.toNat ≤ 0x08 || c.toNat == 0x0b || c.toNat == 0x0c || (0x0e ≤ c.toNat && c.toNat ≤ 0x1f)

/-- What a letter of a pattern matches when letter case is ignored. -/
def caseless (letter c : Char) : Bool :=
  c.toLower == letter || (letter == 's' && c == 'ſ') ||
    (letter == 'i' && (c == 'İ' || c == 'ı'))

def roleNames : List String := ["system", "assistant", "user", "developer"]

def role (name : String) : Matcher Char Unit := .each (name.toList.map caseless)

def rolePrefix : Matcher Char (List Char) :=
  (Matcher.lineStart (· == '\n')).seq fun _ ↦ (Matcher.many isSpace).seq fun _ ↦
    (Matcher.oneOf (roleNames.map role)).seq fun _ ↦ (Matcher.many isSpace).seq fun _ ↦
      .literal [':']

/-- The colon that stands in for the ASCII one. -/
def ratio : Char := '∶'

def backtick : Char := Char.ofNat 0x60

def accent : Char := 'ˋ'

def withRatio (c : Char) : Char := if c = ':' then ratio else c

def neutralizeRoles (text : List Char) : List Char :=
  substitute rolePrefix (List.map withRatio) [] text 0

def replaceFences : List Char → List Char
  | a :: b :: c :: rest =>
    if a = backtick ∧ b = backtick ∧ c = backtick then
      accent :: accent :: accent :: replaceFences rest
    else a :: replaceFences (b :: c :: rest)
  | rest => rest

def stripControl (text : List Char) : List Char :=
  text.map fun c ↦ if isControl c then ' ' else c

def sanitizeUntrusted (text : String) (singleLine : Bool) : String :=
  let cleaned := stripControl text.toList
  let cleaned := neutralizeRoles cleaned
  let cleaned := replaceFences cleaned
  let cleaned := if singleLine then collapse cleaned else cleaned
  String.ofList (trimBy isSpace cleaned)

end TextToSql.Llm
