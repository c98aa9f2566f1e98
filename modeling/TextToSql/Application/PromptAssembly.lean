import TextToSql.Application.Orchestrator
import TextToSql.Llm.Prompt
import TextToSql.Retrieval.Result
import TextToSql.Semantic.Dates

namespace TextToSql.Application

open Domain Llm Semantic Retrieval Library.Calendar

/-- A resolved relative-date window handed to the provider as guidance. -/
structure ResolvedDate where
  description : String
  matchedPhrase : String
  startIso : String
  endIso : String

def padded (width n : Nat) : String :=
  let digits := toString n
  "".pushn '0' (width - digits.length) ++ digits

def isoformat (t : Datetime) : String :=
  let seconds := t.1.micros / 1000000
  let micros := t.1.micros % 1000000
  padded 4 t.year.toNat ++ "-" ++ padded 2 t.month.toNat ++ "-" ++ padded 2 t.day.toNat ++ " " ++
    padded 2 (seconds / 3600) ++ ":" ++ padded 2 (seconds / 60 % 60) ++ ":" ++
    padded 2 (seconds % 60) ++ if micros = 0 then "" else "." ++ padded 6 micros

def toResolvedDate (rd : ResolvedDateRange) : ResolvedDate where
  description := rd.description
  matchedPhrase := rd.matchedPhrase
  startIso := isoformat rd.start
  endIso := isoformat rd.end

def resolveDate (py : Python) (cc : CharClasses) (question : String) (now : Datetime) :
    Except PyError (Option ResolvedDate) :=
  (resolveRelativeDate py cc question now).map (Option.map toResolvedDate)

def summaryList (label : String) (items : List String) : List String :=
  if items = [] then [] else [label ++ String.intercalate ", " items]

def conversationSummary (request : QueryRequest) : Option String :=
  (request.conversation.bind ConversationState.last).map fun last ↦
    String.intercalate "; "
      (["Previous question: " ++ last.question] ++
      summaryList "metrics: " last.metrics ++
      summaryList "dimensions: " last.dimensions ++
      summaryList "filters: " last.filters ++
      match last.dateRange.filter (· ≠ "") with
      | some range => ["date range: " ++ range]
      | none => [])

/-- What a request for SQL carries besides the caller's fields. -/
structure GenerationContext where
  prompt : PromptPayload
  schemaSubset : DatabaseSchema
  semanticLayer : SemanticLayer
  resolvedDate : Option ResolvedDate

/-- The components that fill the prompt; the date of the request is already resolved. -/
structure Assembly where
  py : Python
  semantic : SemanticLayer
  retrieve : String → DatabaseSchema → RetrievalResult
  resolvedDate : Option ResolvedDate

namespace Assembly

variable (assembly : Assembly) (request : QueryRequest) (dialect : SQLDialect) (maxRows : Nat)
  (schema : DatabaseSchema)

def promptContext : PromptContext :=
  let retrieval := assembly.retrieve request.question schema
  { question := request.question
    dialect
    schemaText := serializeForPrompt assembly.py retrieval.schemaSubset
    semanticText := PromptBuilder.renderSemanticContext assembly.py assembly.semantic
      retrieval.tableNames
    maxRows
    resolvedDateText := assembly.resolvedDate.map ResolvedDate.description
    conversationSummary := conversationSummary request }

def context : GenerationContext where
  prompt := PromptBuilder.build assembly.py
    (assembly.promptContext request dialect maxRows schema)
  schemaSubset := (assembly.retrieve request.question schema).schemaSubset
  semanticLayer := assembly.semantic
  resolvedDate := assembly.resolvedDate

end Assembly

def wholeSchema : Assembly where
  py := .ascii
  semantic := {}
  retrieve _ schema := ⟨[], schema⟩
  resolvedDate := none

structure Message where
  role : String
  content : String
  deriving DecidableEq

/-- The body that is posted, as far as it depends on the request. -/
structure ChatBody where
  model : String
  temperature : ℚ
  messages : List Message

structure OpenAICompatibleProvider where
  model : String
  temperature : ℚ := 0
  /-- the parsed answer of the endpoint, given every body it has received -/
  endpoint : List ChatBody → GenerationResponse

namespace OpenAICompatibleProvider

variable (provider : OpenAICompatibleProvider)

def body (request : GenerationRequest GenerationContext) : ChatBody where
  model := provider.model
  temperature := provider.temperature
  messages :=
    [⟨"system", request.context.prompt.system⟩, ⟨"user", request.context.prompt.user⟩]

def generate (sent : List (GenerationRequest GenerationContext)) : GenerationResponse :=
  provider.endpoint (sent.map provider.body)

end OpenAICompatibleProvider

/-- The orchestrator with its prompt assembly and a provider that speaks the chat protocol. -/
def Orchestrator.chatting {γ : Type} (o : Orchestrator γ) (assembly : Assembly)
    (provider : OpenAICompatibleProvider) : Orchestrator GenerationContext where
  gate := o.gate
  settingsDialect := o.settingsDialect
  maxRows := o.maxRows
  maxRepairAttempts := o.maxRepairAttempts
  discloseModelMetadata := o.discloseModelMetadata
  statementTimeoutMs := o.statementTimeoutMs
  readonlyEngine := o.readonlyEngine
  schema := o.schema
  detect := o.detect
  assemble := assembly.context
  generate := provider.generate
  providerModel := provider.model
  facts := o.facts
  sanitizeCorrelationId := o.sanitizeCorrelationId

end TextToSql.Application
