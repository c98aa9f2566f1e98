import TextToSql.Domain.Schema

namespace TextToSql.Domain

inductive RiskLevel where
  | low | medium | high
  deriving DecidableEq

inductive StatementType where
  | select | with_ | union | insert | update | delete | merge | drop | alter | truncate | create
  | grant | revoke | transaction | pragma | set | call | other
  deriving DecidableEq

namespace StatementType

def value : StatementType → String
  | select => "select"
  | with_ => "with"
  | union => "union"
  | insert => "insert"
  | update => "update"
  | delete => "delete"
  | merge => "merge"
  | drop => "drop"
  | alter => "alter"
  | truncate => "truncate"
  | create => "create"
  | grant => "grant"
  | revoke => "revoke"
  | transaction => "transaction"
  | pragma => "pragma"
  | set => "set"
  | call => "call"
  | other => "other"

def isReadOnly (s : StatementType) : Bool := s ∈ [select, with_, union]

end StatementType

structure ValidationIssue where
  code : String
  message : String
  location : Option String := none
  deriving DecidableEq

def addIssue (issues : List ValidationIssue) (issue : ValidationIssue) : List ValidationIssue :=
  if issues.any fun i ↦ i.code = issue.code ∧ i.location = issue.location then issues
  else issues ++ [issue]

def addIssues (issues found : List ValidationIssue) : List ValidationIssue :=
  found.foldl addIssue issues

theorem mem_addIssue_code {issues : List ValidationIssue} {issue : ValidationIssue}
    {code : String} :
    code ∈ (addIssue issues issue).map ValidationIssue.code ↔
      code ∈ issues.map ValidationIssue.code ∨ code = issue.code := by
  rw [addIssue]
  split
  · rename_i h
    obtain ⟨i, hi, h⟩ := List.any_eq_true.mp h
    simp only [decide_eq_true_eq] at h
    refine ⟨.inl, ?_⟩
    rintro (hc | rfl)
    · exact hc
    · exact List.mem_map.mpr ⟨i, hi, h.1⟩
  · simp [eq_comm]

theorem mem_addIssues_code {issues found : List ValidationIssue} {code : String} :
    code ∈ (addIssues issues found).map ValidationIssue.code ↔
      code ∈ issues.map ValidationIssue.code ∨ code ∈ found.map ValidationIssue.code := by
  rw [addIssues]
  induction found generalizing issues with
  | nil => simp
  | cons i is ih =>
    rw [List.foldl_cons, ih, mem_addIssue_code, List.map_cons, List.mem_cons]
    tauto

structure AuthContext where
  userId : String
  tenantId : String
  roles : List String := []

structure ConversationTurn where
  question : String
  sql : Option String := none
  referencedTables : List String := []
  metrics : List String := []
  dimensions : List String := []
  filters : List String := []
  dateRange : Option String := none
  assumptions : List String := []

structure ConversationState where
  turns : List ConversationTurn := []

def ConversationState.last (state : ConversationState) : Option ConversationTurn :=
  state.turns.getLast?

/-- A request that has passed the field bounds of its model. -/
structure QueryRequest where
  question : String
  question_length : 1 ≤ question.length ∧ question.length ≤ 2000
  dialect : Option SQLDialect := none
  tenantId : Option String := none
  conversation : Option ConversationState := none
  maxRows : Option Nat := none
  maxRows_bounds : ∀ n ∈ maxRows, 1 ≤ n ∧ n ≤ 100000
  dryRun : Bool := false
  sqlOnly : Bool := false
  explain : Bool := true
  correlationId : Option String := none

theorem QueryRequest.bounds_of_none : ∀ n ∈ (none : Option Nat), 1 ≤ n ∧ n ≤ 100000 := by simp

inductive AmbiguityCategory where
  | metricDefinition | timeRange | entityReference | measureUnspecified | unknownTerm
  deriving DecidableEq

structure ClarificationInterpretation where
  label : String
  description : String

structure Clarification where
  category : AmbiguityCategory
  explanation : String
  interpretations : List ClarificationInterpretation := []
  suggestedQuestion : String
  confidence : ℚ
  confidence_bounds : 0 ≤ confidence ∧ confidence ≤ 1

structure ValidationReport where
  isValid : Bool
  statementType : Option String := none
  referencedTables : List String := []
  referencedColumns : List String := []
  issues : List ValidationIssue := []
  riskLevel : Option RiskLevel := none
  estimatedCost : Option ℚ := none
  appliedRewrites : List String := []

structure ModelMetadata where
  provider : String
  model : String
  promptVersion : String
  promptTokens : Option Nat := none
  completionTokens : Option Nat := none
  repairAttempts : Nat := 0

end TextToSql.Domain
