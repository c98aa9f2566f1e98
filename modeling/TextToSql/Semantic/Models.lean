import TextToSql.Schema.SemanticLayer

namespace TextToSql.Semantic

open Domain

inductive TermKind where
  | metric | dimension | entity | filter
  deriving DecidableEq

def TermKind.value : TermKind → String
  | .metric => "metric"
  | .dimension => "dimension"
  | .entity => "entity"
  | .filter => "filter"

structure BusinessTerm where
  term : String
  kind : TermKind
  definition : String
  synonyms : List String := []
  relatedTables : List String := []

def BusinessTerm.allSurfaceForms (term : BusinessTerm) : List String := term.term :: term.synonyms

structure MetricDefinition where
  name : String
  sqlExpression : String
  requiredTables : List String := []
  defaultFilters : List String := []
  synonyms : List String := []

def MetricDefinition.allSurfaceForms (metric : MetricDefinition) : List String :=
  metric.name :: metric.synonyms

/-- The semantic layer with its glossary. -/
structure SemanticLayer extends Schema.SemanticLayer where
  terms : List BusinessTerm := []
  metrics : List MetricDefinition := []
  datePolicy : String :=
    "Relative dates use the Gregorian calendar in UTC. 'Last quarter' means " ++
    "the most recently completed calendar quarter; 'last month' the most " ++
    "recently completed calendar month; 'this year' the current calendar " ++
    "year to date."

def findForm {α : Type} (py : Python) (lowered : String) (name : α → String)
    (forms : α → List String) (found : List α) (entry : α) : List α :=
  if ((forms entry).any fun form ↦ hasWord (" " ++ py.lower form ++ " ") lowered) ∧
      name entry ∉ found.map name then
    found ++ [entry]
  else found

namespace SemanticLayer

variable (py : Python) (semantic : SemanticLayer)

def findSurfaceForms (question : String) : List BusinessTerm :=
  let lowered := " " ++ py.lower question ++ " "
  semantic.terms.foldl (findForm py lowered BusinessTerm.term BusinessTerm.allSurfaceForms) []

def findMetrics (question : String) : List MetricDefinition :=
  let lowered := " " ++ py.lower question ++ " "
  semantic.metrics.foldl (findForm py lowered MetricDefinition.name
    MetricDefinition.allSurfaceForms) []

end SemanticLayer

end TextToSql.Semantic
