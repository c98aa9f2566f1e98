import TextToSql.Retrieval.Result
import TextToSql.Retrieval.ShortestPath
import TextToSql.Semantic.Models

namespace TextToSql.Retrieval

open Domain Library

def stopwords : List String :=
  ["the", "a", "an", "of", "by", "for", "to", "in", "on", "and", "or", "with", "show", "list",
    "get", "give", "me", "our", "what", "which", "how", "many", "much", "was", "were", "is", "are",
    "that", "this", "over", "per", "each", "all", "top", "last", "past", "year", "month", "quarter",
    "week", "day", "days", "compare", "between", "from", "have", "has", "not", "who", "their",
    "them", "did", "do", "does", "count", "number"]

def isTokenChar (c : Char) : Bool := ('a' ≤ c && c ≤ 'z') || ('0' ≤ c && c ≤ '9')

def tokensOf (tok : List Char) : List String :=
  if tok = [] ∨ String.ofList tok ∈ stopwords ∨ tok.length < 3 then []
  else if tok.getLast? = some 's' ∧ tok.length > 3 then
    [String.ofList tok, String.ofList tok.dropLast]
  else [String.ofList tok]

def tokenize (py : Python) (text : String) : List String :=
  (((py.lower text).toList.splitOnP fun c ↦ !isTokenChar c).flatMap tokensOf).dedup

def common (s t : List String) : List String := s.filter (· ∈ t)

/-- One call of `add`. -/
structure Signal where
  tableKey : String
  amount : ℚ
  reason : String

section Signals

variable (py : Python) (schema : DatabaseSchema)

def nameSignal (tokens : List String) (table : TableInfo) : List Signal :=
  let shared := common tokens (tokenize py table.name)
  if shared = [] then []
  else [⟨table.key py, 5,
    "table name matches '" ++ ", ".intercalate (sortedEnumeration py shared) ++ "'"⟩]

def columnSignal (tokens : List String) (table : TableInfo) : List Signal :=
  let hits := ((table.columns.filter fun col ↦ common (tokenize py col.name) tokens ≠ []).map
    ColumnInfo.name).dedup
  if hits = [] then []
  else [⟨table.key py, 2 * (min hits.length 3 : ℕ),
    "columns match: " ++ ", ".intercalate (sortedEnumeration py hits)⟩]

def commentSignal (tokens : List String) (table : TableInfo) : List Signal :=
  match table.comment with
  | none => []
  | some comment =>
    if comment ≠ "" ∧ common (tokenize py comment) tokens ≠ [] then
      [⟨table.key py, 1, "description matches question terms"⟩]
    else []

def lexicalSignals (tokens : List String) (table : TableInfo) : List Signal :=
  nameSignal py tokens table ++ columnSignal py tokens table ++ commentSignal py tokens table

def tableSignals (amount : ℚ) (reason : String) (names : List String) : List Signal :=
  names.flatMap fun name ↦
    match schema.table py name with
    | none => []
    | some t => [⟨t.key py, amount, reason⟩]

def termSignals (term : Semantic.BusinessTerm) : List Signal :=
  tableSignals py schema 4 ("glossary term '" ++ term.term ++ "'") term.relatedTables

def metricSignals (metric : Semantic.MetricDefinition) : List Signal :=
  tableSignals py schema 4 ("metric '" ++ metric.name ++ "' requires this table")
    metric.requiredTables

end Signals

def scoresOf (signals : List Signal) (scores : List (String × ℚ)) : List (String × ℚ) :=
  Dictionary.collect (· + ·) 0 (signals.map fun s ↦ (s.tableKey, s.amount)) scores

def reasonsOf (signals : List Signal) (reasons : List (String × List String)) :
    List (String × List String) :=
  Dictionary.collect (fun found reason ↦ found ++ [reason]) []
    (signals.map fun s ↦ (s.tableKey, s.reason)) reasons

def ranks (a b : String × ℚ) : Prop := toLex (-a.2, a.1) ≤ toLex (-b.2, b.1)

instance : DecidableRel ranks := fun _ _ ↦ inferInstanceAs (Decidable (_ ≤ _))

def precedes (a b : RetrievedObject) : Prop := toLex (-a.score, a.table) ≤ toLex (-b.score, b.table)

instance : DecidableRel precedes := fun _ _ ↦ inferInstanceAs (Decidable (_ ≤ _))

def sliceTo {α : Type} (l : List α) (k : ℤ) : List α :=
  if 0 ≤ k then l.take k.toNat else l.take (l.length - (-k).toNat)

def round3 (x : ℚ) : ℚ := round (x * 1000) / 1000

def pairs : List String → List (String × String)
  | [] => []
  | src :: rest => rest.map (src, ·) ++ pairs rest

def qualified (py : Python) (schema : DatabaseSchema) (key : String) : String :=
  match schema.table py key with
  | some table => table.qualifiedName
  | none => key

def addBridges (py : Python) (schema : DatabaseSchema) (seeds : List String) : List String :=
  let graph := schema.joinGraph py
  ((seeds ++ (pairs seeds).flatMap fun p ↦ shortestPath py graph p.1 p.2).dedup).filter (· ∉ seeds)

structure LexicalSchemaRetriever where
  semantic : Semantic.SemanticLayer
  topK : ℤ := 12

namespace LexicalSchemaRetriever

variable (py : Python) (retriever : LexicalSchemaRetriever) (question : String)
  (schema : DatabaseSchema)

def signals : List Signal :=
  schema.tables.flatMap (lexicalSignals py (tokenize py question)) ++
    (retriever.semantic.findSurfaceForms py question).flatMap (termSignals py schema) ++
    (retriever.semantic.findMetrics py question).flatMap (metricSignals py schema)

def ranked : List (String × ℚ) :=
  (scoresOf (retriever.signals py question schema) []).insertionSort ranks

def strongSeeds : List String :=
  (sliceTo (retriever.ranked py question schema) retriever.topK).map Prod.fst

def fallback : List String :=
  sliceTo ((schema.tables.map (TableInfo.key py)).insertionSort (· ≤ ·)) retriever.topK

def seeds : List String :=
  if retriever.strongSeeds py question schema = [] then retriever.fallback py schema
  else retriever.strongSeeds py question schema

def fallbackSignals : List Signal :=
  if retriever.strongSeeds py question schema = [] then
    (retriever.fallback py schema).map
      (⟨·, 1 / 10, "fallback: no strong signal, included by default"⟩)
  else []

def bridges : List String := addBridges py schema (retriever.seeds py question schema)

def seedSignals : List Signal :=
  retriever.signals py question schema ++ retriever.fallbackSignals py question schema

/-- The calls of `add` for the bridges, in the order in which their set is enumerated. -/
def bridgeSignals : List Signal :=
  let scores := scoresOf (retriever.seedSignals py question schema) []
  ((py.enumerate (retriever.bridges py question schema)).filter fun key ↦
    (scores.lookup key).isNone).map
      (⟨·, 1 / 2, "join bridge required to connect selected tables"⟩)

def allSignals : List Signal :=
  retriever.seedSignals py question schema ++ retriever.bridgeSignals py question schema

def selectedKeys : List String :=
  (retriever.seeds py question schema ++
    py.enumerate (retriever.bridges py question schema)).eraseDups

def object (key : String) : RetrievedObject where
  table := qualified py schema key
  score := round3 (((scoresOf (retriever.allSignals py question schema) []).lookup key).getD (1 / 2))
  reason := "; ".intercalate
    (((reasonsOf (retriever.allSignals py question schema) []).lookup key).getD ["included"])

def retrieve : RetrievalResult where
  selected := ((retriever.selectedKeys py question schema).map
    (retriever.object py question schema)).insertionSort precedes
  schemaSubset := schema.subset py
    ((retriever.selectedKeys py question schema).map (qualified py schema))

end LexicalSchemaRetriever

end TextToSql.Retrieval
