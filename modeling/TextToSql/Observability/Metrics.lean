import Mathlib.Data.List.Lex
import Mathlib.Data.List.Sort
import Mathlib.Data.Prod.Lex
import Mathlib.Data.String.Basic
import TextToSql.Domain.PyFloat
import TextToSql.Library.Buckets
import TextToSql.Library.Dictionary

namespace TextToSql.Observability

open Domain Library

/-- A bound of a bucket, which may be written as an integer. -/
inductive Bound where
  | int (n : ℤ)
  | float (x : PyFloat)

def Bound.value : Bound → PyFloat
  | .int n => .finite n
  | .float x => x

def Bound.str (fl : Floats) : Bound → String
  | .int n => toString n
  | .float x => fl.str x

def atMost (value : PyFloat) (upper : Bound) : Bool := value.le upper.value

def defaultBucketsMs : List Bound :=
  [.int 1, .int 5, .int 10, .int 25, .int 50, .int 100, .int 250, .int 500, .int 1000, .int 2500,
    .int 5000, .int 10000]

/-- The items of a dictionary of labels, with distinct names. -/
abbrev Labels : Type := List (String × String)

abbrev LabelKey : Type := List (String ×ₗ String)

def labelKey (labels : Labels) : LabelKey := (labels.map toLex).insertionSort (· ≤ ·)

def escapeChar (c : Char) : List Char :=
  if c = '\\' then ['\\', '\\']
  else if c = '"' then ['\\', '"']
  else if c = '\n' then [' ']
  else [c]

def escape (value : String) : String := String.ofList (value.toList.flatMap escapeChar)

def renderLabels (key : LabelKey) (extra : List (String × String)) : String :=
  let items := key.map ofLex ++ extra
  if items = [] then ""
  else
    "\x7b" ++ ",".intercalate (items.map fun item ↦ item.1 ++ "=\"" ++ escape item.2 ++ "\"") ++
      "\x7d"

structure Counter where
  name : String
  help : String
  values : List (LabelKey × PyFloat) := []

namespace Counter

def inc (fl : Floats) (counter : Counter) (amount : PyFloat) (labels : Labels) : Counter :=
  { counter with
    values := Dictionary.upsert (fun value ↦ (value.getD (.finite 0)).add fl amount)
      (labelKey labels) counter.values }

def render (fl : Floats) (counter : Counter) : List String :=
  ["# HELP " ++ counter.name ++ " " ++ counter.help, "# TYPE " ++ counter.name ++ " counter"] ++
    (if counter.values = [] then [counter.name ++ " 0"] else []) ++
    (counter.values.insertionSort (fun a b ↦ a.1 ≤ b.1)).map fun item ↦
      counter.name ++ renderLabels item.1 [] ++ " " ++ fl.str item.2

end Counter

structure Histogram where
  name : String
  help : String
  buckets : List Bound
  bucketCounts : List (LabelKey × List ℕ) := []
  sum : List (LabelKey × PyFloat) := []
  count : List (LabelKey × ℕ) := []

namespace Histogram

variable (fl : Floats)

def emptyCounts (histogram : Histogram) : List ℕ :=
  List.replicate (histogram.buckets.length + 1) 0

def observe (histogram : Histogram) (value : PyFloat) (labels : Labels) : Histogram :=
  let key := labelKey labels
  { histogram with
    bucketCounts := Dictionary.upsert
      (fun counts ↦ Buckets.place atMost histogram.buckets (counts.getD histogram.emptyCounts) value)
      key histogram.bucketCounts
    sum := Dictionary.upsert (fun sum ↦ (sum.getD (.finite 0)).add fl value) key histogram.sum
    count := Dictionary.upsert (fun count ↦ count.getD 0 + 1) key histogram.count }

def bucketLine (histogram : Histogram) (key : LabelKey) (le : String) (cumulative : ℕ) : String :=
  histogram.name ++ "_bucket" ++ renderLabels key [("le", le)] ++ " " ++ toString cumulative

def seriesLines (histogram : Histogram) (key : LabelKey) : List String :=
  let counts := (Dictionary.find key histogram.bucketCounts).getD histogram.emptyCounts
  let totals := Buckets.runningTotals counts 0 0 histogram.buckets
  (totals.1.map fun row ↦ histogram.bucketLine key (row.1.str fl) row.2) ++
    [histogram.bucketLine key "+Inf" (totals.2 + counts.getD (counts.length - 1) 0),
      histogram.name ++ "_sum" ++ renderLabels key [] ++ " " ++
        fl.str ((Dictionary.find key histogram.sum).getD (.finite 0)),
      histogram.name ++ "_count" ++ renderLabels key [] ++ " " ++
        toString ((Dictionary.find key histogram.count).getD 0)]

def header (histogram : Histogram) : List String :=
  ["# HELP " ++ histogram.name ++ " " ++ histogram.help,
    "# TYPE " ++ histogram.name ++ " histogram"]

def renderedKeys (histogram : Histogram) : List LabelKey :=
  let keys := Dictionary.keys histogram.count
  (if keys = [] then [[]] else keys).insertionSort (· ≤ ·)

def render (histogram : Histogram) : List String :=
  histogram.header ++ histogram.renderedKeys.flatMap (histogram.seriesLines fl)

end Histogram

structure MetricsRegistry where
  counters : List (String × Counter) := []
  histograms : List (String × Histogram) := []

namespace MetricsRegistry

def newCounter (name helpText : String) : Counter :=
  { name := name, help := if helpText = "" then name else helpText }

def newHistogram (name helpText : String) (buckets : List Bound) : Histogram :=
  { name := name, help := if helpText = "" then name else helpText, buckets := buckets }

def counter (registry : MetricsRegistry) (name helpText : String) : MetricsRegistry :=
  { registry with
    counters := Dictionary.upsert (·.getD (newCounter name helpText)) name registry.counters }

def histogram (registry : MetricsRegistry) (name helpText : String) (buckets : List Bound) :
    MetricsRegistry :=
  { registry with
    histograms := Dictionary.upsert (·.getD (newHistogram name helpText buckets)) name
      registry.histograms }

variable (fl : Floats)

def inc (registry : MetricsRegistry) (name : String) (amount : PyFloat) (labels : Labels) :
    MetricsRegistry :=
  { registry with
    counters := Dictionary.upsert
      (fun counter ↦ (counter.getD (newCounter name "")).inc fl amount labels)
      name registry.counters }

def observe (registry : MetricsRegistry) (name : String) (value : PyFloat) (labels : Labels) :
    MetricsRegistry :=
  { registry with
    histograms := Dictionary.upsert
      (fun histogram ↦
        (histogram.getD (newHistogram name "" defaultBucketsMs)).observe fl value labels)
      name registry.histograms }

def lines (registry : MetricsRegistry) : List String :=
  registry.counters.flatMap (fun entry ↦ entry.2.render fl) ++
    registry.histograms.flatMap fun entry ↦ entry.2.render fl

def render (registry : MetricsRegistry) : String := "\n".intercalate (registry.lines fl) ++ "\n"

end MetricsRegistry

end TextToSql.Observability
