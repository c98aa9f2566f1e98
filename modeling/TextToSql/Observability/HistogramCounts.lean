import TextToSql.Observability.Metrics

namespace TextToSql.Observability

open Domain Library

theorem labelKey_perm (labels : Labels) : (labelKey labels).Perm (labels.map toLex) :=
  List.perm_insertionSort _ _

theorem pairwise_labelKey (labels : Labels) : (labelKey labels).Pairwise (· ≤ ·) :=
  List.pairwise_insertionSort _ _

theorem sorted_eq_of_perm {α : Type} [LinearOrder α] {l l' : List α} (h : l.Perm l')
    (hl : l.Pairwise (· ≤ ·)) (hl' : l'.Pairwise (· ≤ ·)) : l = l' :=
  h.eq_of_pairwise (fun _ _ _ _ hab hba ↦ le_antisymm hab hba) hl hl'

theorem pairwise_sorted_of_nodup {α : Type} [LinearOrder α] {l : List α} (h : l.Nodup) :
    (l.insertionSort (· ≤ ·)).Pairwise (· < ·) := by
  have hnodup := (List.perm_insertionSort (· ≤ ·) l).nodup_iff.mpr h
  exact (List.pairwise_insertionSort (· ≤ ·) l).imp₂ (fun _ _ ↦ lt_of_le_of_ne) hnodup

def LabelKey.labels (key : LabelKey) : Labels := key.map ofLex

theorem LabelKey.labels_labelKey (labels : Labels) :
    (LabelKey.labels (labelKey labels)).Perm labels := by
  have h := (labelKey_perm labels).map ofLex
  have hmap : (labels.map toLex).map ofLex = labels := by
    rw [List.map_map]
    exact List.map_id labels
  rwa [hmap] at h

theorem labelKey_eq_iff {labels labels' : Labels} :
    labelKey labels = labelKey labels' ↔ labels.Perm labels' := by
  constructor
  · intro h
    have hperm := LabelKey.labels_labelKey labels'
    rw [← h] at hperm
    exact (LabelKey.labels_labelKey labels).symm.trans hperm
  · intro h
    apply sorted_eq_of_perm _ (pairwise_labelKey _) (pairwise_labelKey _)
    exact ((labelKey_perm labels).trans (h.map toLex)).trans (labelKey_perm labels').symm

abbrev Observation : Type := PyFloat × Labels

/-- The values observed with a label set, in whatever order its labels were given. -/
def observedWith (labels : Labels) (observations : List Observation) : List PyFloat :=
  (observations.filter fun o ↦ decide (o.2.Perm labels)).map Prod.fst

def keyed (observations : List Observation) : List (LabelKey × PyFloat) :=
  observations.map fun o ↦ (labelKey o.2, o.1)

theorem valuesOf_keyed (labels : Labels) (observations : List Observation) :
    Dictionary.valuesOf (labelKey labels) (keyed observations) =
      observedWith labels observations := by
  rw [Dictionary.valuesOf, keyed, List.filter_map, List.map_map, observedWith]
  have hfilter : (fun o : Observation ↦ decide (labelKey o.2 = labelKey labels)) =
      fun o ↦ decide (o.2.Perm labels) := by
    funext o
    exact decide_eq_decide.mpr labelKey_eq_iff
  exact congrArg (fun p ↦ (observations.filter p).map Prod.fst) hfilter

namespace Histogram

variable (fl : Floats)

def observeAll (histogram : Histogram) (observations : List Observation) : Histogram :=
  observations.foldl (fun histogram o ↦ histogram.observe fl o.1 o.2) histogram

theorem observeAll_eq (histogram : Histogram) (observations : List Observation) :
    histogram.observeAll fl observations =
      { histogram with
        bucketCounts := Dictionary.collect (Buckets.place atMost histogram.buckets)
          histogram.emptyCounts (keyed observations) histogram.bucketCounts
        sum := Dictionary.collect (PyFloat.add fl) (.finite 0) (keyed observations) histogram.sum
        count := Dictionary.collect (fun count _ ↦ count + 1) 0 (keyed observations)
          histogram.count } := by
  induction observations generalizing histogram with
  | nil => rfl
  | cons o observations ih =>
    rw [observeAll, List.foldl_cons, ← observeAll, ih]
    rfl

def exactLines (histogram : Histogram) (key : LabelKey) (values : List PyFloat) : List String :=
  (histogram.buckets.map fun upper ↦
      histogram.bucketLine key (upper.str fl) (values.countP (atMost · upper))) ++
    [histogram.bucketLine key "+Inf" values.length,
      histogram.name ++ "_sum" ++ renderLabels key [] ++ " " ++
        fl.str (values.foldl (PyFloat.add fl) (.finite 0)),
      histogram.name ++ "_count" ++ renderLabels key [] ++ " " ++ toString values.length]

def Increasing (histogram : Histogram) : Prop :=
  histogram.buckets.Pairwise fun u v ↦ u.value.lt v.value = true

/-- What is rendered is what these observations come to. -/
structure Exposes (histogram : Histogram) (observations : List Observation) : Prop where
  lines : histogram.render fl = histogram.header ++ histogram.renderedKeys.flatMap fun key ↦
    histogram.exactLines fl key (observedWith (LabelKey.labels key) observations)
  keys_sorted : histogram.renderedKeys.Pairwise (· < ·)
  mem_keys : observations ≠ [] → ∀ labels,
    labelKey labels ∈ histogram.renderedKeys ↔ ∃ o ∈ observations, o.2.Perm labels
  monotone : ∀ labels, histogram.buckets.Pairwise fun u v ↦
    (observedWith labels observations).countP (atMost · u) ≤
      (observedWith labels observations).countP (atMost · v)

section Exact

variable {fl : Floats}

def IsNew (histogram : Histogram) : Prop :=
  histogram.bucketCounts = [] ∧ histogram.sum = [] ∧ histogram.count = []

theorem find_collect {β : Type} (g : β → PyFloat → β) (e : β)
    (observations : List Observation) (labels : Labels) :
    (Dictionary.find (labelKey labels) (Dictionary.collect g e (keyed observations) [])).getD e =
      (observedWith labels observations).foldl g e := by
  rw [Dictionary.find, Dictionary.lookup_collect, valuesOf_keyed]
  split
  · rename_i hnil
    rw [hnil]
    rfl
  · rfl

theorem foldl_count (values : List PyFloat) (n : ℕ) :
    values.foldl (fun count _ ↦ count + 1) n = n + values.length := by
  induction values generalizing n with
  | nil => rfl
  | cons value values ih => rw [List.foldl_cons, ih, List.length_cons, Nat.add_assoc, Nat.add_comm 1]

theorem Increasing.growing {histogram : Histogram} (h : histogram.Increasing) :
    Buckets.Growing atMost histogram.buckets := by
  refine h.imp fun {u v} huv value hvalue ↦ ?_
  rw [PyFloat.lt, Bool.and_eq_true] at huv
  exact PyFloat.le_trans hvalue huv.1

theorem seriesLines_observeAll {histogram : Histogram} (hnew : histogram.IsNew)
    (hincreasing : histogram.Increasing) (observations : List Observation) (labels : Labels) :
    (histogram.observeAll fl observations).seriesLines fl (labelKey labels) =
      (histogram.observeAll fl observations).exactLines fl (labelKey labels)
        (observedWith labels observations) := by
  obtain ⟨hcounts, hsum, hcount⟩ := hnew
  rw [observeAll_eq, hcounts, hsum, hcount, seriesLines, exactLines]
  have htotals := Buckets.runningTotals_foldl_place hincreasing.growing
    (observedWith labels observations)
  simp only [emptyCounts, find_collect, htotals.1, htotals.2, List.map_map, foldl_count,
    Nat.zero_add]
  rfl

theorem observedWith_perm {labels labels' : Labels} (h : labels.Perm labels')
    (observations : List Observation) :
    observedWith labels observations = observedWith labels' observations := by
  rw [← valuesOf_keyed, ← valuesOf_keyed, labelKey_eq_iff.mpr h]

theorem mem_renderedKeys {histogram : Histogram} (hnew : histogram.IsNew)
    {observations : List Observation} {key : LabelKey} :
    key ∈ (histogram.observeAll fl observations).renderedKeys ↔
      (∃ o ∈ observations, labelKey o.2 = key) ∨ observations = [] ∧ key = [] := by
  rw [observeAll_eq, hnew.2.2, renderedKeys, (List.perm_insertionSort _ _).mem_iff]
  cases observations with
  | nil => simp [keyed, Dictionary.collect, Dictionary.keys]
  | cons o observations =>
    have hmem (k : LabelKey) : k ∈ Dictionary.keys (Dictionary.collect
        (fun count _ ↦ count + 1) 0 (keyed (o :: observations)) []) ↔
          ∃ o' ∈ o :: observations, labelKey o'.2 = k := by
      rw [Dictionary.mem_keys_collect, keyed, List.map_map, List.mem_map]
      rfl
    have hne : Dictionary.keys (Dictionary.collect (fun count (_ : PyFloat) ↦ count + 1) 0
        (keyed (o :: observations)) []) ≠ [] :=
      List.ne_nil_of_mem ((hmem (labelKey o.2)).mpr ⟨o, List.mem_cons_self, rfl⟩)
    rw [if_neg hne, hmem]
    simp

theorem pairwise_renderedKeys {histogram : Histogram} (hnew : histogram.IsNew)
    (observations : List Observation) :
    (histogram.observeAll fl observations).renderedKeys.Pairwise (· < ·) := by
  rw [observeAll_eq, hnew.2.2]
  apply pairwise_sorted_of_nodup
  split
  · exact List.nodup_singleton _
  · exact Dictionary.nodup_keys_collect (fun count (_ : PyFloat) ↦ count + 1) 0
      (keyed observations)

theorem observeAll_exposes {histogram : Histogram} (hnew : histogram.IsNew)
    (hincreasing : histogram.Increasing) (observations : List Observation) :
    (histogram.observeAll fl observations).Exposes fl observations where
  lines := by
    rw [render]
    congr 1
    apply List.flatMap_congr
    intro key hkey
    obtain ⟨labels, rfl⟩ : ∃ labels, labelKey labels = key := by
      rcases (mem_renderedKeys hnew).mp hkey with ⟨o, -, rfl⟩ | ⟨-, rfl⟩
      · exact ⟨o.2, rfl⟩
      · exact ⟨[], rfl⟩
    rw [seriesLines_observeAll hnew hincreasing,
      observedWith_perm (LabelKey.labels_labelKey labels)]
  keys_sorted := pairwise_renderedKeys hnew observations
  mem_keys hne labels := by
    rw [mem_renderedKeys hnew]
    simp [hne, labelKey_eq_iff]
  monotone labels := by
    rw [observeAll_eq]
    exact hincreasing.growing.imp fun huv ↦ Buckets.countP_mono huv _

end Exact

end Histogram

inductive Call where
  | counter (name helpText : String)
  | histogram (name helpText : String) (buckets : List Bound)
  | inc (name : String) (amount : PyFloat) (labels : Labels)
  | observe (name : String) (value : PyFloat) (labels : Labels)

namespace MetricsRegistry

variable (fl : Floats)

def call (registry : MetricsRegistry) : Call → MetricsRegistry
  | .counter name helpText => registry.counter name helpText
  | .histogram name helpText buckets => registry.histogram name helpText buckets
  | .inc name amount labels => registry.inc fl name amount labels
  | .observe name value labels => registry.observe fl name value labels

def run (calls : List Call) : MetricsRegistry := calls.foldl (call fl) {}

end MetricsRegistry

def Call.observation (name : String) : Call → Option Observation
  | .observe name' value labels => if name' = name then some (value, labels) else none
  | _ => none

def observationsOf (name : String) (calls : List Call) : List Observation :=
  calls.filterMap (Call.observation name)

namespace MetricsRegistry

variable {fl : Floats}

def Tracks (fl : Floats) (name : String) (observations : List Observation) :
    Option Histogram → Prop
  | none => observations = []
  | some histogram => ∃ helpText buckets, histogram =
    (newHistogram name helpText buckets).observeAll fl observations

theorem Tracks.call {registry : MetricsRegistry} {name : String} {observations : List Observation}
    (h : Tracks fl name observations (registry.histograms.lookup name)) (c : Call) :
    Tracks fl name (observations ++ (c.observation name).toList)
      ((registry.call fl c).histograms.lookup name) := by
  cases c with
  | counter name' helpText => exact (List.append_nil observations).symm ▸ h
  | inc name' amount labels => exact (List.append_nil observations).symm ▸ h
  | histogram name' helpText buckets =>
    change Tracks fl name (observations ++ [])
      ((registry.histogram name' helpText buckets).histograms.lookup name)
    rw [List.append_nil, MetricsRegistry.histogram, Dictionary.lookup_upsert]
    split
    · rename_i hname
      subst hname
      cases hlookup : registry.histograms.lookup name with
      | none =>
        rw [hlookup] at h
        exact ⟨helpText, buckets, by rw [show observations = [] from h]; rfl⟩
      | some histogram =>
        rw [hlookup] at h
        exact h
    · exact h
  | observe name' value labels =>
    rw [MetricsRegistry.call, MetricsRegistry.observe, Dictionary.lookup_upsert]
    by_cases hname : name' = name
    · subst hname
      rw [if_pos rfl, Call.observation, if_pos rfl, Option.toList_some]
      cases hlookup : registry.histograms.lookup name' with
      | none =>
        rw [hlookup] at h
        exact ⟨"", defaultBucketsMs, by rw [show observations = [] from h]; rfl⟩
      | some histogram =>
        rw [hlookup] at h
        obtain ⟨helpText, buckets, rfl⟩ := h
        exact ⟨helpText, buckets, by simp [Histogram.observeAll]⟩
    · rw [if_neg (Ne.symm hname), Call.observation, if_neg hname, Option.toList_none,
        List.append_nil]
      exact h

theorem run_tracks (name : String) (calls : List Call) :
    Tracks fl name (observationsOf name calls) ((run fl calls).histograms.lookup name) := by
  induction calls using List.reverseRecOn with
  | nil => rfl
  | append_singleton calls c ih =>
    have hcalls : observationsOf name (calls ++ [c]) =
        observationsOf name calls ++ (c.observation name).toList := by
      rw [observationsOf, List.filterMap_append, observationsOf]
      cases hc : c.observation name with
      | none => simp [hc]
      | some o => simp [hc]
    rw [run, List.foldl_append, hcalls]
    exact ih.call c

/-- After any calls, a histogram whose bounds increase exposes all that it was let observe. -/
theorem run_exposes (fl : Floats) (calls : List Call) (name : String) (histogram : Histogram)
    (hlookup : (run fl calls).histograms.lookup name = some histogram)
    (hincreasing : histogram.Increasing) :
    histogram.Exposes fl (observationsOf name calls) ∧
      histogram.render fl <:+: (run fl calls).lines fl ∧
        ∀ labels labels' : Labels, labelKey labels = labelKey labels' ↔ labels.Perm labels' := by
  have htracks := @run_tracks fl name calls
  rw [hlookup] at htracks
  obtain ⟨helpText, buckets, heq⟩ := htracks
  have hbuckets : (newHistogram name helpText buckets).Increasing := by
    rw [heq, Histogram.observeAll_eq] at hincreasing
    exact hincreasing
  refine ⟨?_, ?_, fun labels labels' ↦ labelKey_eq_iff⟩
  · rw [heq]
    exact Histogram.observeAll_exposes ⟨rfl, rfl, rfl⟩ hbuckets _
  · obtain ⟨front, back, hmem, -⟩ := List.lookup_eq_some_iff.mp hlookup
    rw [lines, hmem, List.flatMap_append, List.flatMap_cons]
    refine ⟨(run fl calls).counters.flatMap (fun entry ↦ entry.2.render fl) ++
      front.flatMap (fun entry ↦ entry.2.render fl),
      back.flatMap (fun entry ↦ entry.2.render fl), ?_⟩
    simp only [List.append_assoc]

def wholeFloats : Floats where
  round := binary64
  str
    | .nan => "nan"
    | .negInf => "-inf"
    | .posInf => "inf"
    | .finite q => toString q.num ++ ".0"

def latencyCalls : List Call :=
  [.histogram "latency_ms" "" [.int 1, .int 50],
    .observe "latency_ms" (.finite 2) [("stage", "gen"), ("mode", "preview")],
    .inc "requests_total" (.finite 1) [],
    .observe "latency_ms" (.finite 50) [("mode", "preview"), ("stage", "gen")]]

theorem run_exposes_latency : ∃ histogram,
    (run wholeFloats latencyCalls).histograms.lookup "latency_ms" = some histogram ∧
      histogram.Exposes wholeFloats (observationsOf "latency_ms" latencyCalls) := by
  refine ⟨(newHistogram "latency_ms" "" [.int 1, .int 50]).observeAll wholeFloats
    (observationsOf "latency_ms" latencyCalls), rfl, ?_⟩
  refine (run_exposes wholeFloats latencyCalls "latency_ms" _ rfl ?_).1
  change List.Pairwise _ [Bound.int 1, Bound.int 50]
  simp [PyFloat.lt, PyFloat.le, Bound.value]

/-- Each series of finite values has their sum. -/
def SumsExactly (histogram : Histogram) (observations : List Observation) : Prop :=
  ∀ labels (values : List ℚ), observedWith labels observations = values.map PyFloat.finite →
    (Dictionary.find (labelKey labels) histogram.sum).getD (.finite 0) = .finite values.sum

def wideValues : List Observation := [(.finite (2 ^ 53), []), (.finite 1, [])]

theorem sum_rounded : ¬SumsExactly ((newHistogram "latency_ms" "" defaultBucketsMs).observeAll
    wholeFloats wideValues) wideValues := by
  intro h
  have hsum := h [] [2 ^ 53, 1] rfl
  revert hsum
  decide +kernel

end MetricsRegistry

end TextToSql.Observability
