import TextToSql.Library.NamedSearch
import TextToSql.Semantic.Dates
import TextToSql.Semantic.Models

namespace TextToSql.Semantic

open Domain Library.NamedSearch

def OccursBetween (p : Char → Bool) (form text : List Char) : Prop :=
  ∃ before after, text = before ++ (form ++ after) ∧ (∀ c ∈ before.getLast?, p c = true) ∧
    ∀ c ∈ after.head?, p c = true

instance {p : Char → Bool} {form text : List Char} : Decidable (OccursBetween p form text) :=
  decidable_of_iff (∃ n ∈ List.range (text.length + 1), form <+: text.drop n ∧
      (∀ c ∈ (text.take n).getLast?, p c = true) ∧
      ∀ c ∈ (text.drop (n + form.length)).head?, p c = true) <| by
    constructor
    · rintro ⟨n, -, ⟨after, hafter⟩, hfront, hback⟩
      refine ⟨text.take n, after, ?_, hfront, ?_⟩
      · rw [hafter, List.take_append_drop]
      · rw [← List.drop_drop, ← hafter, List.drop_left] at hback
        exact hback
    · rintro ⟨before, after, rfl, hfront, hback⟩
      refine ⟨before.length, ?_, ?_, ?_, ?_⟩
      · rw [List.mem_range, List.length_append]
        omega
      · rw [List.drop_left]
        exact List.prefix_append form after
      · rw [List.take_left]
        exact hfront
      · rw [← List.drop_drop, List.drop_left, List.drop_left]
        exact hback

theorem OccursBetween.imp {p q : Char → Bool} (hpq : ∀ c, p c = true → q c = true)
    {form text : List Char} (h : OccursBetween p form text) : OccursBetween q form text := by
  obtain ⟨before, after, htext, hbefore, hafter⟩ := h
  exact ⟨before, after, htext, fun c hc ↦ hpq c (hbefore c hc), fun c hc ↦ hpq c (hafter c hc)⟩

theorem hasWord_iff {needle text : String} :
    hasWord needle text = true ↔ needle.toList <:+: text.toList := by
  rw [hasWord, List.any_eq_true, List.infix_iff_prefix_suffix]
  simp only [List.mem_tails, List.isPrefixOf_iff_prefix, and_comm]

theorem padded_infix {form text : List Char} :
    ' ' :: (form ++ [' ']) <:+: ' ' :: (text ++ [' ']) ↔ OccursBetween (· == ' ') form text := by
  have hlast {l : List Char} : (∀ c ∈ l.getLast?, (c == ' ') = true) ↔
      ∃ front, ' ' :: l = front ++ [' '] := by
    cases l using List.reverseRecOn with
    | nil => exact iff_of_true (by simp) ⟨[], rfl⟩
    | append_singleton l x =>
      constructor
      · intro h
        have hx := h x (by simp)
        rw [beq_iff_eq] at hx
        exact ⟨' ' :: l, by rw [hx]; rfl⟩
      · rintro ⟨front, heq⟩
        rw [← List.cons_append] at heq
        have hx := (List.append_inj' heq rfl).2
        simpa using hx
  have hfirst {l : List Char} : (∀ c ∈ l.head?, (c == ' ') = true) ↔
      ∃ back, l ++ [' '] = ' ' :: back := by
    cases l with
    | nil => exact iff_of_true (by simp) ⟨[], rfl⟩
    | cons x l =>
      constructor
      · intro h
        have hx := h x (by simp)
        rw [beq_iff_eq] at hx
        exact ⟨l ++ [' '], by rw [hx]; rfl⟩
      · rintro ⟨back, heq⟩
        have hx := (List.cons.inj heq).1
        simpa using hx
  constructor
  · rintro ⟨front, back, heq⟩
    -- the space before the form is the last one of the part before it, and so behind it
    obtain ⟨before, hbefore⟩ : ∃ before, ' ' :: before = front ++ [' '] := by
      cases front with
      | nil => exact ⟨[], rfl⟩
      | cons x front =>
        rw [List.append_assoc, List.cons_append] at heq
        exact ⟨front ++ [' '], by rw [(List.cons.inj heq).1]; rfl⟩
    obtain ⟨after, hafter⟩ : ∃ after, after ++ [' '] = ' ' :: back := by
      cases back using List.reverseRecOn with
      | nil => exact ⟨[], rfl⟩
      | append_singleton back x =>
        have heq : (front ++ ' ' :: (form ++ [' ']) ++ back) ++ [x] = (' ' :: text) ++ [' '] := by
          simpa using heq
        have hx := (List.append_inj' heq rfl).2
        exact ⟨' ' :: back, by rw [(List.cons.inj hx).1]; rfl⟩
    refine ⟨before, after, ?_, hlast.mpr ⟨front, hbefore⟩, hfirst.mpr ⟨back, hafter⟩⟩
    have heq' : (' ' :: before) ++ (form ++ (after ++ [' '])) = ' ' :: (text ++ [' ']) := by
      rw [hbefore, hafter, ← heq]
      simp
    have heq'' : (before ++ (form ++ after)) ++ [' '] = text ++ [' '] := by
      simpa using heq'
    exact (List.append_cancel_right heq'').symm
  · rintro ⟨before, after, rfl, hbefore, hafter⟩
    obtain ⟨front, hfront⟩ := hlast.mp hbefore
    obtain ⟨back, hback⟩ := hfirst.mp hafter
    refine ⟨front, back, ?_⟩
    calc front ++ ' ' :: (form ++ [' ']) ++ back
        = (front ++ [' ']) ++ (form ++ (' ' :: back)) := by simp
      _ = (' ' :: before) ++ (form ++ (after ++ [' '])) := by rw [hfront, hback]
      _ = ' ' :: (before ++ (form ++ after) ++ [' ']) := by simp

section Search

variable {α : Type} {name : α → String}

def paddedIn (py : Python) (lowered : String) (forms : α → List String) (entry : α) : Bool :=
  (forms entry).any fun form ↦ hasWord (" " ++ py.lower form ++ " ") lowered

theorem findForm_eq (py : Python) (lowered : String) (forms : α → List String) (found : List α)
    (entry : α) : findForm py lowered name forms found entry =
      if paddedIn py lowered forms entry = true ∧ name entry ∉ found.map name then found ++ [entry]
      else found := rfl

theorem foldl_findForm (py : Python) (lowered : String) (forms : α → List String)
    (entries found : List α) :
    entries.foldl (findForm py lowered name forms) found =
      found ++ (findBy name (paddedIn py lowered forms) entries).filter
        fun e ↦ name e ∉ found.map name := by
  induction entries generalizing found with
  | nil => simp [findBy, firstOfEach]
  | cons entry rest ih =>
    rw [List.foldl_cons, ih, findForm_eq]
    by_cases hoccurs : paddedIn py lowered forms entry = true
    · rw [findBy_cons_of_pos hoccurs]
      by_cases hname : name entry ∈ found.map name
      · rw [if_neg (fun h ↦ h.2 hname), filter_names_of_mem hname]
      · rw [if_pos ⟨hoccurs, hname⟩, filter_names_of_not_mem hname, List.append_assoc,
          List.singleton_append, List.map_append, List.map_singleton]
    · rw [findBy_cons_of_neg hoccurs, if_neg (fun h ↦ hoccurs h.1)]

end Search

/-- One of the forms stands in the question as a whole word or phrase. -/
def wholeWordIn {α : Type} (cc : CharClasses) (py : Python) (question : String)
    (forms : α → List String) (entry : α) : Bool :=
  (forms entry).any fun form ↦ decide <|
    OccursBetween (fun c ↦ !cc.isWord c) (py.lower form).toList (py.lower question).toList

/-- Whoever is the first of a name to stand in the question does so between blanks, once at
least. -/
def FirstSpaced {α : Type} (cc : CharClasses) (py : Python) (question : String) (name : α → String)
    (forms : α → List String) (entries : List α) : Prop :=
  ∀ front e back, entries = front ++ e :: back → wholeWordIn cc py question forms e = true →
    (∀ d ∈ front, wholeWordIn cc py question forms d = true → name d ≠ name e) →
    ∃ form ∈ forms e, OccursBetween (· == ' ') (py.lower form).toList (py.lower question).toList

section Search

variable {α : Type} {name : α → String} {forms : α → List String} {cc : CharClasses}
  {py : Python} {question : String}

theorem paddedIn_iff {e : α} :
    paddedIn py (" " ++ py.lower question ++ " ") forms e = true ↔
      ∃ form ∈ forms e,
        OccursBetween (· == ' ') (py.lower form).toList (py.lower question).toList := by
  rw [paddedIn, List.any_eq_true]
  apply exists_congr
  intro form
  rw [hasWord_iff, ← padded_infix]
  simp only [String.toList_append, List.append_assoc]
  rfl

theorem wholeWordIn_of_paddedIn (hspace : cc.isWord ' ' = false) {e : α}
    (h : paddedIn py (" " ++ py.lower question ++ " ") forms e = true) :
    wholeWordIn cc py question forms e = true := by
  obtain ⟨form, hform, hoccurs⟩ := paddedIn_iff.mp h
  rw [wholeWordIn, List.any_eq_true]
  refine ⟨form, hform, decide_eq_true (hoccurs.imp fun c hc ↦ ?_)⟩
  rw [beq_iff_eq] at hc
  rw [hc, hspace]
  rfl

theorem foldl_findForm_nil (lowered : String) (entries : List α) :
    entries.foldl (findForm py lowered name forms) [] =
      findBy name (paddedIn py lowered forms) entries := by
  rw [foldl_findForm]
  simp

theorem foldl_findForm_eq_iff (hspace : cc.isWord ' ' = false) (entries : List α) :
    entries.foldl (findForm py (" " ++ py.lower question ++ " ") name forms) [] =
        findBy name (wholeWordIn cc py question forms) entries ↔
      FirstSpaced cc py question name forms entries := by
  rw [foldl_findForm_nil, findBy_eq_iff fun e ↦ wholeWordIn_of_paddedIn hspace]
  simp only [paddedIn_iff, FirstSpaced]

end Search

namespace SemanticLayer

variable (py : Python) (semantic : SemanticLayer) (question : String)

/-- What is found stands in the order of its definitions, each name once. -/
theorem findMetrics_once : (semantic.findMetrics py question).Sublist semantic.metrics ∧
    ((semantic.findMetrics py question).map MetricDefinition.name).Nodup := by
  rw [findMetrics, foldl_findForm_nil]
  exact ⟨findBy_sublist _ _, nodup_findBy _ _⟩

theorem findSurfaceForms_once :
    (semantic.findSurfaceForms py question).Sublist semantic.terms ∧
      ((semantic.findSurfaceForms py question).map BusinessTerm.term).Nodup := by
  rw [findSurfaceForms, foldl_findForm_nil]
  exact ⟨findBy_sublist _ _, nodup_findBy _ _⟩

/-- Metrics and terms are found by their whole words, once each and in the order of their
definitions. -/
structure FindsWholeWords (cc : CharClasses) : Prop where
  metrics : semantic.findMetrics py question =
    findBy MetricDefinition.name (wholeWordIn cc py question MetricDefinition.allSurfaceForms)
      semantic.metrics
  terms : semantic.findSurfaceForms py question =
    findBy BusinessTerm.term (wholeWordIn cc py question BusinessTerm.allSurfaceForms)
      semantic.terms

theorem findsWholeWords_iff (cc : CharClasses) (hspace : cc.isWord ' ' = false) :
    semantic.FindsWholeWords py question cc ↔
      FirstSpaced cc py question MetricDefinition.name MetricDefinition.allSurfaceForms
          semantic.metrics ∧
        FirstSpaced cc py question BusinessTerm.term BusinessTerm.allSurfaceForms
          semantic.terms := by
  constructor
  · intro h
    exact ⟨(foldl_findForm_eq_iff hspace _).mp h.metrics, (foldl_findForm_eq_iff hspace _).mp h.terms⟩
  · intro ⟨hmetrics, hterms⟩
    exact ⟨(foldl_findForm_eq_iff hspace _).mpr hmetrics, (foldl_findForm_eq_iff hspace _).mpr hterms⟩

def revenue : MetricDefinition where
  name := "revenue"
  sqlExpression := "SUM(o.net_amount)"

def revenueLayer : SemanticLayer where
  metrics := [revenue]

theorem findsWholeWords_plainQuestion :
    revenueLayer.FindsWholeWords .ascii "our revenue by month" .ascii ↔
      FirstSpaced .ascii .ascii "our revenue by month" MetricDefinition.name
          MetricDefinition.allSurfaceForms revenueLayer.metrics ∧
        FirstSpaced .ascii .ascii "our revenue by month" BusinessTerm.term
          BusinessTerm.allSurfaceForms revenueLayer.terms :=
  findsWholeWords_iff .ascii revenueLayer "our revenue by month" .ascii (by decide)

theorem metric_missed :
    ¬revenueLayer.FindsWholeWords .ascii "our revenue?" .ascii := by
  intro h
  have hcode : revenueLayer.findMetrics .ascii "our revenue?" = [] :=
    List.length_eq_zero_iff.mp (by decide +kernel)
  have hword : wholeWordIn .ascii .ascii "our revenue?" MetricDefinition.allSurfaceForms revenue =
      true := by
    rw [wholeWordIn, List.any_eq_true]
    refine ⟨"revenue", List.mem_cons_self, decide_eq_true ⟨"our ".toList, ['?'], ?_, ?_, ?_⟩⟩
    · decide +kernel
    · simp [CharClasses.isWord, CharClasses.ascii]
    · simp [CharClasses.isWord, CharClasses.ascii]
  have hspec := h.metrics
  rw [hcode, revenueLayer, findBy_cons_of_pos hword] at hspec
  exact absurd hspec (List.cons_ne_nil _ _).symm

end SemanticLayer

end TextToSql.Semantic
