import TextToSql.Application.PromptAssembly
import TextToSql.Infrastructure.ReferenceSchema
import TextToSql.Semantic.CalendarTiling
import TextToSql.Semantic.FirstPhrase

namespace TextToSql.Application

open Domain Infrastructure Llm Semantic Library.Calendar Library.Calendar.Moment Library.Backtracking
  Library.Backtracking.Matcher

theorem int_lt (cc : CharClasses) (digits : List Char) : cc.int digits < 10 ^ digits.length := by
  induction digits using List.reverseRecOn with
  | nil => simp [CharClasses.int]
  | append_singleton digits c ih =>
    have hdigit : (cc.decimal c).getD 0 < 10 := by
      cases hc : cc.decimal c with
      | none => decide
      | some n => exact cc.decimal_lt c n hc
    rw [CharClasses.int, List.foldl_append, List.foldl_cons, List.foldl_nil, List.length_append,
      List.length_singleton, pow_succ]
    rw [CharClasses.int] at ih
    omega

theorem length_group {cc : CharClasses} {c : Cursor Char} {r : List Char × Cursor Char}
    (h : r ∈ cc.pattern .lastNDays c) : r.1.length ≤ 4 := by
  rw [CharClasses.pattern, CharClasses.bounded, mem_seq] at h
  obtain ⟨_, d, -, h⟩ := h
  obtain ⟨group, e, hgroup, h⟩ := mem_seq.mp h
  obtain ⟨_, f, -, h⟩ := mem_seq.mp h
  obtain ⟨rfl, -⟩ := mem_done.mp h
  obtain ⟨_, _, -, hgroup⟩ := mem_seq.mp hgroup
  obtain ⟨_, _, -, hgroup⟩ := mem_seq.mp hgroup
  obtain ⟨digits, _, hdigits, hgroup⟩ := mem_seq.mp hgroup
  obtain ⟨_, _, -, hgroup⟩ := mem_seq.mp hgroup
  obtain ⟨_, _, -, hgroup⟩ := mem_seq.mp hgroup
  obtain ⟨_, _, -, hgroup⟩ := mem_seq.mp hgroup
  obtain ⟨rfl, -⟩ := mem_done.mp hgroup
  exact (mem_oneUpTo.mp hdigits).2.1

def juneNoon (year : ℤ) (h : 1 ≤ year ∧ year ≤ 9999) : Datetime :=
  ⟨⟨⟨year, 6, 15, by omega, by
    rw [daysInMonth]
    simp⟩, dayMicros / 2, by decide⟩, h⟩

def clock : Datetime := juneNoon 5000 (by decide)

def laterClock : Datetime := juneNoon 6000 (by decide)

theorem end_differs (phrase : Phrase) : phrase.end clock ≠ phrase.end laterClock := by
  intro h
  cases phrase with
  | lastNDays | thisQuarter | thisMonth | thisYear => exact absurd h (by decide)
  | lastQuarter | lastMonth | lastYear =>
    have hindex := congrArg (fun t : Moment ↦ t.date.monthIndex) h
    simp only [Phrase.end, monthFirst, midnight, Date.monthIndex_ofMonth] at hindex
    exact absurd hindex (by decide)
  | lastWeek | yesterday | today =>
    have hordinal := congrArg (fun t : Moment ↦ t.date.toOrdinal) h
    simp only [Phrase.end, dayFirst, midnight, Date.toOrdinal_ofOrdinal] at hordinal
    exact absurd hordinal (by decide)

theorem inRange_of_late {now : Datetime} (h : 10000 ≤ now.ordinal) (hyear : 2 ≤ now.year)
    (hyear' : now.year ≤ 9998) {phrase : Phrase} {days : ℕ}
    (hdays : phrase = .lastNDays → days < 10000) :
    InRange (phrase.start now days) ∧ InRange (phrase.end now) := by
  by_cases hphrase : phrase = .lastNDays
  · have hlt := hdays hphrase
    subst hphrase
    refine ⟨?_, now.2⟩
    have hlast := now.ordinal_range
    have hstart : (Phrase.start now days .lastNDays).date.toOrdinal = now.ordinal - days :=
      Date.toOrdinal_prev_iterate _ _
    rw [inRange_iff_ordinal, hstart]
    omega
  · have hfixed : phrase.start now days = phrase.start now 0 := by
      cases phrase <;> first | rfl | exact absurd rfl hphrase
    rw [hfixed]
    exact inRange_bounds hyear hyear' hphrase

theorem days_lt {py : Python} {cc : CharClasses} {question : String} {phrase : Phrase}
    {m : Cursor Char × List Char × Cursor Char}
    (h : chosen py cc question = some (phrase, m)) (hphrase : phrase = .lastNDays) :
    cc.int m.2.1 < 10000 := by
  subst hphrase
  obtain ⟨-, hhead, -⟩ := search_eq_some (firstOf_eq_some_iff.mp h).2.1
  have hlength := length_group (List.mem_of_mem_head? hhead)
  exact (int_lt cc m.2.1).trans_le (Nat.pow_le_pow_right (by decide) hlength)

section

variable (assembly : Assembly) (cc : CharClasses) (request : QueryRequest) (dialect : SQLDialect)
  (maxRows : Nat) (schema : DatabaseSchema)

def promptFor (r : ResolvedDateRange) : PromptPayload :=
  ({ assembly with resolvedDate := some (toResolvedDate r) }.context request dialect maxRows
    schema).prompt

/-- The user message contains both bounds of every window, and different windows give different
prompts. -/
def BoundsReach : Prop :=
  (∀ now r, resolveRelativeDate assembly.py cc request.question now = .ok (some r) →
    (isoformat r.start).toList <:+: (promptFor assembly request dialect maxRows schema r).user.toList ∧
    (isoformat r.end).toList <:+: (promptFor assembly request dialect maxRows schema r).user.toList) ∧
  ∀ now now' r r', resolveRelativeDate assembly.py cc request.question now = .ok (some r) →
    resolveRelativeDate assembly.py cc request.question now' = .ok (some r') →
    (r.start, r.end) ≠ (r'.start, r'.end) →
    promptFor assembly request dialect maxRows schema r ≠
      promptFor assembly request dialect maxRows schema r'

variable {assembly cc request dialect maxRows schema}

theorem promptFor_congr {r r' : ResolvedDateRange} (h : r.description = r'.description) :
    promptFor assembly request dialect maxRows schema r =
      promptFor assembly request dialect maxRows schema r' := by
  simp only [promptFor, Assembly.context, Assembly.promptContext, toResolvedDate, Option.map_some, h]

theorem resolved_at {now : Datetime} {phrase : Phrase} {m : Cursor Char × List Char × Cursor Char}
    (h : chosen assembly.py cc request.question = some (phrase, m))
    (hordinal : 10000 ≤ now.ordinal) (hyear : 2 ≤ now.year) (hyear' : now.year ≤ 9998) :
    ∃ r, resolveRelativeDate assembly.py cc request.question now = .ok (some r) ∧
      r.description = phrase.description (cc.int m.2.1) ∧ r.end.1 = phrase.end now := by
  have hrange := inRange_of_late hordinal hyear hyear' (days_lt h)
  rw [resolveRelativeDate_of_some h, Phrase.resolved, Phrase.range_eq, window, dif_pos hrange]
  exact ⟨_, rfl, rfl, rfl⟩

theorem same_prompt {phrase : Phrase} {m : Cursor Char × List Char × Cursor Char}
    (h : chosen assembly.py cc request.question = some (phrase, m)) :
    ∃ r r', resolveRelativeDate assembly.py cc request.question clock = .ok (some r) ∧
      resolveRelativeDate assembly.py cc request.question laterClock = .ok (some r') ∧
      (r.start, r.end) ≠ (r'.start, r'.end) ∧
      promptFor assembly request dialect maxRows schema r =
        promptFor assembly request dialect maxRows schema r' := by
  obtain ⟨r, hr, hdescription, hend⟩ :=
    @resolved_at assembly cc request clock _ _ h (by decide) (by decide) (by decide)
  obtain ⟨r', hr', hdescription', hend'⟩ :=
    @resolved_at assembly cc request laterClock _ _ h (by decide) (by decide) (by decide)
  refine ⟨r, r', hr, hr', ?_, promptFor_congr (hdescription.trans hdescription'.symm)⟩
  intro heq
  apply end_differs phrase
  rw [← hend, ← hend', (Prod.mk.inj heq).2]

/-- The bounds reach the provider exactly when there are none. -/
theorem boundsReach_iff (assembly : Assembly) (cc : CharClasses) (request : QueryRequest)
    (dialect : SQLDialect) (maxRows : Nat) (schema : DatabaseSchema) :
    BoundsReach assembly cc request dialect maxRows schema ↔
      ∀ phrase c, ¬MatchesAt (cc.pattern phrase) (dateText assembly.py request.question) c := by
  constructor
  · intro hreach phrase c hoccurs
    obtain ⟨phrase, m, hchosen⟩ := exists_firstOf ⟨phrase, c, hoccurs⟩
    obtain ⟨r, r', hr, hr', hne, hprompt⟩ := same_prompt hchosen
    exact hreach.2 _ _ r r' hr hr' hne hprompt
  · intro hnone
    have hresolve (now : Datetime) :
        resolveRelativeDate assembly.py cc request.question now = .ok none :=
      (resolvesFirst_of_none fun ⟨phrase, c, hoccurs⟩ ↦ hnone phrase c hoccurs).1.mpr hnone
    constructor
    · intro now r hr
      rw [hresolve] at hr
      cases hr
    · intro now now' r r' hr
      rw [hresolve] at hr
      cases hr

end

def todayRequest : QueryRequest where
  question := "today"
  question_length := by decide
  maxRows_bounds := QueryRequest.bounds_of_none

/-- The prompt for "today" is the same in two different years. -/
theorem bounds_lost :
    ¬BoundsReach wholeSchema .ascii todayRequest .sqlite 1000 usersAndOrders := by
  rw [boundsReach_iff]
  intro hnone
  have htext : dateText .ascii "today" = "today".toList := by decide +kernel
  apply hnone .today ⟨[], "today".toList⟩
  change MatchesAt _ (dateText .ascii "today") _
  rw [htext]
  exact ⟨List.mem_cons_self, by decide +kernel⟩

end TextToSql.Application
