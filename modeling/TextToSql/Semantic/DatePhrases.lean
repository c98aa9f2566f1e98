import TextToSql.Semantic.Dates

namespace TextToSql.Semantic

open Domain Library.Backtracking Library.Calendar

/-- The order in which the patterns are tried. -/
def priority : List Phrase :=
  [.lastNDays, .lastQuarter, .thisQuarter, .lastMonth, .thisMonth, .lastYear, .thisYear,
    .lastWeek, .yesterday, .today]

theorem mem_priority (phrase : Phrase) : phrase ∈ priority := by
  cases phrase <;> decide

def Phrase.range (now : Datetime) (days : ℕ) (matched : String) :
    Phrase → Except PyError ResolvedDateRange
  | .lastNDays => lastNDaysRange now days matched
  | .lastQuarter => lastQuarterRange now
  | .thisQuarter => thisQuarterRange now
  | .lastMonth => lastMonthRange now
  | .thisMonth => thisMonthRange now
  | .lastYear => lastYearRange now
  | .thisYear => thisYearRange now
  | .lastWeek => lastWeekRange now
  | .yesterday => yesterdayRange now
  | .today => todayRange now

variable {py : Python} {cc : CharClasses} {question : String} {now : Datetime} {phrase : Phrase}

def Phrase.resolved (cc : CharClasses) (now : Datetime) (phrase : Phrase)
    (r : Cursor Char × List Char × Cursor Char) : Except PyError ResolvedDateRange :=
  phrase.range now (cc.int r.2.1) (matchedText r.1 r.2.2)

def dateText (py : Python) (question : String) : List Char := (py.lower question).toList

/-- The first of the phrases that occurs, where it first does. -/
def firstOf (cc : CharClasses) (text : List Char) (phrases : List Phrase) :
    Option (Phrase × Cursor Char × List Char × Cursor Char) :=
  phrases.findSome? fun phrase ↦ (search (cc.pattern phrase) text).map (phrase, ·)

def chosen (py : Python) (cc : CharClasses) (question : String) :
    Option (Phrase × Cursor Char × List Char × Cursor Char) :=
  firstOf cc (dateText py question) priority

def resolvedFirst (cc : CharClasses) (now : Datetime) (text : List Char) (phrases : List Phrase) :
    Except PyError (Option ResolvedDateRange) :=
  match firstOf cc text phrases with
  | none => .ok none
  | some (phrase, r) => (phrase.resolved cc now r).map some

theorem resolvedFirst_cons (text : List Char) (phrase : Phrase) (phrases : List Phrase) :
    resolvedFirst cc now text (phrase :: phrases) =
      match search (cc.pattern phrase) text with
      | some r => (phrase.resolved cc now r).map some
      | none => resolvedFirst cc now text phrases := by
  rw [resolvedFirst, firstOf, List.findSome?_cons]
  cases search (cc.pattern phrase) text <;> rfl

theorem resolvedFirst_cons_fixed (text : List Char) (phrases : List Phrase) (phrase : Phrase)
    (range : Except PyError ResolvedDateRange)
    (hrange : ∀ days matched, phrase.range now days matched = range) :
    resolvedFirst cc now text (phrase :: phrases) =
      if found cc phrase text then range.map some else resolvedFirst cc now text phrases := by
  rw [resolvedFirst_cons, found]
  cases search (cc.pattern phrase) text with
  | none => rfl
  | some r => exact congrArg (Except.map some) (hrange _ _)

theorem resolveRelativeDate_eq_resolvedFirst :
    resolveRelativeDate py cc question now =
      resolvedFirst cc now (dateText py question) priority := by
  have hfixed := @resolvedFirst_cons_fixed cc now (dateText py question)
  rw [priority, resolvedFirst_cons,
    hfixed _ .lastQuarter (lastQuarterRange now) fun _ _ ↦ rfl,
    hfixed _ .thisQuarter (thisQuarterRange now) fun _ _ ↦ rfl,
    hfixed _ .lastMonth (lastMonthRange now) fun _ _ ↦ rfl,
    hfixed _ .thisMonth (thisMonthRange now) fun _ _ ↦ rfl,
    hfixed _ .lastYear (lastYearRange now) fun _ _ ↦ rfl,
    hfixed _ .thisYear (thisYearRange now) fun _ _ ↦ rfl,
    hfixed _ .lastWeek (lastWeekRange now) fun _ _ ↦ rfl,
    hfixed _ .yesterday (yesterdayRange now) fun _ _ ↦ rfl,
    hfixed _ .today (todayRange now) fun _ _ ↦ rfl, resolveRelativeDate, dateText]
  rcases search (cc.pattern .lastNDays) (py.lower question).toList with _ | ⟨c, digits, d⟩
  · rfl
  · rfl

theorem resolveRelativeDate_of_none (h : chosen py cc question = none) :
    resolveRelativeDate py cc question now = .ok none := by
  rw [chosen] at h
  rw [resolveRelativeDate_eq_resolvedFirst, resolvedFirst, h]

theorem resolveRelativeDate_of_some {r : Cursor Char × List Char × Cursor Char}
    (h : chosen py cc question = some (phrase, r)) :
    resolveRelativeDate py cc question now = (phrase.resolved cc now r).map some := by
  rw [chosen] at h
  rw [resolveRelativeDate_eq_resolvedFirst, resolvedFirst, h]

end TextToSql.Semantic
