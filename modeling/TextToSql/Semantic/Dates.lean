import TextToSql.Domain.Text
import TextToSql.Library.Backtracking
import TextToSql.Library.Calendar

namespace TextToSql.Semantic

open Domain Library.Backtracking Library.Calendar

/-- What regular expressions take from the Unicode database: the characters of words and the
values of the decimal digits. -/
structure CharClasses where
  isAlnum : Char → Bool
  decimal : Char → Option ℕ
  decimal_lt : ∀ c n, decimal c = some n → n < 10
  isSpace_decimal : ∀ c, (decimal c).isSome → isSpace c = false
  isAlpha_decimal : ∀ c, (decimal c).isSome → c.isAlpha = false

namespace CharClasses

def isWord (cc : CharClasses) (c : Char) : Bool := cc.isAlnum c || c == '_'

def isDecimal (cc : CharClasses) (c : Char) : Bool := (cc.decimal c).isSome

def int (cc : CharClasses) (digits : List Char) : ℕ :=
  digits.foldl (fun n c ↦ n * 10 + (cc.decimal c).getD 0) 0

end CharClasses

inductive PyError where
  | valueError | overflowError
  deriving DecidableEq

abbrev Datetime : Type := {t : Moment // 1 ≤ t.date.year ∧ t.date.year ≤ 9999}

namespace Datetime

theorem micros_lt (t : Datetime) : t.1.micros < dayMicros := t.1.micros_lt

def year (t : Datetime) : ℤ := t.1.date.year

def month (t : Datetime) : ℤ := t.1.date.month

def day (t : Datetime) : ℤ := t.1.date.day

def weekday (t : Datetime) : ℤ := t.1.date.weekday

def withDate (t : Datetime) (d : Date) : Except PyError Datetime :=
  if h : 1 ≤ d.year ∧ d.year ≤ 9999 then .ok ⟨⟨d, t.1.micros, t.micros_lt⟩, h⟩
  else .error .overflowError

def minusDays (t : Datetime) (n : ℕ) : Except PyError Datetime := t.withDate (Date.prev^[n] t.1.date)

def plusDays (t : Datetime) (n : ℕ) : Except PyError Datetime := t.withDate (Date.next^[n] t.1.date)

end Datetime

def datetime (year month day : ℤ) : Except PyError Datetime :=
  if h : (1 ≤ year ∧ year ≤ 9999) ∧ (1 ≤ month ∧ month ≤ 12) ∧
      1 ≤ day ∧ day ≤ daysInMonth year month then
    .ok ⟨.midnight ⟨year, month, day, h.2.1, h.2.2⟩, h.1⟩
  else .error .valueError

structure ResolvedDateRange where
  start : Datetime
  «end» : Datetime
  description : String
  matchedPhrase : String
  deriving DecidableEq

def monthStart (dt : Datetime) : Except PyError Datetime := datetime dt.year dt.month 1

def addMonth (year month delta : ℤ) : ℤ × ℤ :=
  let index := (year * 12 + (month - 1)) + delta
  (index / 12, index % 12 + 1)

def quarterOf (month : ℤ) : ℤ := (month - 1) / 3

/-- The keys of `_PATTERNS`. -/
inductive Phrase where
  | lastQuarter | thisQuarter | lastMonth | thisMonth | lastYear | thisYear | yesterday | today
  | lastNDays | lastWeek
  deriving DecidableEq

def spaced : List String → Matcher Char (List Char)
  | [] => .done []
  | [word] => .literal word.toList
  | word :: words =>
    (Matcher.literal word.toList).seq fun _ ↦ (Matcher.many1 isSpace).seq fun _ ↦ spaced words

namespace CharClasses

variable (cc : CharClasses)

def bounded (m : Matcher Char (List Char)) : Matcher Char (List Char) :=
  (Matcher.boundary cc.isWord).seq fun _ ↦ m.seq fun group ↦
    (Matcher.boundary cc.isWord).seq fun _ ↦ .done group

def nDays : Matcher Char (List Char) :=
  (Matcher.oneOf [.literal "last".toList, .literal "past".toList,
    .literal "previous".toList]).seq fun _ ↦
    (Matcher.many1 isSpace).seq fun _ ↦ (Matcher.oneUpTo cc.isDecimal 4).seq fun digits ↦
      (Matcher.many1 isSpace).seq fun _ ↦ (Matcher.literal "day".toList).seq fun _ ↦
        (Matcher.upTo (· == 's') 1).seq fun _ ↦ .done digits

def pattern : Phrase → Matcher Char (List Char)
  | .lastQuarter => cc.bounded (spaced ["last", "quarter"])
  | .thisQuarter => cc.bounded (spaced ["this", "quarter"])
  | .lastMonth => cc.bounded (spaced ["last", "month"])
  | .thisMonth => cc.bounded (spaced ["this", "month"])
  | .lastYear => cc.bounded (spaced ["last", "year"])
  | .thisYear =>
    cc.bounded (.oneOf [spaced ["this", "year"], spaced ["year", "to", "date"], spaced ["ytd"]])
  | .yesterday => cc.bounded (spaced ["yesterday"])
  | .today => cc.bounded (spaced ["today"])
  | .lastNDays => cc.bounded cc.nDays
  | .lastWeek => cc.bounded (spaced ["last", "week"])

end CharClasses

def matchedText (c d : Cursor Char) : String :=
  String.ofList (c.after.take (d.position - c.position))

section Ranges

variable (now : Datetime)

def lastNDaysRange (days : ℕ) (matched : String) : Except PyError ResolvedDateRange := do
  let start ← now.minusDays days
  return ⟨start, now, "the last " ++ toString days ++ " days", matched⟩

def lastQuarterRange : Except PyError ResolvedDateRange := do
  let q := quarterOf now.month
  let firstMonthCurrentQ := q * 3 + 1
  let curQStart ← datetime now.year firstMonthCurrentQ 1
  let (ly, lm) := addMonth curQStart.year curQStart.month (-3)
  let start ← datetime ly lm 1
  return ⟨start, curQStart, "the last completed calendar quarter", "last quarter"⟩

def thisQuarterRange : Except PyError ResolvedDateRange := do
  let q := quarterOf now.month
  let start ← datetime now.year (q * 3 + 1) 1
  return ⟨start, now, "the current quarter to date", "this quarter"⟩

def lastMonthRange : Except PyError ResolvedDateRange := do
  let (ly, lm) := addMonth now.year now.month (-1)
  let start ← datetime ly lm 1
  let «end» ← monthStart now
  return ⟨start, «end», "the last completed calendar month", "last month"⟩

def thisMonthRange : Except PyError ResolvedDateRange := do
  let start ← monthStart now
  return ⟨start, now, "the current month to date", "this month"⟩

def lastYearRange : Except PyError ResolvedDateRange := do
  let start ← datetime (now.year - 1) 1 1
  let «end» ← datetime now.year 1 1
  return ⟨start, «end», "the previous calendar year", "last year"⟩

def thisYearRange : Except PyError ResolvedDateRange := do
  let start ← datetime now.year 1 1
  return ⟨start, now, "the current year to date", "this year"⟩

def lastWeekRange : Except PyError ResolvedDateRange := do
  let weekday := now.weekday
  let today ← datetime now.year now.month now.day
  let thisWeekStart ← today.minusDays weekday.toNat
  let start ← thisWeekStart.minusDays 7
  return ⟨start, thisWeekStart, "the last completed week", "last week"⟩

def yesterdayRange : Except PyError ResolvedDateRange := do
  let today ← datetime now.year now.month now.day
  let day ← today.minusDays 1
  let «end» ← day.plusDays 1
  return ⟨day, «end», "yesterday", "yesterday"⟩

def todayRange : Except PyError ResolvedDateRange := do
  let day ← datetime now.year now.month now.day
  let «end» ← day.plusDays 1
  return ⟨day, «end», "today", "today"⟩

end Ranges

section Resolve

variable (py : Python) (cc : CharClasses)

def found (phrase : Phrase) (text : List Char) : Bool := (search (cc.pattern phrase) text).isSome

def resolveRelativeDate (question : String) (now : Datetime) :
    Except PyError (Option ResolvedDateRange) :=
  let text := (py.lower question).toList
  match search (cc.pattern .lastNDays) text with
  | some (c, digits, d) => (lastNDaysRange now (cc.int digits) (matchedText c d)).map some
  | none =>
    if found cc .lastQuarter text then (lastQuarterRange now).map some
    else if found cc .thisQuarter text then (thisQuarterRange now).map some
    else if found cc .lastMonth text then (lastMonthRange now).map some
    else if found cc .thisMonth text then (thisMonthRange now).map some
    else if found cc .lastYear text then (lastYearRange now).map some
    else if found cc .thisYear text then (thisYearRange now).map some
    else if found cc .lastWeek text then (lastWeekRange now).map some
    else if found cc .yesterday text then (yesterdayRange now).map some
    else if found cc .today text then (todayRange now).map some
    else .ok none

end Resolve

theorem digit_toNat {c : Char} (h : c.isDigit = true) : 48 ≤ c.toNat ∧ c.toNat ≤ 57 := by
  simp only [Char.isDigit, Bool.and_eq_true, decide_eq_true_eq, UInt32.le_iff_toNat_le,
    ge_iff_le] at h
  exact h

theorem isDigit_of_isSome {c : Char} (h : (if c.isDigit then some (c.toNat - 48) else none).isSome) :
    c.isDigit = true := by
  by_contra hno
  simp [hno] at h

theorem asciiDecimal_lt (c : Char) (n : ℕ)
    (h : (if c.isDigit then some (c.toNat - 48) else none) = some n) : n < 10 := by
  have hdigit : c.isDigit = true := isDigit_of_isSome (Option.isSome_of_eq_some h)
  have hbounds := digit_toNat hdigit
  rw [if_pos hdigit] at h
  cases h
  omega

theorem isSpace_asciiDecimal (c : Char)
    (h : (if c.isDigit then some (c.toNat - 48) else none).isSome) : isSpace c = false := by
  have hdigit := digit_toNat (isDigit_of_isSome h)
  simp [isSpace]
  omega

theorem isAlpha_asciiDecimal (c : Char)
    (h : (if c.isDigit then some (c.toNat - 48) else none).isSome) : c.isAlpha = false := by
  have hdigit := digit_toNat (isDigit_of_isSome h)
  simp [Char.isAlpha, Char.isUpper, Char.isLower, UInt32.le_iff_toNat_le]
  omega

def CharClasses.ascii : CharClasses where
  isAlnum := Char.isAlphanum
  decimal c := if c.isDigit then some (c.toNat - 48) else none
  decimal_lt := asciiDecimal_lt
  isSpace_decimal := isSpace_asciiDecimal
  isAlpha_decimal := isAlpha_asciiDecimal

end TextToSql.Semantic
