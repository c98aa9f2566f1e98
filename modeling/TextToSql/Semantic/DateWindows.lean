import TextToSql.Semantic.DatePhrases

namespace TextToSql.Semantic

open Library.Calendar Library.Calendar.Moment

def InRange (t : Moment) : Prop := 1 ≤ t.date.year ∧ t.date.year ≤ 9999

instance (t : Moment) : Decidable (InRange t) := inferInstanceAs (Decidable (_ ∧ _))

theorem inRange_iff_month {t : Moment} :
    InRange t ↔ 12 ≤ t.date.monthIndex ∧ t.date.monthIndex < 120000 := by
  rw [InRange, ← t.date.monthIndex_div]
  omega

theorem inRange_iff_ordinal {t : Moment} :
    InRange t ↔ 1 ≤ t.date.toOrdinal ∧ t.date.toOrdinal ≤ 3652059 := by
  have hfirst : dayBefore 12 = 0 := by decide
  have hlast : dayBefore 120000 = 3652059 := by decide
  have hge := t.date.dayBefore_lt_iff 12
  have hlt := t.date.dayBefore_lt_iff 120000
  rw [hfirst] at hge
  rw [hlast] at hlt
  rw [inRange_iff_month, ← hge]
  omega

def ofMoment (e : PyError) (t : Moment) : Except PyError Datetime :=
  if h : InRange t then .ok ⟨t, h⟩ else .error e

theorem ofMoment_of_inRange {e : PyError} {t : Moment} (h : InRange t) :
    ofMoment e t = .ok ⟨t, h⟩ := dif_pos h

/-- The window between two instants of an unbounded calendar. -/
def window (e : PyError) (start «end» : Moment) (description matched : String) :
    Except PyError ResolvedDateRange :=
  if h : InRange start ∧ InRange «end» then
    .ok ⟨⟨start, h.1⟩, ⟨«end», h.2⟩, description, matched⟩
  else .error e

section

variable {e : PyError} {start «end» : Moment} {description matched : String}

theorem window_of_end (hend : InRange «end») :
    (do
      let start ← ofMoment e start
      return (⟨start, ⟨«end», hend⟩, description, matched⟩ : ResolvedDateRange)) =
      window e start «end» description matched := by
  by_cases h : InRange start
  · rw [ofMoment_of_inRange h, window, dif_pos ⟨h, hend⟩]
    rfl
  · rw [ofMoment, dif_neg h, window, dif_neg fun hboth ↦ h hboth.1]
    rfl

theorem window_of_start (hstart : InRange start) :
    (do
      let «end» ← ofMoment e «end»
      return (⟨⟨start, hstart⟩, «end», description, matched⟩ : ResolvedDateRange)) =
      window e start «end» description matched := by
  by_cases h : InRange «end»
  · rw [ofMoment_of_inRange h, window, dif_pos ⟨hstart, h⟩]
    rfl
  · rw [ofMoment, dif_neg h, window, dif_neg fun hboth ↦ h hboth.2]
    rfl

end

theorem bind_of_ok {α β : Type} {x : Except PyError α} {a : α} {f : α → Except PyError β}
    (h : x = .ok a) : (x >>= f) = f a := by
  rw [h]
  rfl

theorem bind_of_error {α β : Type} {x : Except PyError α} {e : PyError} {f : α → Except PyError β}
    (h : x = .error e) : (x >>= f) = .error e := by
  rw [h]
  rfl

def monthFirst (index : ℤ) : Moment := midnight (Date.ofMonth index)

def dayFirst (n : ℤ) : Moment := midnight (Date.ofOrdinal n)

theorem datetime_month (index : ℤ) :
    datetime (index / 12) (index % 12 + 1) 1 = ofMoment .valueError (monthFirst index) := by
  have hmonth : 1 ≤ index % 12 + 1 ∧ index % 12 + 1 ≤ 12 := by omega
  by_cases h : InRange (monthFirst index)
  · have hyear : 1 ≤ index / 12 ∧ index / 12 ≤ 9999 := h
    rw [ofMoment_of_inRange h, datetime,
      dif_pos ⟨hyear, hmonth, le_rfl, one_le_daysInMonth _ _⟩]
    rfl
  · have hyear : ¬(1 ≤ index / 12 ∧ index / 12 ≤ 9999) := h
    rw [ofMoment, dif_neg h, datetime, dif_neg fun hall ↦ hyear hall.1]

section Now

variable (now : Datetime)

def Datetime.monthIndex : ℤ := now.1.date.monthIndex

def Datetime.ordinal : ℤ := now.1.date.toOrdinal

theorem Datetime.year_eq : now.year = now.monthIndex / 12 := now.1.date.monthIndex_div.symm

theorem Datetime.month_eq : now.month = now.monthIndex % 12 + 1 := now.1.date.monthIndex_mod.symm

theorem Datetime.monthIndex_range : 12 ≤ now.monthIndex ∧ now.monthIndex < 120000 :=
  inRange_iff_month.mp now.2

theorem Datetime.ordinal_range : 1 ≤ now.ordinal ∧ now.ordinal ≤ 3652059 :=
  inRange_iff_ordinal.mp now.2

theorem inRange_monthFirst {index : ℤ} :
    InRange (monthFirst index) ↔ 12 ≤ index ∧ index < 120000 := by
  rw [inRange_iff_month, monthFirst, midnight, Date.monthIndex_ofMonth]

theorem inRange_dayFirst {n : ℤ} : InRange (dayFirst n) ↔ 1 ≤ n ∧ n ≤ 3652059 := by
  rw [inRange_iff_ordinal, dayFirst, midnight, Date.toOrdinal_ofOrdinal]

theorem midnight_eq_dayFirst {d : Date} {n : ℤ} (h : d.toOrdinal = n) : midnight d = dayFirst n := by
  rw [dayFirst, Date.toOrdinal_injective (h.trans (Date.toOrdinal_ofOrdinal n).symm)]

theorem datetime_today :
    datetime now.year now.month now.day = ofMoment .valueError (dayFirst now.ordinal) := by
  rw [datetime, dif_pos ⟨now.2, now.1.date.month_range, now.1.date.day_range⟩,
    ofMoment_of_inRange (inRange_dayFirst.mpr now.ordinal_range)]
  congr 2
  exact midnight_eq_dayFirst rfl

theorem minusDays_dayFirst {n : ℤ} (h : InRange (dayFirst n)) (k : ℕ) :
    Datetime.minusDays ⟨dayFirst n, h⟩ k = ofMoment .overflowError (dayFirst (n - k)) := by
  have hdate : midnight (Date.prev^[k] (Date.ofOrdinal n)) = dayFirst (n - k) :=
    midnight_eq_dayFirst (by simp)
  rw [← hdate]
  rfl

theorem plusDays_dayFirst {n : ℤ} (h : InRange (dayFirst n)) (k : ℕ) :
    Datetime.plusDays ⟨dayFirst n, h⟩ k = ofMoment .overflowError (dayFirst (n + k)) := by
  have hdate : midnight (Date.next^[k] (Date.ofOrdinal n)) = dayFirst (n + k) :=
    midnight_eq_dayFirst (by simp)
  rw [← hdate]
  rfl

def Phrase.start (days : ℕ) : Phrase → Moment
  | .lastNDays => ⟨Date.prev^[days] now.1.date, now.1.micros, now.micros_lt⟩
  | .lastQuarter => monthFirst ((now.monthIndex / 3 - 1) * 3)
  | .thisQuarter => monthFirst (now.monthIndex / 3 * 3)
  | .lastMonth => monthFirst (now.monthIndex - 1)
  | .thisMonth => monthFirst now.monthIndex
  | .lastYear => monthFirst ((now.monthIndex / 12 - 1) * 12)
  | .thisYear => monthFirst (now.monthIndex / 12 * 12)
  | .lastWeek => dayFirst (((now.ordinal - 1) / 7 - 1) * 7 + 1)
  | .yesterday => dayFirst (now.ordinal - 1)
  | .today => dayFirst now.ordinal

def Phrase.end : Phrase → Moment
  | .lastQuarter => monthFirst (now.monthIndex / 3 * 3)
  | .lastMonth => monthFirst now.monthIndex
  | .lastYear => monthFirst (now.monthIndex / 12 * 12)
  | .lastWeek => dayFirst ((now.ordinal - 1) / 7 * 7 + 1)
  | .yesterday => dayFirst now.ordinal
  | .today => dayFirst (now.ordinal + 1)
  | .lastNDays | .thisQuarter | .thisMonth | .thisYear => now.1

def Phrase.description (days : ℕ) : Phrase → String
  | .lastNDays => "the last " ++ toString days ++ " days"
  | .lastQuarter => "the last completed calendar quarter"
  | .thisQuarter => "the current quarter to date"
  | .lastMonth => "the last completed calendar month"
  | .thisMonth => "the current month to date"
  | .lastYear => "the previous calendar year"
  | .thisYear => "the current year to date"
  | .lastWeek => "the last completed week"
  | .yesterday => "yesterday"
  | .today => "today"

def Phrase.matchedPhrase (matched : String) : Phrase → String
  | .lastNDays => matched
  | .lastQuarter => "last quarter"
  | .thisQuarter => "this quarter"
  | .lastMonth => "last month"
  | .thisMonth => "this month"
  | .lastYear => "last year"
  | .thisYear => "this year"
  | .lastWeek => "last week"
  | .yesterday => "yesterday"
  | .today => "today"

def Phrase.error : Phrase → PyError
  | .lastNDays | .lastWeek | .yesterday | .today => .overflowError
  | .lastQuarter | .thisQuarter | .lastMonth | .thisMonth | .lastYear | .thisYear => .valueError

theorem datetime_quarter :
    datetime now.year (quarterOf now.month * 3 + 1) 1 =
      ofMoment .valueError (monthFirst (now.monthIndex / 3 * 3)) := by
  have hyear : now.year = now.monthIndex / 3 * 3 / 12 := by
    rw [now.year_eq]
    omega
  have hmonth : quarterOf now.month * 3 + 1 = now.monthIndex / 3 * 3 % 12 + 1 := by
    rw [quarterOf, now.month_eq]
    omega
  rw [hyear, hmonth, datetime_month]

theorem datetime_year (year : ℤ) :
    datetime year 1 1 = ofMoment .valueError (monthFirst (year * 12)) := by
  rw [← datetime_month]
  congr 1 <;> omega

theorem monthStart_eq : monthStart now = ofMoment .valueError (monthFirst now.monthIndex) := by
  rw [monthStart, now.year_eq, now.month_eq, datetime_month]

theorem datetime_addMonth (index delta : ℤ) :
    datetime (addMonth (index / 12) (index % 12 + 1) delta).1
        (addMonth (index / 12) (index % 12 + 1) delta).2 1 =
      ofMoment .valueError (monthFirst (index + delta)) := by
  have hindex : index / 12 * 12 + (index % 12 + 1 - 1) + delta = index + delta := by omega
  rw [addMonth, hindex, datetime_month]

theorem minusDays_eq (n : ℕ) :
    now.minusDays n =
      ofMoment .overflowError ⟨Date.prev^[n] now.1.date, now.1.micros, now.1.micros_lt⟩ := rfl

/-- Each phrase stands for its window, or raises its exception when the window leaves the
calendar. -/
theorem Phrase.range_eq (phrase : Phrase) (days : ℕ) (matched : String) :
    phrase.range now days matched =
      window phrase.error (phrase.start now days) (phrase.end now) (phrase.description days)
        (phrase.matchedPhrase matched) := by
  have hmonth := now.monthIndex_range
  have hday := now.ordinal_range
  have hthisQuarter : InRange (monthFirst (now.monthIndex / 3 * 3)) :=
    inRange_monthFirst.mpr (by omega)
  have hthisMonth : InRange (monthFirst now.monthIndex) := inRange_monthFirst.mpr hmonth
  have hthisYear : InRange (monthFirst (now.monthIndex / 12 * 12)) :=
    inRange_monthFirst.mpr (by omega)
  have hthisWeek : InRange (dayFirst ((now.ordinal - 1) / 7 * 7 + 1)) :=
    inRange_dayFirst.mpr (by omega)
  have htoday : InRange (dayFirst now.ordinal) := inRange_dayFirst.mpr hday
  cases phrase with
  | lastNDays =>
    rw [Phrase.range, lastNDaysRange, minusDays_eq]
    exact window_of_end now.2
  | lastQuarter =>
    have hstart : now.monthIndex / 3 * 3 + -3 = (now.monthIndex / 3 - 1) * 3 := by omega
    have hdate := datetime_addMonth (now.monthIndex / 3 * 3) (-3)
    rw [hstart] at hdate
    rw [Phrase.range, lastQuarterRange, datetime_quarter, ofMoment_of_inRange hthisQuarter]
    refine Eq.trans ?_ (window_of_end hthisQuarter)
    exact congrArg (· >>= fun start ↦ pure (⟨start, _, _, _⟩ : ResolvedDateRange)) hdate
  | thisQuarter =>
    rw [Phrase.range, thisQuarterRange, datetime_quarter]
    exact window_of_end now.2
  | lastMonth =>
    have hdate := datetime_addMonth now.monthIndex (-1)
    rw [← now.year_eq, ← now.month_eq] at hdate
    rw [Phrase.range, lastMonthRange, monthStart_eq, ofMoment_of_inRange hthisMonth]
    refine Eq.trans ?_ (window_of_end hthisMonth)
    exact congrArg (· >>= fun start ↦ pure (⟨start, _, _, _⟩ : ResolvedDateRange)) hdate
  | thisMonth =>
    rw [Phrase.range, thisMonthRange, monthStart_eq]
    exact window_of_end now.2
  | lastYear =>
    rw [Phrase.range, lastYearRange, datetime_year, datetime_year, now.year_eq,
      ofMoment_of_inRange hthisYear]
    exact window_of_end hthisYear
  | thisYear =>
    rw [Phrase.range, thisYearRange, datetime_year, now.year_eq]
    exact window_of_end now.2
  | lastWeek =>
    have hweekday : now.ordinal - (now.weekday.toNat : ℤ) = (now.ordinal - 1) / 7 * 7 + 1 := by
      have : now.weekday = (now.ordinal + 6) % 7 := rfl
      omega
    have hstart : (now.ordinal - 1) / 7 * 7 + 1 - ((7 : ℕ) : ℤ) =
        ((now.ordinal - 1) / 7 - 1) * 7 + 1 := by omega
    have hdays := minusDays_dayFirst hthisWeek 7
    rw [hstart] at hdays
    rw [Phrase.range, lastWeekRange, datetime_today, ofMoment_of_inRange htoday]
    refine Eq.trans ?_ (window_of_end hthisWeek)
    have hmonday := minusDays_dayFirst htoday now.weekday.toNat
    rw [hweekday, ofMoment_of_inRange hthisWeek] at hmonday
    refine (bind_of_ok rfl).trans ((bind_of_ok hmonday).trans ?_)
    rw [hdays]
    rfl
  | yesterday =>
    rw [Phrase.range, yesterdayRange, datetime_today, ofMoment_of_inRange htoday]
    have hday := minusDays_dayFirst htoday 1
    by_cases hstart : InRange (dayFirst (now.ordinal - 1))
    · have hend := plusDays_dayFirst hstart 1
      rw [Nat.cast_one, sub_add_cancel, ofMoment_of_inRange htoday] at hend
      rw [Nat.cast_one, ofMoment_of_inRange hstart] at hday
      refine Eq.trans ?_ (dif_pos ⟨hstart, htoday⟩).symm
      exact (bind_of_ok rfl).trans ((bind_of_ok hday).trans (bind_of_ok hend))
    · rw [Nat.cast_one, ofMoment, dif_neg hstart] at hday
      refine Eq.trans ?_ (dif_neg fun hboth ↦ hstart hboth.1).symm
      exact (bind_of_ok rfl).trans (bind_of_error hday)
  | today =>
    rw [Phrase.range, todayRange, datetime_today, ofMoment_of_inRange htoday]
    refine (bind_of_ok rfl).trans ?_
    rw [plusDays_dayFirst htoday 1]
    exact window_of_start htoday

end Now

end TextToSql.Semantic
