import TextToSql.Semantic.DateWindows

namespace TextToSql.Semantic

open Domain Library Library.Calendar Library.Calendar.Moment Library.Backtracking

/-- The window holds the instants of one period, all of them. -/
def WholePeriod {γ : Type} (period : Datetime → γ) (r : ResolvedDateRange) : Prop :=
  r.start < r.end ∧ ∀ t, r.start ≤ t ∧ t < r.end ↔ period t = period r.start

def SameOrApart (r r' : ResolvedDateRange) : Prop :=
  (r.start = r'.start ∧ r.end = r'.end) ∨
    Disjoint (Set.Ico r.start r.end) (Set.Ico r'.start r'.end)

section

variable {first : ℤ → Moment} {period : Moment → ℤ} {r r' : ResolvedDateRange} {i j : ℤ}

theorem wholePeriod_of_galois (h : GaloisConnection first period) {γ : Type} {key : Datetime → γ}
    (hkey : ∀ t u : Datetime, key t = key u ↔ period t.1 = period u.1)
    (hone : period (first i) = i) (hstart : r.start.1 = first i)
    (hend : r.end.1 = first (i + 1)) : WholePeriod key r := by
  have hmem (t : Datetime) : r.start ≤ t ∧ t < r.end ↔ period t.1 = i := by
    rw [← Periods.mem_Ico_iff h, ← hstart, ← hend]
    rfl
  have hperiod : period r.start.1 = i := by rw [hstart, hone]
  refine ⟨((hmem r.start).mpr hperiod).2, ?_⟩
  intro t
  rw [hmem, hkey, hperiod]

theorem sameOrApart_of_galois (h : GaloisConnection first period)
    (hstart : r.start.1 = first i) (hend : r.end.1 = first (i + 1))
    (hstart' : r'.start.1 = first j) (hend' : r'.end.1 = first (j + 1)) : SameOrApart r r' := by
  by_cases hij : i = j
  · left
    subst hij
    exact ⟨Subtype.ext (hstart.trans hstart'.symm), Subtype.ext (hend.trans hend'.symm)⟩
  · right
    have hapart := Set.disjoint_left.mp (Periods.disjoint_Ico h hij)
    rw [← hstart, ← hend, ← hstart', ← hend'] at hapart
    rw [Set.disjoint_left]
    intro t ht ht'
    exact hapart ht ht'

end

theorem galois_quarter :
    GaloisConnection (fun i ↦ monthFirst (i * 3)) (fun t : Moment ↦ t.date.monthIndex / 3) :=
  Periods.grouped galois_month (by decide)

theorem galois_year :
    GaloisConnection (fun i ↦ monthFirst (i * 12)) (fun t : Moment ↦ t.date.monthIndex / 12) :=
  Periods.grouped galois_month (by decide)

def completed : List Phrase := [.lastQuarter, .lastMonth, .lastYear, .lastWeek, .yesterday]

def toDate : List Phrase := [.thisQuarter, .thisMonth, .thisYear]

theorem completed_bounds {phrase : Phrase} (h : phrase ∈ completed) :
    ∃ (first : ℤ → Moment) (period : Moment → ℤ), GaloisConnection first period ∧
      ∀ now days, ∃ i, phrase.start now days = first i ∧ phrase.end now = first (i + 1) := by
  simp only [completed, List.mem_cons, List.not_mem_nil, or_false] at h
  rcases h with rfl | rfl | rfl | rfl | rfl
  · refine ⟨_, _, galois_quarter, fun now days ↦ ⟨now.monthIndex / 3 - 1, rfl, ?_⟩⟩
    simp [Phrase.end]
  · refine ⟨_, _, galois_month, fun now days ↦ ⟨now.monthIndex - 1, rfl, ?_⟩⟩
    simp [Phrase.end, monthFirst]
  · refine ⟨_, _, galois_year, fun now days ↦ ⟨now.monthIndex / 12 - 1, rfl, ?_⟩⟩
    simp [Phrase.end]
  · refine ⟨_, _, galois_week, fun now days ↦ ⟨(now.ordinal - 1) / 7 - 1, rfl, ?_⟩⟩
    simp [Phrase.end, dayFirst]
  · refine ⟨_, _, galois_day, fun now days ↦ ⟨now.ordinal - 1, rfl, ?_⟩⟩
    simp [Phrase.end, dayFirst]

theorem bounds_of_range {phrase : Phrase} {now : Datetime} {days : ℕ} {matched : String}
    {r : ResolvedDateRange} (h : phrase.range now days matched = .ok r) :
    r.start.1 = phrase.start now days ∧ r.end.1 = phrase.end now := by
  rw [Phrase.range_eq, window] at h
  split at h
  · cases h
    exact ⟨rfl, rfl⟩
  · cases h

theorem start_le_end (phrase : Phrase) (now : Datetime) (days : ℕ) :
    phrase.start now days ≤ phrase.end now := by
  by_cases hcompleted : phrase ∈ completed
  · obtain ⟨first, period, hgalois, hbounds⟩ := completed_bounds hcompleted
    obtain ⟨i, hstart, hend⟩ := hbounds now days
    rw [hstart, hend]
    exact hgalois.monotone_l (by omega)
  · cases phrase with
    | lastNDays =>
      rw [le_iff]
      simp only [instant, Phrase.start, Phrase.end, Date.toOrdinal_prev_iterate, dayMicros]
      omega
    | thisQuarter => exact Periods.first_le galois_quarter now.1
    | thisMonth => exact Periods.first_le galois_month now.1
    | thisYear => exact Periods.first_le galois_year now.1
    | today =>
      rw [Phrase.start, Phrase.end, dayFirst, dayFirst, midnight_le_iff]
      simp [midnight]
    | lastQuarter | lastMonth | lastYear | lastWeek | yesterday =>
      exact absurd (by decide) hcompleted

/-- How the windows of the phrases lie around an instant. -/
structure Tiles (now : Datetime) (w : Phrase → ResolvedDateRange) : Prop where
  quarter : (w .lastQuarter).end = (w .thisQuarter).start ∧ (w .thisQuarter).start ≤ now
  month : (w .lastMonth).end = (w .thisMonth).start ∧ (w .thisMonth).start ≤ now
  year : (w .lastYear).end = (w .thisYear).start ∧ (w .thisYear).start ≤ now
  week_monday : (w .lastWeek).end.weekday = 0 ∧ (w .lastWeek).end.1.micros = 0
  week : (w .lastWeek).end ≤ now ∧
    ∃ next, (w .lastWeek).end.plusDays 7 = .ok next ∧ now < next
  day : (w .yesterday).end = (w .today).start ∧ (w .today).start ≤ now ∧ now < (w .today).end
  lastQuarter : WholePeriod (fun t ↦ (t.year, quarterOf t.month)) (w .lastQuarter)
  lastMonth : WholePeriod (fun t ↦ (t.year, t.month)) (w .lastMonth)
  lastYear : WholePeriod Datetime.year (w .lastYear)
  lastWeek : (w .lastWeek).start.plusDays 7 = .ok (w .lastWeek).end ∧
    WholePeriod (fun t ↦ t.ordinal - t.weekday) (w .lastWeek)
  yesterday : WholePeriod (fun t ↦ (t.year, t.month, t.day)) (w .yesterday)
  toDate : ∀ phrase ∈ toDate, (w phrase).start ≤ (w phrase).end ∧ (w phrase).end = now

section Keys

variable (t u : Datetime)

theorem quarter_eq_iff : (t.year, quarterOf t.month) = (u.year, quarterOf u.month) ↔
    t.monthIndex / 3 = u.monthIndex / 3 := by
  rw [Prod.mk.injEq, quarterOf, quarterOf, t.year_eq, t.month_eq, u.year_eq, u.month_eq]
  omega

theorem month_eq_iff : (t.year, t.month) = (u.year, u.month) ↔ t.monthIndex = u.monthIndex := by
  rw [Prod.mk.injEq, t.year_eq, t.month_eq, u.year_eq, u.month_eq]
  omega

theorem year_eq_iff : t.year = u.year ↔ t.monthIndex / 12 = u.monthIndex / 12 := by
  rw [t.year_eq, u.year_eq]

theorem week_eq_iff : t.ordinal - t.weekday = u.ordinal - u.weekday ↔
    (t.ordinal - 1) / 7 = (u.ordinal - 1) / 7 := by
  have ht : t.weekday = (t.ordinal + 6) % 7 := rfl
  have hu : u.weekday = (u.ordinal + 6) % 7 := rfl
  omega

theorem day_eq_iff : (t.year, t.month, t.day) = (u.year, u.month, u.day) ↔
    t.ordinal = u.ordinal := by
  rw [Prod.mk.injEq, Prod.mk.injEq]
  constructor
  · intro h
    exact congrArg Date.toOrdinal (Date.ext h.1 h.2.1 h.2.2)
  · intro h
    have hdate : t.1.date = u.1.date := Date.toOrdinal_injective h
    exact ⟨congrArg Date.year hdate, congrArg Date.month hdate, congrArg Date.day hdate⟩

end Keys

theorem Datetime.ordinal_le {now : Datetime} (h : now.year ≤ 9998) : now.ordinal ≤ 3651694 := by
  have hlast : dayBefore 119988 = 3651694 := by decide
  have hlt := now.1.date.dayBefore_lt_iff 119988
  rw [hlast] at hlt
  have hindex : ¬119988 ≤ now.monthIndex := by
    rw [now.year_eq] at h
    omega
  exact not_lt.mp fun h ↦ hindex (hlt.mp h)

theorem plusDays_of_eq {t u : Datetime} {n m : ℤ} (ht : t.1 = dayFirst n) (hu : u.1 = dayFirst m)
    {k : ℕ} (hk : n + k = m) : t.plusDays k = .ok u := by
  obtain ⟨t, ht'⟩ := t
  obtain ⟨u, hu'⟩ := u
  subst ht hu hk
  exact (plusDays_dayFirst ht' k).trans (ofMoment_of_inRange hu')

theorem Datetime.lt_ordinal {now : Datetime} (h : 2 ≤ now.year) : 365 < now.ordinal := by
  have hfirst : dayBefore 24 = 365 := by decide
  have hlt := now.1.date.dayBefore_lt_iff 24
  rw [hfirst] at hlt
  have hindex : 24 ≤ now.monthIndex := by
    rw [now.year_eq] at h
    omega
  exact hlt.mpr hindex

def WindowsAt (now : Datetime) (w : Phrase → ResolvedDateRange) : Prop :=
  ∀ phrase ≠ .lastNDays, (w phrase).start.1 = phrase.start now 0 ∧
    (w phrase).end.1 = phrase.end now

namespace WindowsAt

variable {now : Datetime} {w : Phrase → ResolvedDateRange} {phrase phrase' : Phrase}

theorem meets (hw : WindowsAt now w) (h : phrase ≠ .lastNDays) (h' : phrase' ≠ .lastNDays)
    (heq : phrase.end now = phrase'.start now 0) : (w phrase).end = (w phrase').start :=
  Subtype.ext ((hw phrase h).2.trans (heq.trans (hw phrase' h').1.symm))

theorem start_le_now (hw : WindowsAt now w) (h : phrase ≠ .lastNDays)
    (hle : phrase.start now 0 ≤ now.1) : (w phrase).start ≤ now := by
  change (w phrase).start.1 ≤ now.1
  rwa [(hw phrase h).1]

theorem toDate (hw : WindowsAt now w) (h : phrase ≠ .lastNDays) (hend : phrase.end now = now.1) :
    (w phrase).start ≤ (w phrase).end ∧ (w phrase).end = now := by
  have heq : (w phrase).end = now := Subtype.ext ((hw phrase h).2.trans hend)
  refine ⟨?_, heq⟩
  rw [heq]
  exact hw.start_le_now h (hend ▸ start_le_end phrase now 0)

theorem monday (hw : WindowsAt now w) :
    (w .lastWeek).end.weekday = 0 ∧ (w .lastWeek).end.1.micros = 0 := by
  have hend := (hw .lastWeek (by decide)).2
  change (w .lastWeek).end.1.date.weekday = 0 ∧ _
  rw [hend]
  refine ⟨?_, rfl⟩
  rw [Date.weekday, Phrase.end, dayFirst, midnight, Date.toOrdinal_ofOrdinal]
  omega

theorem week (hw : WindowsAt now w) (hnow : now.year ≤ 9998) :
    (w .lastWeek).end ≤ now ∧ ∃ next, (w .lastWeek).end.plusDays 7 = .ok next ∧ now < next := by
  have hend := (hw .lastWeek (by decide)).2
  have hordinal := Datetime.ordinal_le hnow
  have hfirst := now.ordinal_range
  have hnext : InRange (dayFirst (((now.ordinal - 1) / 7 + 1) * 7 + 1)) :=
    inRange_dayFirst.mpr (by omega)
  refine ⟨?_, ⟨_, hnext⟩, plusDays_of_eq hend rfl (by push_cast; ring), ?_⟩
  · change (w .lastWeek).end.1 ≤ now.1
    rw [hend]
    exact Periods.first_le galois_week now.1
  · exact Periods.lt_first_succ galois_week now.1

theorem lt_tomorrow (hw : WindowsAt now w) : now < (w .today).end := by
  change now.1 < (w .today).end.1
  rw [(hw .today (by decide)).2]
  exact Periods.lt_first_succ galois_day now.1

theorem whole {first : ℤ → Moment} {period : Moment → ℤ} (hw : WindowsAt now w)
    (h : phrase ≠ .lastNDays) (hgalois : GaloisConnection first period) {γ : Type}
    {key : Datetime → γ} (hkey : ∀ t u : Datetime, key t = key u ↔ period t.1 = period u.1)
    (hone : ∀ i, period (first i) = i) {i : ℤ} (hstart : phrase.start now 0 = first i)
    (hend : phrase.end now = first (i + 1)) : WholePeriod key (w phrase) :=
  wholePeriod_of_galois hgalois hkey (hone i) ((hw phrase h).1.trans hstart)
    ((hw phrase h).2.trans hend)

theorem tiles (hw : WindowsAt now w) (hnow : now.year ≤ 9998) : Tiles now w where
  quarter := ⟨hw.meets (by decide) (by decide) rfl,
    hw.start_le_now (by decide) (Periods.first_le galois_quarter now.1)⟩
  month := ⟨hw.meets (by decide) (by decide) rfl,
    hw.start_le_now (by decide) (Periods.first_le galois_month now.1)⟩
  year := ⟨hw.meets (by decide) (by decide) rfl,
    hw.start_le_now (by decide) (Periods.first_le galois_year now.1)⟩
  week_monday := hw.monday
  week := hw.week hnow
  day := ⟨hw.meets (by decide) (by decide) rfl,
    hw.start_le_now (by decide) (Periods.first_le galois_day now.1), hw.lt_tomorrow⟩
  lastQuarter := by
    apply hw.whole (by decide) galois_quarter (fun t u ↦ quarter_eq_iff t u) ?_ rfl
    · simp [Phrase.end]
    · intro i
      simp [monthFirst, midnight]
  lastMonth := by
    apply hw.whole (by decide) galois_month (fun t u ↦ month_eq_iff t u) ?_ rfl
    · simp [Phrase.end, monthFirst]
    · intro i
      simp [midnight]
  lastYear := by
    apply hw.whole (by decide) galois_year (fun t u ↦ year_eq_iff t u) ?_ rfl
    · simp [Phrase.end]
    · intro i
      simp [monthFirst, midnight]
  lastWeek := by
    refine ⟨plusDays_of_eq (hw .lastWeek (by decide)).1 (hw .lastWeek (by decide)).2
      (by push_cast; ring), ?_⟩
    apply hw.whole (by decide) galois_week (fun t u ↦ week_eq_iff t u) ?_ rfl
    · simp [Phrase.end, dayFirst]
    · intro i
      simp [midnight]
  yesterday := by
    apply hw.whole (by decide) galois_day (fun t u ↦ day_eq_iff t u) ?_ rfl
    · simp [Phrase.end, dayFirst]
    · intro i
      simp [midnight]
  toDate := by
    intro phrase hphrase
    simp only [Semantic.toDate, List.mem_cons, List.not_mem_nil, or_false] at hphrase
    rcases hphrase with rfl | rfl | rfl
    · exact hw.toDate (by decide) rfl
    · exact hw.toDate (by decide) rfl
    · exact hw.toDate (by decide) rfl

end WindowsAt

theorem inRange_bounds {now : Datetime} (h : 2 ≤ now.year) (h' : now.year ≤ 9998) {phrase : Phrase}
    (hphrase : phrase ≠ .lastNDays) :
    InRange (phrase.start now 0) ∧ InRange (phrase.end now) := by
  have hlast := Datetime.ordinal_le h'
  have hfirst := Datetime.lt_ordinal h
  rw [now.year_eq] at h h'
  cases phrase with
  | lastNDays => exact absurd rfl hphrase
  | lastQuarter | lastMonth | lastYear =>
    exact ⟨inRange_monthFirst.mpr (by omega), inRange_monthFirst.mpr (by omega)⟩
  | thisQuarter | thisMonth | thisYear => exact ⟨inRange_monthFirst.mpr (by omega), now.2⟩
  | lastWeek | yesterday | today =>
    exact ⟨inRange_dayFirst.mpr (by omega), inRange_dayFirst.mpr (by omega)⟩

theorem range_of_resolved {py : Python} {cc : CharClasses} {question : String} {now : Datetime}
    {r : ResolvedDateRange} (h : resolveRelativeDate py cc question now = .ok (some r)) :
    ∃ phrase m, chosen py cc question = some (phrase, m) ∧ phrase.resolved cc now m = .ok r := by
  cases hchosen : chosen py cc question with
  | none =>
    rw [resolveRelativeDate_of_none hchosen] at h
    cases h
  | some found =>
    obtain ⟨phrase, m⟩ := found
    refine ⟨phrase, m, rfl, ?_⟩
    rw [resolveRelativeDate_of_some hchosen] at h
    cases hresolved : phrase.resolved cc now m with
    | error e =>
      rw [hresolved] at h
      cases h
    | ok r' =>
      rw [hresolved] at h
      cases h
      rfl

theorem calendar_tiles (py : Python) (cc : CharClasses) :
    (∀ now : Datetime, 2 ≤ now.year → now.year ≤ 9998 → ∃ w,
      (∀ question phrase r, phrase ≠ .lastNDays → chosen py cc question = some (phrase, r) →
        resolveRelativeDate py cc question now = .ok (some (w phrase))) ∧ Tiles now w) ∧
    (∀ question now r, resolveRelativeDate py cc question now = .ok (some r) → r.start ≤ r.end) ∧
    ∀ phrase ∈ completed, ∀ question question' m m' now now' r r',
      chosen py cc question = some (phrase, m) → chosen py cc question' = some (phrase, m') →
      resolveRelativeDate py cc question now = .ok (some r) →
      resolveRelativeDate py cc question' now' = .ok (some r') → SameOrApart r r' := by
  refine ⟨?_, ?_, ?_⟩
  · intro now h h'
    have hwindow (phrase : Phrase) : ∃ r : ResolvedDateRange, phrase ≠ .lastNDays →
        (∀ days matched, phrase.range now days matched = .ok r) ∧
          r.start.1 = phrase.start now 0 ∧ r.end.1 = phrase.end now := by
      by_cases hphrase : phrase = .lastNDays
      · exact ⟨⟨now, now, "", ""⟩, fun hne ↦ absurd hphrase hne⟩
      · have hbounds := inRange_bounds h h' hphrase
        refine ⟨⟨⟨_, hbounds.1⟩, ⟨_, hbounds.2⟩, phrase.description 0, phrase.matchedPhrase ""⟩,
          fun _ ↦ ⟨fun days matched ↦ ?_, rfl, rfl⟩⟩
        have hfixed : phrase.range now days matched = phrase.range now 0 "" := by
          cases phrase <;> first | rfl | exact absurd rfl hphrase
        rw [hfixed, Phrase.range_eq, window, dif_pos hbounds]
    choose w hw using hwindow
    refine ⟨w, ?_, WindowsAt.tiles (fun phrase hphrase ↦ (hw phrase hphrase).2) h'⟩
    intro question phrase r hphrase hchosen
    rw [resolveRelativeDate_of_some hchosen, Phrase.resolved, (hw phrase hphrase).1]
    rfl
  · intro question now r hr
    obtain ⟨phrase, m, -, hrange⟩ := range_of_resolved hr
    obtain ⟨hstart, hend⟩ := bounds_of_range hrange
    change r.start.1 ≤ r.end.1
    rw [hstart, hend]
    exact start_le_end _ _ _
  · intro phrase hphrase question question' m m' now now' r r' hm hm' hr hr'
    obtain ⟨first, period, hgalois, hbounds⟩ := completed_bounds hphrase
    obtain ⟨p, q, hchosen, hrange⟩ := range_of_resolved hr
    obtain ⟨p', q', hchosen', hrange'⟩ := range_of_resolved hr'
    rw [hm] at hchosen
    rw [hm'] at hchosen'
    cases hchosen
    cases hchosen'
    obtain ⟨hstart, hend⟩ := bounds_of_range hrange
    obtain ⟨hstart', hend'⟩ := bounds_of_range hrange'
    obtain ⟨i, hi, hi'⟩ := hbounds now (cc.int m.2.1)
    obtain ⟨j, hj, hj'⟩ := hbounds now' (cc.int m'.2.1)
    exact sameOrApart_of_galois hgalois (hstart.trans hi) (hend.trans hi') (hstart'.trans hj)
      (hend'.trans hj')

end TextToSql.Semantic
