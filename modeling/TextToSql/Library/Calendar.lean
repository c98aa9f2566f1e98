import Mathlib.Data.Int.SuccPred
import Mathlib.Order.GaloisConnection.Basic
import Mathlib.Order.Interval.Set.Disjoint
import Mathlib.Tactic
import Mathlib.Order.CompletePartialOrder

namespace TextToSql.Library

namespace Periods

variable {α : Type} [LinearOrder α] {first : ℤ → α} {period : α → ℤ}

theorem mem_Ico_iff (h : GaloisConnection first period) {i : ℤ} {t : α} :
    t ∈ Set.Ico (first i) (first (i + 1)) ↔ period t = i := by
  have hlower : first i ≤ t ↔ i ≤ period t := h i t
  have hupper : first (i + 1) ≤ t ↔ i + 1 ≤ period t := h (i + 1) t
  rw [Set.mem_Ico, hlower, ← not_le, hupper]
  omega

theorem first_le (h : GaloisConnection first period) (t : α) : first (period t) ≤ t :=
  h.l_u_le t

theorem lt_first_succ (h : GaloisConnection first period) (t : α) : t < first (period t + 1) :=
  ((mem_Ico_iff h).mpr rfl).2

theorem disjoint_Ico (h : GaloisConnection first period) {i j : ℤ} (hij : i ≠ j) :
    Disjoint (Set.Ico (first i) (first (i + 1))) (Set.Ico (first j) (first (j + 1))) := by
  rw [Set.disjoint_left]
  intro t hi hj
  rw [mem_Ico_iff h] at hi hj
  exact hij (hi.symm.trans hj)

theorem grouped (h : GaloisConnection first period) {n : ℤ} (hn : 0 < n) :
    GaloisConnection (fun i ↦ first (i * n)) (fun t ↦ period t / n) := by
  intro i t
  exact (h (i * n) t).trans (Int.le_ediv_iff_mul_le hn).symm

end Periods

namespace Calendar

def IsLeap (year : ℤ) : Prop := year % 4 = 0 ∧ (year % 100 ≠ 0 ∨ year % 400 = 0)

instance (year : ℤ) : Decidable (IsLeap year) := inferInstanceAs (Decidable (_ ∧ _))

def daysInMonth (year month : ℤ) : ℤ :=
  if month = 2 then if IsLeap year then 29 else 28
  else if month = 4 ∨ month = 6 ∨ month = 9 ∨ month = 11 then 30
  else 31

def daysBeforeYear (year : ℤ) : ℤ :=
  (year - 1) * 365 + (year - 1) / 4 - (year - 1) / 100 + (year - 1) / 400

def daysBeforeMonth (year month : ℤ) : ℤ :=
  (367 * month - 362) / 12 - if month ≤ 2 then 0 else if IsLeap year then 1 else 2

theorem daysBeforeYear_succ (year : ℤ) :
    daysBeforeYear (year + 1) = daysBeforeYear year + if IsLeap year then 366 else 365 := by
  by_cases hleap : IsLeap year
  · rw [if_pos hleap, daysBeforeYear, daysBeforeYear]
    rw [IsLeap] at hleap
    omega
  · rw [if_neg hleap, daysBeforeYear, daysBeforeYear]
    rw [IsLeap] at hleap
    omega

theorem daysBeforeMonth_succ {year month : ℤ} (h₁ : 1 ≤ month) (h₂ : month ≤ 11) :
    daysBeforeMonth year (month + 1) = daysBeforeMonth year month + daysInMonth year month := by
  simp only [daysBeforeMonth, daysInMonth]
  interval_cases month <;> by_cases hleap : IsLeap year <;> simp [hleap]

theorem one_le_daysInMonth (year month : ℤ) : 1 ≤ daysInMonth year month := by
  simp only [daysInMonth]
  split_ifs <;> omega

@[ext] structure Date where
  year : ℤ
  month : ℤ
  day : ℤ
  month_range : 1 ≤ month ∧ month ≤ 12
  day_range : 1 ≤ day ∧ day ≤ daysInMonth year month
  deriving DecidableEq

def dayBefore (index : ℤ) : ℤ :=
  daysBeforeYear (index / 12) + daysBeforeMonth (index / 12) (index % 12 + 1)

theorem dayBefore_succ (index : ℤ) :
    dayBefore (index + 1) =
      dayBefore index + daysInMonth (index / 12) (index % 12 + 1) := by
  by_cases hlast : index % 12 = 11
  · have hyear : (index + 1) / 12 = index / 12 + 1 := by omega
    have hmonth : (index + 1) % 12 = 0 := by omega
    rw [dayBefore, dayBefore, hyear, hmonth, hlast, daysBeforeYear_succ]
    by_cases hleap : IsLeap (index / 12) <;>
      simp [daysBeforeMonth, daysInMonth, hleap] <;> omega
  · have hyear : (index + 1) / 12 = index / 12 := by omega
    have hmonth : (index + 1) % 12 = index % 12 + 1 := by omega
    rw [dayBefore, dayBefore, hyear, hmonth, daysBeforeMonth_succ (by omega) (by omega),
      add_assoc]

theorem dayBefore_strictMono : StrictMono dayBefore := by
  apply strictMono_int_of_lt_succ
  intro index
  have hlength := one_le_daysInMonth (index / 12) (index % 12 + 1)
  rw [dayBefore_succ]
  omega

namespace Date

variable (d : Date)

def monthIndex : ℤ := d.year * 12 + (d.month - 1)

/-- The first day of year one has the number one. -/
def toOrdinal : ℤ := daysBeforeYear d.year + daysBeforeMonth d.year d.month + d.day

def weekday : ℤ := (d.toOrdinal + 6) % 7

theorem monthIndex_div : d.monthIndex / 12 = d.year := by
  have := d.month_range
  rw [monthIndex]
  omega

theorem monthIndex_mod : d.monthIndex % 12 + 1 = d.month := by
  have := d.month_range
  rw [monthIndex]
  omega

theorem toOrdinal_eq : d.toOrdinal = dayBefore d.monthIndex + d.day := by
  rw [toOrdinal, dayBefore, monthIndex_div, monthIndex_mod]

theorem dayBefore_lt_iff (index : ℤ) : dayBefore index < d.toOrdinal ↔ index ≤ d.monthIndex := by
  have hday := d.day_range
  have hnext : d.toOrdinal ≤ dayBefore (d.monthIndex + 1) := by
    rw [dayBefore_succ, monthIndex_div, monthIndex_mod, toOrdinal_eq]
    omega
  constructor
  · intro h
    exact Int.lt_add_one_iff.mp (dayBefore_strictMono.lt_iff_lt.mp (h.trans_le hnext))
  · intro h
    have := dayBefore_strictMono.monotone h
    rw [toOrdinal_eq]
    omega

theorem toOrdinal_injective : Function.Injective toOrdinal := by
  intro d e h
  have hindex : d.monthIndex = e.monthIndex := by
    apply le_antisymm
    · rw [← dayBefore_lt_iff, ← h, dayBefore_lt_iff]
    · rw [← dayBefore_lt_iff, h, dayBefore_lt_iff]
  apply Date.ext
  · rw [← monthIndex_div, hindex, monthIndex_div]
  · rw [← monthIndex_mod, hindex, monthIndex_mod]
  · rw [toOrdinal_eq, toOrdinal_eq, hindex] at h
    omega

def ofMonth (index : ℤ) : Date where
  year := index / 12
  month := index % 12 + 1
  day := 1
  month_range := by omega
  day_range := ⟨le_rfl, one_le_daysInMonth _ _⟩

@[simp] theorem monthIndex_ofMonth (index : ℤ) : (ofMonth index).monthIndex = index := by
  simp only [monthIndex, ofMonth]
  omega

theorem toOrdinal_ofMonth (index : ℤ) : (ofMonth index).toOrdinal = dayBefore index + 1 := by
  rw [toOrdinal_eq, monthIndex_ofMonth, ofMonth]

def prev : Date :=
  if h : 1 < d.day then
    { d with
      day := d.day - 1
      day_range := by
        have := d.day_range
        omega }
  else
    { year := (d.monthIndex - 1) / 12
      month := (d.monthIndex - 1) % 12 + 1
      day := daysInMonth ((d.monthIndex - 1) / 12) ((d.monthIndex - 1) % 12 + 1)
      month_range := by omega
      day_range := ⟨one_le_daysInMonth _ _, le_rfl⟩ }

def next : Date :=
  if h : d.day < daysInMonth d.year d.month then
    { d with
      day := d.day + 1
      day_range := by
        have := d.day_range
        omega }
  else ofMonth (d.monthIndex + 1)

@[simp] theorem toOrdinal_prev : d.prev.toOrdinal = d.toOrdinal - 1 := by
  have hday := d.day_range
  rw [prev]
  split
  · simp only [toOrdinal]
    omega
  · have hlast := dayBefore_succ (d.monthIndex - 1)
    rw [sub_add_cancel] at hlast
    have hone : d.day = 1 := by omega
    rw [toOrdinal_eq, toOrdinal_eq d, hlast, hone, monthIndex]
    simp only [add_sub_cancel_right, Int.ediv_mul_add_emod]

@[simp] theorem toOrdinal_next : d.next.toOrdinal = d.toOrdinal + 1 := by
  have hday := d.day_range
  rw [next]
  split
  · simp only [toOrdinal]
    omega
  · have hlast : d.day = daysInMonth d.year d.month := by omega
    rw [toOrdinal_ofMonth, dayBefore_succ, monthIndex_div, monthIndex_mod, toOrdinal_eq, hlast]

@[simp] theorem toOrdinal_prev_iterate (n : ℕ) : (prev^[n] d).toOrdinal = d.toOrdinal - n := by
  induction n with
  | zero => simp
  | succ n ih =>
    rw [Function.iterate_succ_apply', toOrdinal_prev, ih]
    push_cast
    omega

@[simp] theorem toOrdinal_next_iterate (n : ℕ) : (next^[n] d).toOrdinal = d.toOrdinal + n := by
  induction n with
  | zero => simp
  | succ n ih =>
    rw [Function.iterate_succ_apply', toOrdinal_next, ih]
    push_cast
    omega

def ofOrdinal (n : ℤ) : Date :=
  if 1 ≤ n then next^[(n - 1).toNat] (ofMonth 12) else prev^[(1 - n).toNat] (ofMonth 12)

@[simp] theorem toOrdinal_ofOrdinal (n : ℤ) : (ofOrdinal n).toOrdinal = n := by
  have hfirst : (ofMonth 12).toOrdinal = 1 := by decide
  rw [ofOrdinal]
  split
  · rw [toOrdinal_next_iterate, hfirst]
    omega
  · rw [toOrdinal_prev_iterate, hfirst]
    omega

end Date

def dayMicros : ℕ := 86400000000

/-- A date with a time of day in microseconds. -/
@[ext] structure Moment where
  date : Date
  micros : ℕ
  micros_lt : micros < dayMicros
  deriving DecidableEq

namespace Moment

def instant (t : Moment) : ℤ := t.date.toOrdinal * dayMicros + t.micros

theorem instant_injective : Function.Injective instant := by
  intro t u h
  have ht := t.micros_lt
  have hu := u.micros_lt
  simp only [instant, dayMicros] at h ht hu
  apply Moment.ext
  · apply Date.toOrdinal_injective
    omega
  · omega

instance : LinearOrder Moment := LinearOrder.lift' instant instant_injective

theorem le_iff {t u : Moment} : t ≤ u ↔ t.instant ≤ u.instant := Iff.rfl

def midnight (d : Date) : Moment := ⟨d, 0, by decide⟩

theorem midnight_le_iff {d : Date} {t : Moment} :
    midnight d ≤ t ↔ d.toOrdinal ≤ t.date.toOrdinal := by
  have ht := t.micros_lt
  simp only [le_iff, instant, midnight, dayMicros] at ht ⊢
  omega

theorem galois_month :
    GaloisConnection (fun i ↦ midnight (Date.ofMonth i)) (fun t : Moment ↦ t.date.monthIndex) := by
  intro i t
  rw [midnight_le_iff, Date.toOrdinal_ofMonth, Int.add_one_le_iff, Date.dayBefore_lt_iff]

theorem galois_day :
    GaloisConnection (fun i ↦ midnight (Date.ofOrdinal i)) (fun t : Moment ↦ t.date.toOrdinal) := by
  intro i t
  rw [midnight_le_iff, Date.toOrdinal_ofOrdinal]

theorem galois_week :
    GaloisConnection (fun i ↦ midnight (Date.ofOrdinal (i * 7 + 1)))
      (fun t : Moment ↦ (t.date.toOrdinal - 1) / 7) := by
  intro i t
  change _ ↔ i ≤ (t.date.toOrdinal - 1) / 7
  rw [midnight_le_iff, Date.toOrdinal_ofOrdinal]
  omega

end Moment

end Calendar

end TextToSql.Library
