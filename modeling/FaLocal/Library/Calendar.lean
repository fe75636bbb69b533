import Mathlib.Algebra.Order.Ring.Int
import Mathlib.Data.List.Lex
import Mathlib.Data.Nat.Find
import Mathlib.Order.Monotone.Basic
import Mathlib.Tactic.Common

/-!
# Civil times

The times of the years 0000 to 9999 in the Gregorian calendar, and the instants that they
name: nanoseconds from the beginning of 1970, in days of 86400 seconds. The fields of a time
compare as its instant does, and every instant of these years is that of one time.
-/
namespace Calendar

/-! ## Days -/

def isLeap (year : Nat) : Bool := year % 4 == 0 && (year % 100 != 0 || year % 400 == 0)

def monthLength (year : Nat) : Nat → Nat
  | 2 => if isLeap year then 29 else 28
  | 4 | 6 | 9 | 11 => 30
  | _ => 31

theorem monthLength_le (year month : Nat) : monthLength year month ≤ 31 := by
  rw [monthLength.eq_def]
  split
  · split <;> decide
  all_goals decide

/-- The days of the first months of a year. -/
def daysOfMonths (year : Nat) : Nat → Nat
  | 0 => 0
  | n + 1 => daysOfMonths year n + monthLength year (n + 1)

/-- The days of the first years; one in four is leap, but for the centuries. -/
def daysOfYears (n : Nat) : Nat := 365 * n + (n + 3) / 4 - (n + 99) / 100 + (n + 399) / 400

theorem daysOfMonths_year (year : Nat) :
    daysOfMonths year 12 = if isLeap year then 366 else 365 := by
  cases h : isLeap year <;> simp [daysOfMonths, monthLength, h]

theorem isLeap_iff {year : Nat} :
    isLeap year = true ↔ year % 4 = 0 ∧ (year % 100 ≠ 0 ∨ year % 400 = 0) := by
  simp [isLeap]

/-- A year is as long as its months. -/
theorem daysOfYears_succ (n : Nat) : daysOfYears (n + 1) = daysOfYears n + daysOfMonths n 12 := by
  have h4 : (n + 1 + 3) / 4 = (n + 3) / 4 + if n % 4 = 0 then 1 else 0 := by
    split <;> omega
  have h100 : (n + 1 + 99) / 100 = (n + 99) / 100 + if n % 100 = 0 then 1 else 0 := by
    split <;> omega
  have h400 : (n + 1 + 399) / 400 = (n + 399) / 400 + if n % 400 = 0 then 1 else 0 := by
    split <;> omega
  have hcenturies : (n + 99) / 100 ≤ n := by omega
  have hfour : n % 100 = 0 → n % 4 = 0 := by omega
  have hcentury : n % 400 = 0 → n % 100 = 0 := by omega
  have hleap : (if isLeap n then 366 else 365) = 365 + (if n % 4 = 0 then 1 else 0) -
      (if n % 100 = 0 then 1 else 0) + if n % 400 = 0 then 1 else 0 := by
    simp only [isLeap_iff]
    by_cases h₁ : n % 4 = 0 <;> by_cases h₂ : n % 100 = 0 <;> by_cases h₃ : n % 400 = 0 <;>
      simp_all
  rw [daysOfMonths_year, daysOfYears, daysOfYears, h4, h100, h400, hleap]
  by_cases h₁ : n % 4 = 0 <;> by_cases h₂ : n % 100 = 0 <;> simp only [h₁, h₂, if_true, if_false]
  · omega
  · omega
  · exact absurd (hfour h₂) h₁
  · omega

theorem daysOfMonths_mono (year : Nat) : Monotone (daysOfMonths year) :=
  monotone_nat_of_le_succ fun _ => Nat.le_add_right _ _

theorem daysOfYears_mono : Monotone daysOfYears := by
  refine monotone_nat_of_le_succ fun n => ?_
  rw [daysOfYears_succ]
  exact Nat.le_add_right _ _

/-- The block that a number falls into, of blocks one behind the other. -/
theorem findGreatest_block {before : Nat → Nat} (hzero : before 0 = 0) {bound k : Nat}
    (hbound : k < before (bound + 1)) :
    before (Nat.findGreatest (before · ≤ k) bound) ≤ k ∧
      k < before (Nat.findGreatest (before · ≤ k) bound + 1) := by
  have hfirst : before 0 ≤ k := by
    rw [hzero]
    exact Nat.zero_le k
  refine ⟨Nat.findGreatest_spec (P := (before · ≤ k)) (Nat.zero_le bound) hfirst, ?_⟩
  by_cases hlast : Nat.findGreatest (before · ≤ k) bound = bound
  · rwa [hlast]
  · have hle := Nat.findGreatest_le (P := (before · ≤ k)) bound
    have hnext : Nat.findGreatest (before · ≤ k) bound + 1 ≤ bound := by omega
    exact not_le.mp (Nat.findGreatest_is_greatest (P := (before · ≤ k)) (Nat.lt_succ_self _) hnext)

/-! ## Times -/

/-- A time of a year that is written in four digits. -/
@[ext] structure CivilTime where
  year : Nat
  month : Nat
  day : Nat
  hour : Nat
  minute : Nat
  second : Nat
  nanosecond : Nat
  year_lt : year < 10000
  month_pos : 1 ≤ month
  month_le : month ≤ 12
  day_pos : 1 ≤ day
  day_le : day ≤ monthLength year month
  hour_lt : hour < 24
  minute_lt : minute < 60
  second_lt : second < 60
  nanosecond_lt : nanosecond < 1000000000

namespace CivilTime

/-- The fields, the greatest unit first. -/
def fields (time : CivilTime) : List Nat :=
  [time.year, time.month, time.day, time.hour, time.minute, time.second, time.nanosecond]

/-- The day of the year, from zero. -/
def yearDay (time : CivilTime) : Nat := daysOfMonths time.year (time.month - 1) + (time.day - 1)

/-- The nanoseconds from the beginning of the year 0000. -/
def nanoseconds (time : CivilTime) : Nat :=
  ((((daysOfYears time.year + time.yearDay) * 24 + time.hour) * 60 + time.minute) * 60 +
    time.second) * 1000000000 + time.nanosecond

/-- The nanoseconds from the beginning of 1970. -/
def instant (time : CivilTime) : Int := time.nanoseconds - 62167219200000000000

theorem fields_inj {a b : CivilTime} (h : a.fields = b.fields) : a = b := by
  simp only [fields, List.cons.injEq, and_true] at h
  obtain ⟨hyear, hmonth, hday, hhour, hminute, hsecond, hnanosecond⟩ := h
  exact CivilTime.ext hyear hmonth hday hhour hminute hsecond hnanosecond

theorem day_le_31 (time : CivilTime) : time.day ≤ 31 :=
  time.day_le.trans (monthLength_le time.year time.month)

/-! ## The order -/

/-- A day ends with its month at the latest. -/
theorem yearDay_lt_month (time : CivilTime) : time.yearDay < daysOfMonths time.year time.month := by
  have hmonth : time.month - 1 + 1 = time.month := Nat.sub_add_cancel time.month_pos
  have hsucc : daysOfMonths time.year (time.month - 1 + 1) =
      daysOfMonths time.year (time.month - 1) + monthLength time.year (time.month - 1 + 1) := rfl
  rw [hmonth] at hsucc
  have hpos := time.day_pos
  have hle := time.day_le
  rw [yearDay]
  omega

/-- And with its year. -/
theorem day_lt_year (time : CivilTime) :
    daysOfYears time.year + time.yearDay < daysOfYears (time.year + 1) := by
  rw [daysOfYears_succ]
  have hmonth := time.yearDay_lt_month
  have hyear := daysOfMonths_mono time.year time.month_le
  omega

/-- An earlier year, month or day is an earlier day. -/
theorem day_lt_of_year {a b : CivilTime} (h : a.year < b.year) :
    daysOfYears a.year + a.yearDay < daysOfYears b.year + b.yearDay :=
  calc daysOfYears a.year + a.yearDay < daysOfYears (a.year + 1) := a.day_lt_year
    _ ≤ daysOfYears b.year := daysOfYears_mono h
    _ ≤ daysOfYears b.year + b.yearDay := Nat.le_add_right _ _

theorem yearDay_lt_of_month {a b : CivilTime} (hyear : a.year = b.year) (h : a.month < b.month) :
    a.yearDay < b.yearDay :=
  calc a.yearDay < daysOfMonths a.year a.month := a.yearDay_lt_month
    _ ≤ daysOfMonths a.year (b.month - 1) := daysOfMonths_mono _ (by omega)
    _ = daysOfMonths b.year (b.month - 1) := by rw [hyear]
    _ ≤ b.yearDay := Nat.le_add_right _ _

theorem yearDay_lt_of_day {a b : CivilTime} (hyear : a.year = b.year) (hmonth : a.month = b.month)
    (h : a.day < b.day) : a.yearDay < b.yearDay := by
  have hpos := a.day_pos
  rw [yearDay, yearDay, hyear, hmonth]
  omega

/-- What is earlier in its fields is an earlier instant. -/
theorem nanoseconds_lt {a b : CivilTime} (h : a.fields < b.fields) :
    a.nanoseconds < b.nanoseconds := by
  have hhour := a.hour_lt
  have hminute := a.minute_lt
  have hsecond := a.second_lt
  have hnanosecond := a.nanosecond_lt
  have hday : daysOfYears a.year + a.yearDay < daysOfYears b.year + b.yearDay →
      a.nanoseconds < b.nanoseconds := by
    intro hday
    rw [nanoseconds, nanoseconds]
    omega
  simp only [fields, List.cons_lt_cons_iff, List.not_lt_nil, and_false, or_false] at h
  rcases h with h | ⟨hy, h | ⟨hm, h | ⟨hd, h⟩⟩⟩
  · exact hday (day_lt_of_year h)
  · rw [hy] at hday
    exact hday (Nat.add_lt_add_left (yearDay_lt_of_month hy h) _)
  · rw [hy] at hday
    exact hday (Nat.add_lt_add_left (yearDay_lt_of_day hy hm h) _)
  · have hsame : a.yearDay = b.yearDay := by rw [yearDay, yearDay, hy, hm, hd]
    rw [nanoseconds, nanoseconds, hy, hsame]
    omega

/-- The instants of two times compare as the times do. -/
theorem instant_lt {a b : CivilTime} (h : a.fields < b.fields) : a.instant < b.instant := by
  have hlt := nanoseconds_lt h
  rw [instant, instant]
  omega

theorem instant_inj {a b : CivilTime} (h : a.instant = b.instant) : a = b := by
  rcases lt_trichotomy a.fields b.fields with hlt | heq | hgt
  · exact absurd h (instant_lt hlt).ne
  · exact fields_inj heq
  · exact absurd h (instant_lt hgt).ne'

/-! ## The time of an instant -/

/-- The year of a day that is counted from the beginning of the year 0000. -/
def yearOf (days : Nat) : Nat := Nat.findGreatest (daysOfYears · ≤ days) (days / 365)

/-- The months in front of a day of a year. -/
def monthsOf (year day : Nat) : Nat := Nat.findGreatest (daysOfMonths year · ≤ day) 11

theorem yearOf_spec (days : Nat) :
    daysOfYears (yearOf days) ≤ days ∧ days < daysOfYears (yearOf days + 1) := by
  refine findGreatest_block rfl ?_
  rw [daysOfYears]
  omega

theorem monthsOf_spec {year day : Nat} (h : day < daysOfMonths year 12) :
    daysOfMonths year (monthsOf year day) ≤ day ∧
      day < daysOfMonths year (monthsOf year day + 1) :=
  findGreatest_block rfl h

theorem monthsOf_le (year day : Nat) : monthsOf year day ≤ 11 := by
  rw [monthsOf]
  exact Nat.findGreatest_le _

/-- The day of its year. -/
theorem yearRest_lt (days : Nat) : days - daysOfYears (yearOf days) <
    daysOfMonths (yearOf days) 12 := by
  obtain ⟨hle, hlt⟩ := yearOf_spec days
  rw [daysOfYears_succ] at hlt
  omega

/-- The first day behind the years. -/
def endOfYears : Nat := daysOfYears 10000

theorem yearOf_lt {days : Nat} (h : days < endOfYears) : yearOf days < 10000 := by
  by_contra hyear
  have hmono := daysOfYears_mono (not_lt.mp hyear)
  rw [← endOfYears] at hmono
  exact absurd (hmono.trans (yearOf_spec days).1) (not_le.mpr h)

/-- The time of an instant of these years, counted from their beginning. -/
def ofNanoseconds (n : Nat) (h : n < endOfYears * 86400000000000) : CivilTime :=
  let days := n / 86400000000000
  let year := yearOf days
  let rest := days - daysOfYears year
  let months := monthsOf year rest
  { year := year
    month := months + 1
    day := rest - daysOfMonths year months + 1
    hour := n / 3600000000000 % 24
    minute := n / 60000000000 % 60
    second := n / 1000000000 % 60
    nanosecond := n % 1000000000
    year_lt := by
      have hdays : days < endOfYears := by omega
      exact yearOf_lt hdays
    month_pos := Nat.le_add_left 1 _
    month_le := Nat.add_le_add_right (monthsOf_le year rest) 1
    day_pos := Nat.le_add_left 1 _
    day_le := by
      have hle : daysOfMonths year months ≤ rest := (monthsOf_spec (yearRest_lt days)).1
      have hlt : rest < daysOfMonths year months + monthLength year (months + 1) :=
        (monthsOf_spec (yearRest_lt days)).2
      omega
    hour_lt := Nat.mod_lt _ (by decide)
    minute_lt := Nat.mod_lt _ (by decide)
    second_lt := Nat.mod_lt _ (by decide)
    nanosecond_lt := Nat.mod_lt _ (by decide) }

theorem nanoseconds_ofNanoseconds {n : Nat} (h : n < endOfYears * 86400000000000) :
    (ofNanoseconds n h).nanoseconds = n := by
  have hyear := (yearOf_spec (n / 86400000000000)).1
  have hmonth := (monthsOf_spec (yearRest_lt (n / 86400000000000))).1
  have hday : daysOfYears (ofNanoseconds n h).year + (ofNanoseconds n h).yearDay =
      n / 86400000000000 := by
    simp only [yearDay, ofNanoseconds, Nat.add_sub_cancel]
    omega
  rw [nanoseconds, hday]
  simp only [ofNanoseconds]
  omega

/-- The time of an instant of these years. -/
def ofInstant (t : Int)
    (h : -62167219200000000000 ≤ t ∧ t < 253402300800000000000) : CivilTime :=
  ofNanoseconds (t + 62167219200000000000).toNat (by
    have hend : endOfYears = 3652425 := rfl
    omega)

theorem instant_ofInstant {t : Int}
    (h : -62167219200000000000 ≤ t ∧ t < 253402300800000000000) :
    (ofInstant t h).instant = t := by
  rw [instant, ofInstant, nanoseconds_ofNanoseconds]
  omega

/-- Every instant of these years is that of a time. -/
theorem exists_instant {t : Int} (h : -62167219200000000000 ≤ t ∧ t < 253402300800000000000) :
    ∃ time : CivilTime, time.instant = t :=
  ⟨_, instant_ofInstant h⟩

/-- And the instants of times are of these years. -/
theorem instant_mem (time : CivilTime) :
    -62167219200000000000 ≤ time.instant ∧ time.instant < 253402300800000000000 := by
  have hday := time.day_lt_year
  have hyear : daysOfYears (time.year + 1) ≤ 3652425 := daysOfYears_mono time.year_lt
  have hhour := time.hour_lt
  have hminute := time.minute_lt
  have hsecond := time.second_lt
  have hnanosecond := time.nanosecond_lt
  rw [instant, nanoseconds]
  omega

@[simp] theorem ofInstant_instant (time : CivilTime) :
    ofInstant time.instant time.instant_mem = time :=
  instant_inj (instant_ofInstant _)

end CivilTime

end Calendar
