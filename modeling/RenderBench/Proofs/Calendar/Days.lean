import Mathlib.Tactic.IntervalCases
import RenderBench.Proofs.Calendar.Stamp

/-!
# `Proofs.Calendar.Days` — days counted through the calendar

The day that a date stands for can be counted from the rules of the calendar: the lengths of the years before it, of the
months before it in its year, and its day of the month. The civil date of a day is a date of that calendar, and counting
leads back to the day. So later days have later dates.

## Contents
- `isLeapYear`, `monthLength`, `daysToYear`, `daysToMonth`, `dayNumber`: the calendar, and counting.
- `Dated`: dates that the calendar has.
- `daysToYear_eq`, `daysToMonth_march`: what is counted, reckoned.
- `civilDate_dated`: the civil date of a day.
- `DateBefore`, `dateBefore_of_lt`: the order of dates.
-/

namespace RenderBench

/-! ## The calendar -/

/-- Every fourth year has a leap day, but of the last years of centuries only every fourth. -/
def isLeapYear (year : Nat) : Bool := year % 4 == 0 && (year % 100 != 0 || year % 400 == 0)

def yearLength (year : Nat) : Nat := if isLeapYear year then 366 else 365

def monthLength (year month : Nat) : Nat :=
  match month with
  | 2 => if isLeapYear year then 29 else 28
  | 4 | 6 | 9 | 11 => 30
  | _ => 31

/-- The days from the beginning of the year 0 to that of a year. -/
def daysToYear : Nat → Nat
  | 0 => 0
  | year + 1 => daysToYear year + yearLength year

/-- The days of a year before one of its months. -/
def daysToMonth (year : Nat) : Nat → Nat
  | 0 => 0
  | 1 => 0
  | month + 2 => daysToMonth year (month + 1) + monthLength year (month + 1)

/-- The day that a date stands for, counted from the start of 1970. -/
def dayNumber (year month day : Nat) : Int :=
  (daysToYear year + daysToMonth year month + day : Nat) - ((daysToYear 1970 + 1 : Nat) : Int)

/-- A date that the calendar has. -/
structure Dated (year month day : Nat) : Prop where
  month_pos : 1 ≤ month
  month_le : month ≤ 12
  day_pos : 1 ≤ day
  day_le : day ≤ monthLength year month

/-! ## Counting -/

theorem isLeapYear_iff (year : Nat) : isLeapYear year = true ↔ year % 4 = 0 ∧ (year % 100 ≠ 0 ∨ year % 400 = 0) := by
  simp [isLeapYear]

/-- The leap days before a year are those of the fourth years, without the centuries that have none. -/
theorem daysToYear_eq (year : Nat) :
    daysToYear (year + 1) = 365 * (year + 1) + year / 4 - year / 100 + year / 400 + 1 := by
  induction year with
  | zero => decide
  | succ year ih =>
    rw [daysToYear, ih, yearLength]
    -- the three quotients move on at the years that the rule of leap years looks at
    have hleap := isLeapYear_iff (year + 1)
    cases h : isLeapYear (year + 1) with
    | true =>
      have hyear := hleap.mp h
      simp only [if_true]
      omega
    | false =>
      have hyear : ¬ ((year + 1) % 4 = 0 ∧ ((year + 1) % 100 ≠ 0 ∨ (year + 1) % 400 = 0)) := by
        rw [← hleap, h]
        exact Bool.false_ne_true
      simp only [Bool.false_eq_true, if_false]
      omega

/-- From March on the days before a month do not depend on the year, but for the leap day. -/
theorem daysToMonth_march {march : Nat} (year : Nat) (h : march < 10) :
    daysToMonth year (march + 3) = (if isLeapYear year then 60 else 59) + daysBeforeMonth march := by
  have hfirst : daysToMonth year 3 = if isLeapYear year then 60 else 59 := by
    show 0 + monthLength year 1 + monthLength year 2 = _
    simp only [monthLength]
    split <;> rfl
  interval_cases march <;> simp only [daysToMonth, monthLength, daysBeforeMonth] at hfirst ⊢ <;> omega

theorem monthLength_march {march : Nat} (year : Nat) (h : march < 10) :
    monthLength year (march + 3) = daysBeforeMonth (march + 1) - daysBeforeMonth march := by
  interval_cases march <;> rfl

/-! ## The civil date of a day -/

/-- Only a year that begins in March before a leap year has 366 days. -/
theorem leap_of_long {inCycle : Nat} (h : inCycle < 146097)
    (hlong : inCycle = daysBeforeYear (yearOfCycle inCycle) + 365) :
    (yearOfCycle inCycle + 1) % 4 = 0 ∧
      ((yearOfCycle inCycle + 1) % 100 ≠ 0 ∨ (yearOfCycle inCycle + 1) % 400 = 0) := by
  obtain rfl | ⟨century, r, hcentury, hr, rfl⟩ := century_cases h
  · decide
  · have hz := (yearOfCentury_bounds hcentury hr).1
    have hyear := yearOfCycle_century hcentury hr
    rw [hyear, daysBeforeYear_century hz] at hlong
    rw [hyear]
    -- a leap day more has passed than there are fourth years before
    generalize hq : (24 * century + r) / 1460 = q at hz hlong ⊢
    generalize hquotient : (r - q) / 365 = z at hz hlong ⊢
    have hlength : r = 365 * z + z / 4 + 365 := by omega
    have hyears : r - q < 365 * z + 365 := by omega
    have hleaps : z / 4 + 1 ≤ q := by omega
    have hfourth : z % 4 = 3 := by omega
    have hlast : z < 99 := by omega
    omega

/-- The year that begins in March and holds a day, counted from the year 0. -/
def marchYearOf (days : Int) : Int := yearOfCycle (inCycleOf days) + 400 * cycleOf days

/-- A day, reckoned from the year that begins in March. -/
theorem days_eq (days : Int) :
    days = 365 * marchYearOf days + marchYearOf days / 4 - marchYearOf days / 100 + marchYearOf days / 400 +
      inYearOf days - 719468 := by
  have hyear := (yearOfCycle_bounds (inCycleOf_lt days)).1
  have hinCycle := inCycleOf_eq days
  have hdays := eq_of_cycle days
  rw [hinCycle] at hdays
  unfold marchYearOf
  unfold daysBeforeYear at hdays
  omega

/-- The fields of the civil date of a day. -/
theorem civilDate_fields (days : Int) :
    civilDate days =
      (marchYearOf days + (if monthOf (marchOf (inYearOf days)) ≤ 2 then 1 else 0),
        monthOf (marchOf (inYearOf days)), inYearOf days - daysBeforeMonth (marchOf (inYearOf days)) + 1) := rfl

theorem daysToYear_1970 : daysToYear 1970 = 719528 := daysToYear_eq 1969

/-- The day after the last one of a month is the first of the next. -/
theorem inYear_lt (inYear : Nat) : inYear < daysBeforeMonth (marchOf inYear + 1) := by
  unfold daysBeforeMonth marchOf
  omega

/-- The fields of the civil date of a day from 1970 on, with the year as a natural number. -/
theorem exists_marchYear {days : Int} (h : 0 ≤ days) :
    ∃ year : Nat, marchYearOf days = year ∧ (inYearOf days = 365 → isLeapYear (year + 1) = true) := by
  have hyear := (yearOfCycle_bounds (inCycleOf_lt days)).1
  have hcycle : 0 ≤ cycleOf days := by
    unfold cycleOf
    omega
  refine ⟨(marchYearOf days).toNat, by unfold marchYearOf; omega, fun hlong => ?_⟩
  have hleap := leap_of_long (inCycleOf_lt days) (by rw [← hlong]; exact inCycleOf_eq days)
  rw [isLeapYear_iff]
  unfold marchYearOf
  omega

/-- The calendar's year of a day of a year that begins in March. -/
def calendarYear (year inYear : Nat) : Nat := if monthOf (marchOf inYear) ≤ 2 then year + 1 else year

/-- The day of the month. -/
def dayOfMonth (inYear : Nat) : Nat := inYear - daysBeforeMonth (marchOf inYear) + 1

/-- The leap day of a year, counted. -/
theorem daysToYear_march {year : Nat} (h : 1 ≤ year) :
    daysToYear year + (if isLeapYear year then 60 else 59) =
      365 * year + year / 4 - year / 100 + year / 400 + 60 := by
  have hyears := daysToYear_eq (year - 1)
  have hpos : year - 1 + 1 = year := by omega
  have hleap := isLeapYear_iff year
  rw [hpos] at hyears
  cases h : isLeapYear year with
  | true =>
    have hrule := hleap.mp h
    simp only [if_true]
    omega
  | false =>
    have hrule : ¬ (year % 4 = 0 ∧ (year % 100 ≠ 0 ∨ year % 400 = 0)) := by
      rw [← hleap, h]
      exact Bool.false_ne_true
    simp only [Bool.false_eq_true, if_false]
    omega

/-- A day of a year that begins in March, from its date in the calendar. -/
theorem dated_march {year inYear : Nat} (hyear : 1 ≤ year) (hlt : inYear < 366)
    (hlong : inYear = 365 → isLeapYear (year + 1) = true) :
    Dated (calendarYear year inYear) (monthOf (marchOf inYear)) (dayOfMonth inYear) ∧
      daysToYear (calendarYear year inYear) + daysToMonth (calendarYear year inYear) (monthOf (marchOf inYear)) +
          dayOfMonth inYear =
        365 * year + year / 4 - year / 100 + year / 400 + inYear + 61 := by
  have hmarch := marchOf_lt hlt
  have hbefore := daysBeforeMonth_le inYear
  have hafter := inYear_lt inYear
  unfold calendarYear dayOfMonth
  generalize marchOf inYear = march at hmarch hbefore hafter ⊢
  by_cases hfirst : march < 10
  · -- from March to December
    have hmonth : monthOf march = march + 3 := if_pos hfirst
    have hlength := monthLength_march year hfirst
    have hcount := daysToMonth_march year hfirst
    have hyears := daysToYear_march hyear
    rw [hmonth, if_neg (by omega : ¬ march + 3 ≤ 2)]
    exact ⟨⟨by omega, by omega, by omega, by omega⟩, by omega⟩
  · -- January and February belong to the next year
    have hyears := daysToYear_eq year
    have hcases : march = 10 ∨ march = 11 := by omega
    rcases hcases with rfl | rfl
    · have hlength : monthLength (year + 1) 1 = 31 := rfl
      have hcount : daysToMonth (year + 1) 1 = 0 := rfl
      have hstart : daysBeforeMonth 10 = 306 := rfl
      have hend : inYear < 337 := hafter
      show Dated (year + 1) 1 _ ∧ daysToYear (year + 1) + daysToMonth (year + 1) 1 + _ = _
      exact ⟨⟨by omega, by omega, by omega, by omega⟩, by omega⟩
    · have hlength : monthLength (year + 1) 2 = if isLeapYear (year + 1) then 29 else 28 := rfl
      have hcount : daysToMonth (year + 1) 2 = 31 := rfl
      have hstart : daysBeforeMonth 11 = 337 := rfl
      have hlast : inYear - 337 + 1 ≤ monthLength (year + 1) 2 := by
        rw [hlength]
        split
        · omega
        · next hleap =>
          have hshort : inYear ≠ 365 := fun h => hleap (hlong h)
          omega
      show Dated (year + 1) 2 _ ∧ daysToYear (year + 1) + daysToMonth (year + 1) 2 + _ = _
      exact ⟨⟨by omega, by omega, by omega, by omega⟩, by omega⟩

/-- **The civil date of a day** from 1970 on is a date of the calendar, and counting leads from it to the day. -/
theorem civilDate_dated {days : Int} (h : 0 ≤ days) :
    ∃ year : Nat, (civilDate days).1 = year ∧
      Dated year (civilDate days).2.1 (civilDate days).2.2 ∧
      dayNumber year (civilDate days).2.1 (civilDate days).2.2 = days := by
  obtain ⟨year, hyear, hlong⟩ := exists_marchYear h
  have hdays := days_eq days
  have hinYear := inYearOf_lt days
  rw [hyear] at hdays
  have hpos : 1 ≤ year := by omega
  obtain ⟨hdated, hcount⟩ := dated_march hpos hinYear hlong
  refine ⟨calendarYear year (inYearOf days), ?_, hdated, ?_⟩
  · rw [civilDate_fields, hyear, calendarYear]
    dsimp only
    split <;> simp
  · show dayNumber _ (monthOf (marchOf (inYearOf days))) (dayOfMonth (inYearOf days)) = days
    rw [dayNumber, hcount, daysToYear_1970]
    omega

/-! ## The order of dates -/

/-- An earlier year, or an earlier month of it, or an earlier day of that. -/
def DateBefore (year month day year' month' day' : Nat) : Prop :=
  year < year' ∨ year = year' ∧ (month < month' ∨ month = month' ∧ day < day')

theorem daysToYear_mono {year year' : Nat} (h : year ≤ year') : daysToYear year ≤ daysToYear year' := by
  induction h with
  | refl => exact le_refl _
  | step _ ih => exact ih.trans (Nat.le_add_right _ _)

theorem daysToMonth_mono {month month' : Nat} (year : Nat) (h : month ≤ month') :
    daysToMonth year month ≤ daysToMonth year month' := by
  induction h with
  | refl => exact le_refl _
  | @step last _ ih =>
    cases last with
    | zero => exact ih
    | succ last => exact ih.trans (Nat.le_add_right _ _)

/-- The months make up the year. -/
theorem daysToMonth_thirteen (year : Nat) : daysToMonth year 13 = yearLength year := by
  have hmonths := @daysToMonth_march 9 year (by decide)
  have hbefore : daysBeforeMonth 9 = 275 := rfl
  have hlast : daysToMonth year 13 = daysToMonth year 12 + 31 := rfl
  rw [hlast, hmonths, hbefore, yearLength]
  split <;> rfl

variable {year month day year' month' day' : Nat}

theorem Dated.lt_daysToMonth (h : Dated year month day) :
    daysToMonth year month + day ≤ daysToMonth year (month + 1) := by
  obtain ⟨hpos, -, -, hday⟩ := h
  obtain ⟨month, rfl⟩ := Nat.exists_eq_add_of_le' hpos
  exact Nat.add_le_add_left hday _

/-- Counting keeps the order of dates. -/
theorem dayNumber_lt (h : Dated year month day) (h' : Dated year' month' day')
    (hlt : DateBefore year month day year' month' day') : dayNumber year month day < dayNumber year' month' day' := by
  have hday := h.lt_daysToMonth
  have hpos := h'.day_pos
  unfold dayNumber
  rcases hlt with hyear | ⟨rfl, hmonth | ⟨rfl, hdays⟩⟩
  · have hyears : daysToYear year + yearLength year ≤ daysToYear year' := daysToYear_mono hyear
    have hmonths : daysToMonth year (month + 1) ≤ daysToMonth year 13 :=
      daysToMonth_mono year (Nat.succ_le_succ h.month_le)
    rw [daysToMonth_thirteen] at hmonths
    omega
  · have hmonths : daysToMonth year (month + 1) ≤ daysToMonth year month' := daysToMonth_mono year hmonth
    omega
  · omega

theorem dateBefore_or (year month day year' month' day' : Nat) :
    DateBefore year month day year' month' day' ∨ (year = year' ∧ month = month' ∧ day = day') ∨
      DateBefore year' month' day' year month day := by
  unfold DateBefore
  omega

/-- **A later day has a later date.** -/
theorem dateBefore_of_lt (h : Dated year month day) (h' : Dated year' month' day')
    (hlt : dayNumber year month day < dayNumber year' month' day') : DateBefore year month day year' month' day' := by
  rcases dateBefore_or year month day year' month' day' with hbefore | ⟨rfl, rfl, rfl⟩ | hafter
  · exact hbefore
  · exact absurd hlt (lt_irrefl _)
  · exact absurd hlt (not_lt.mpr (dayNumber_lt h' h hafter).le)

end RenderBench
