import RenderBench.Calendar.Civil
import RenderBench.Proofs.Number.Digits

/-!
# `Proofs.Calendar.Stamp` — instants told apart by their stamps

A date belongs to one day: its year, its month and its day of the month give the day again, reckoned in the same cycles
of 400 years. So the stamp of an archive tells the second of an instant, and nothing finer.

## Contents
- `yearOfCycle_bounds`: the year that a day of a cycle falls in.
- `civilDate_injective`: a date belongs to one day.
- `Civil.sameSecond_of_archiveStamp`: the fields of a stamp.
- `archiveStamp_eq_iff`: which stamps are the same.
-/

namespace RenderBench

/-! ## Years of a cycle -/

/-- The days of a cycle of 400 years before the first of March of one of its years. -/
def daysBeforeYear (year : Nat) : Nat := 365 * year + year / 4 - year / 100

/-- The days of a year that begins in March before one of its months. -/
def daysBeforeMonth (march : Nat) : Nat := (153 * march + 2) / 5

/-- The year of a cycle that one of its days is in. -/
def yearOfCycle (inCycle : Nat) : Nat := (inCycle - inCycle / 1460 + inCycle / 36524 - inCycle / 146096) / 365

/-- The last day of a cycle is the leap day of its last year; every other day is in one of four centuries. -/
theorem century_cases {inCycle : Nat} (h : inCycle < 146097) :
    inCycle = 146096 ∨ ∃ century r, century < 4 ∧ r < 36524 ∧ inCycle = 36524 * century + r := by
  by_cases hlast : inCycle = 146096
  · exact .inl hlast
  · exact .inr ⟨inCycle / 36524, inCycle % 36524, by omega, by omega, by omega⟩

theorem yearOfCycle_century {century r : Nat} (hcentury : century < 4) (hr : r < 36524) :
    yearOfCycle (36524 * century + r) = 100 * century + (r - (24 * century + r) / 1460) / 365 := by
  unfold yearOfCycle
  have hlast : (36524 * century + r) / 146096 = 0 := by omega
  have hcenturies : (36524 * century + r) / 36524 = century := by omega
  have hleaps : (36524 * century + r) / 1460 = 25 * century + (24 * century + r) / 1460 := by omega
  rw [hlast, hcenturies, hleaps]
  generalize hq : (24 * century + r) / 1460 = q
  have hqr : q ≤ r := by omega
  omega

theorem daysBeforeYear_century {century z : Nat} (hz : z < 100) :
    daysBeforeYear (100 * century + z) = 36524 * century + 365 * z + z / 4 := by
  unfold daysBeforeYear
  omega

/-- The day of a century falls within the year that is reckoned for it: the leap days before it are counted right. -/
theorem yearOfCentury_bounds {century r : Nat} (hcentury : century < 4) (hr : r < 36524) :
    let z := (r - (24 * century + r) / 1460) / 365
    z < 100 ∧ 365 * z + z / 4 ≤ r ∧ r < 365 * z + z / 4 + 366 := by
  intro z
  generalize hq : (24 * century + r) / 1460 = q at z
  have hleaps : 1460 * q ≤ 24 * century + r ∧ 24 * century + r < 1460 * q + 1460 := by omega
  have hyear : 365 * z ≤ r - q ∧ r - q < 365 * z + 365 := by omega
  have hbefore : z / 4 ≤ q := by omega
  have hafter : q ≤ z / 4 + 1 := by omega
  exact ⟨by omega, by omega, by omega⟩

theorem yearOfCycle_bounds {inCycle : Nat} (h : inCycle < 146097) :
    yearOfCycle inCycle < 400 ∧ daysBeforeYear (yearOfCycle inCycle) ≤ inCycle ∧
      inCycle < daysBeforeYear (yearOfCycle inCycle) + 366 := by
  obtain rfl | ⟨century, r, hcentury, hr, rfl⟩ := century_cases h
  · decide
  · obtain ⟨hz, hbefore, hafter⟩ := yearOfCentury_bounds hcentury hr
    rw [yearOfCycle_century hcentury hr, daysBeforeYear_century hz]
    omega

/-! ## Dates -/

/-- The cycle a day is in; the first one that counts begins in March of the year 0. -/
def cycleOf (days : Int) : Int := (days + 719468) / 146097

/-- The place of a day in its cycle. -/
def inCycleOf (days : Int) : Nat := ((days + 719468) % 146097).toNat

/-- The place of a day in its year, which begins in March. -/
def inYearOf (days : Int) : Nat := inCycleOf days - daysBeforeYear (yearOfCycle (inCycleOf days))

/-- The month of a day of a year, counted from March. -/
def marchOf (inYear : Nat) : Nat := (5 * inYear + 2) / 153

/-- The month of the calendar. -/
def monthOf (march : Nat) : Nat := if march < 10 then march + 3 else march - 9

theorem civilDate_eq (days : Int) :
    civilDate days =
      (yearOfCycle (inCycleOf days) + 400 * cycleOf days + (if monthOf (marchOf (inYearOf days)) ≤ 2 then 1 else 0),
        monthOf (marchOf (inYearOf days)),
        inYearOf days - daysBeforeMonth (marchOf (inYearOf days)) + 1) := rfl

theorem inCycleOf_lt (days : Int) : inCycleOf days < 146097 := by
  unfold inCycleOf
  omega

theorem eq_of_cycle (days : Int) : days = 146097 * cycleOf days + inCycleOf days - 719468 := by
  unfold cycleOf inCycleOf
  omega

theorem inYearOf_lt (days : Int) : inYearOf days < 366 := by
  have h := yearOfCycle_bounds (inCycleOf_lt days)
  unfold inYearOf
  omega

theorem inCycleOf_eq (days : Int) :
    inCycleOf days = daysBeforeYear (yearOfCycle (inCycleOf days)) + inYearOf days := by
  have h := yearOfCycle_bounds (inCycleOf_lt days)
  unfold inYearOf
  omega

theorem daysBeforeMonth_le (inYear : Nat) : daysBeforeMonth (marchOf inYear) ≤ inYear := by
  unfold daysBeforeMonth marchOf
  omega

theorem marchOf_lt {inYear : Nat} (h : inYear < 366) : marchOf inYear < 12 := by
  unfold marchOf
  omega

theorem monthOf_inj {march march' : Nat} (h : march < 12) (h' : march' < 12) (heq : monthOf march = monthOf march') :
    march = march' := by
  unfold monthOf at heq
  split at heq <;> split at heq <;> omega

/-- **A date belongs to one day.** -/
theorem civilDate_injective : Function.Injective civilDate := by
  intro a b h
  rw [civilDate_eq, civilDate_eq] at h
  obtain ⟨hyear, hrest⟩ := Prod.mk.inj h
  obtain ⟨hmonth, hday⟩ := Prod.mk.inj hrest
  have hmarch := monthOf_inj (marchOf_lt (inYearOf_lt a)) (marchOf_lt (inYearOf_lt b)) hmonth
  -- the day of the month gives the day of the year, once the month is known
  have hinYear : inYearOf a = inYearOf b := by
    have ha := daysBeforeMonth_le (inYearOf a)
    have hb := daysBeforeMonth_le (inYearOf b)
    rw [hmarch] at ha hday
    omega
  -- and the year falls into one cycle
  have hyears : yearOfCycle (inCycleOf a) = yearOfCycle (inCycleOf b) ∧ cycleOf a = cycleOf b := by
    have ha := (yearOfCycle_bounds (inCycleOf_lt a)).1
    have hb := (yearOfCycle_bounds (inCycleOf_lt b)).1
    rw [hmonth] at hyear
    omega
  have hinCycle : inCycleOf a = inCycleOf b := by
    rw [inCycleOf_eq a, inCycleOf_eq b, hyears.1, hinYear]
  rw [eq_of_cycle a, eq_of_cycle b, hyears.2, hinCycle]

/-! ## Instants -/

theorem civilDate_month_lt (days : Int) : (civilDate days).2.1 < 100 := by
  have h := marchOf_lt (inYearOf_lt days)
  rw [civilDate_eq]
  show monthOf _ < 100
  unfold monthOf
  split <;> omega

theorem civilDate_day_lt (days : Int) : (civilDate days).2.2 < 100 := by
  have h : inYearOf days < daysBeforeMonth (marchOf (inYearOf days)) + 32 := by
    unfold daysBeforeMonth marchOf
    omega
  rw [civilDate_eq]
  show inYearOf days - _ + 1 < 100
  omega

/-- The seconds of a day that an instant lies after its beginning. -/
def inDayOf (micros : Int) : Nat := (micros / 1000000 % 86400).toNat

theorem inDayOf_lt (micros : Int) : inDayOf micros < 86400 := by
  unfold inDayOf
  omega

theorem Civil.ofMicros_eq (micros : Int) :
    Civil.ofMicros micros =
      ⟨(civilDate (micros / 1000000 / 86400)).1, (civilDate (micros / 1000000 / 86400)).2.1,
        (civilDate (micros / 1000000 / 86400)).2.2, inDayOf micros / 3600, inDayOf micros / 60 % 60,
        inDayOf micros % 60, (micros % 1000000).toNat⟩ := rfl

/-! ## Written fields -/

/-- Fields of two digits can be taken off at the end. -/
theorem append_twoDigits_inj {cs cs' : List Char} {n n' : Nat} (hn : n < 100) (hn' : n' < 100)
    (h : cs ++ paddedDecimal 2 n = cs' ++ paddedDecimal 2 n') : cs = cs' ∧ n = n' := by
  have hlength : (paddedDecimal 2 n).length = (paddedDecimal 2 n').length := by
    rw [length_paddedDecimal (by decide) hn, length_paddedDecimal (by decide) hn']
  obtain ⟨hcs, hdigits⟩ := List.append_inj' h hlength
  exact ⟨hcs, paddedDecimal_inj hdigits⟩

theorem yearDigits_injective : Function.Injective yearDigits := by
  -- a sign is no digit: years of different signs differ in the first character
  have hsign (n m : Nat) (cs : List Char) : '-' :: cs ≠ paddedDecimal n m := by
    intro h
    have hdigit := allDigits_paddedDecimal n m '-' (h ▸ List.mem_cons_self)
    cases hdigit
  intro a b h
  unfold yearDigits at h
  by_cases ha : a < 0 <;> by_cases hb : b < 0
  · rw [if_pos ha, if_pos hb] at h
    have habs := paddedDecimal_inj (List.cons.inj h).2
    omega
  · rw [if_pos ha, if_neg hb] at h
    exact absurd h (hsign _ _ _)
  · rw [if_neg ha, if_pos hb] at h
    exact absurd h.symm (hsign _ _ _)
  · rw [if_neg ha, if_neg hb] at h
    have habs := paddedDecimal_inj h
    omega

/-- Every field after the year has at most two digits. -/
structure Civil.TwoDigits (c : Civil) : Prop where
  month : c.month < 100
  day : c.day < 100
  hour : c.hour < 100
  minute : c.minute < 100
  second : c.second < 100

theorem Civil.twoDigits_ofMicros (micros : Int) : (Civil.ofMicros micros).TwoDigits where
  month := civilDate_month_lt _
  day := civilDate_day_lt _
  hour := by
    have h := inDayOf_lt micros
    show inDayOf micros / 3600 < 100
    omega
  minute := by
    show inDayOf micros / 60 % 60 < 100
    omega
  second := by
    show inDayOf micros % 60 < 100
    omega

/-- Instants that are the same but for a part of a second. -/
def Civil.SameSecond (c c' : Civil) : Prop :=
  c.year = c'.year ∧ c.month = c'.month ∧ c.day = c'.day ∧
    c.hour = c'.hour ∧ c.minute = c'.minute ∧ c.second = c'.second

/-- The fields are taken off one by one, from the last on. -/
theorem Civil.sameSecond_of_archiveStamp {c c' : Civil} (hc : c.TwoDigits) (hc' : c'.TwoDigits)
    (h : c.archiveStamp = c'.archiveStamp) : c.SameSecond c' := by
  unfold Civil.archiveStamp at h
  obtain ⟨h, -⟩ := List.append_inj' (String.ofList_injective h) rfl
  obtain ⟨h, hsecond⟩ := append_twoDigits_inj hc.second hc'.second h
  obtain ⟨h, hminute⟩ := append_twoDigits_inj hc.minute hc'.minute h
  -- the mark between the date and the time of day
  rw [List.append_cons, List.append_cons _ _ (paddedDecimal 2 c'.hour)] at h
  obtain ⟨h, hhour⟩ := append_twoDigits_inj hc.hour hc'.hour h
  obtain ⟨h, -⟩ := List.append_inj' h rfl
  obtain ⟨h, hday⟩ := append_twoDigits_inj hc.day hc'.day h
  obtain ⟨h, hmonth⟩ := append_twoDigits_inj hc.month hc'.month h
  exact ⟨yearDigits_injective h, hmonth, hday, hhour, hminute, hsecond⟩

theorem Civil.SameSecond.second {now later : Int}
    (h : (Civil.ofMicros now).SameSecond (Civil.ofMicros later)) : now / 1000000 = later / 1000000 := by
  obtain ⟨hyear, hmonth, hday, hhour, hminute, hsecond⟩ := h
  have hdays := civilDate_injective (Prod.ext hyear (Prod.ext hmonth hday))
  have hinDay : inDayOf now = inDayOf later := by
    simp only [Civil.ofMicros_eq] at hhour hminute hsecond
    omega
  unfold inDayOf at hinDay
  omega

/-- **The stamp of an archive tells the second, and nothing finer.** -/
theorem archiveStamp_eq_iff {now later : Int} :
    (Civil.ofMicros now).archiveStamp = (Civil.ofMicros later).archiveStamp ↔
      now / 1000000 = later / 1000000 := by
  constructor
  · intro h
    exact (Civil.sameSecond_of_archiveStamp (Civil.twoDigits_ofMicros now) (Civil.twoDigits_ofMicros later) h).second
  · intro h
    rw [Civil.ofMicros_eq, Civil.ofMicros_eq, inDayOf, inDayOf, h]
    rfl

end RenderBench
