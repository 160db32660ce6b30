import RenderBench.Number.Decimal

/-!
# `Calendar.Civil` — instants and civil dates

An instant is a count of microseconds since the start of 1970 in universal time; the civil date follows
the Gregorian rules, reckoned in cycles of 400 years that begin in March.

## Contents
- `Civil`, `Civil.ofMicros`: the fields of an instant.
- `archiveStamp`, `isoTimestamp`, `clockTime`: the three written forms.
-/

namespace RenderBench

/-- A date and a time of day in universal time. -/
structure Civil where
  year : Int
  month : Nat
  day : Nat
  hour : Nat
  minute : Nat
  second : Nat
  microsecond : Nat
  deriving DecidableEq, Repr

/-- The year, month and day of a number of days since the start of 1970. -/
def civilDate (days : Int) : Int × Nat × Nat :=
  let shifted := days + 719468
  let cycle := shifted / 146097
  let inCycle := (shifted % 146097).toNat
  let year := (inCycle - inCycle / 1460 + inCycle / 36524 - inCycle / 146096) / 365
  let inYear := inCycle - (365 * year + year / 4 - year / 100)
  let march := (5 * inYear + 2) / 153
  let day := inYear - (153 * march + 2) / 5 + 1
  let month := if march < 10 then march + 3 else march - 9
  let y : Int := year + 400 * cycle + (if month ≤ 2 then 1 else 0)
  (y, month, day)

/-- The civil fields of an instant given in microseconds. -/
def Civil.ofMicros (micros : Int) : Civil :=
  let seconds := micros / 1000000
  let days := seconds / 86400
  let inDay := (seconds % 86400).toNat
  let (year, month, day) := civilDate days
  { year, month, day
    hour := inDay / 3600
    minute := inDay / 60 % 60
    second := inDay % 60
    microsecond := (micros % 1000000).toNat }

/-- A year in at least four digits. -/
def yearDigits (y : Int) : List Char :=
  if y < 0 then '-' :: paddedDecimal 4 y.natAbs else paddedDecimal 4 y.natAbs

/-- The form in archive names, `20231114T221320Z`. -/
def Civil.archiveStamp (c : Civil) : String :=
  String.ofList (yearDigits c.year ++ paddedDecimal 2 c.month ++ paddedDecimal 2 c.day ++
    'T' :: paddedDecimal 2 c.hour ++ paddedDecimal 2 c.minute ++ paddedDecimal 2 c.second ++ ['Z'])

/-- The date part, `2023-11-14`. -/
def Civil.dateChars (c : Civil) : List Char :=
  yearDigits c.year ++ '-' :: paddedDecimal 2 c.month ++ '-' :: paddedDecimal 2 c.day

/-- The time of day, `22:13:20`. -/
def Civil.timeChars (c : Civil) : List Char :=
  paddedDecimal 2 c.hour ++ ':' :: paddedDecimal 2 c.minute ++ ':' :: paddedDecimal 2 c.second

/-- The form in stored results, `2023-11-14T22:13:20.123456+00:00`; a fraction of zero is left out. -/
def Civil.isoTimestamp (c : Civil) : String :=
  let fraction := if c.microsecond = 0 then [] else '.' :: paddedDecimal 6 c.microsecond
  String.ofList (c.dateChars ++ 'T' :: c.timeChars ++ fraction ++ "+00:00".toList)

/-- The form in log lines, `2023-11-14 22:13:20`. -/
def Civil.clockTime (c : Civil) : String :=
  String.ofList (c.dateChars ++ ' ' :: c.timeChars)

end RenderBench
