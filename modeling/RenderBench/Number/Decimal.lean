/-!
# `Number.Decimal` — decimal digits of whole numbers

Writing and reading whole numbers in decimal, on lists of characters.

## Contents
- `decimalDigits`, `decimalInt`, `paddedDecimal`, `groupedInt`: numbers in decimal.
- `digitValue?`, `natOfDigits`, `spanDigits`: reading digits back.
- `digitLimit`: numerals that are not converted, with the messages of both directions.
-/

namespace RenderBench

/-- The decimal digits of a whole number, without leading zeros. -/
def decimalDigits (n : Nat) : List Char := Nat.toDigits 10 n

/-- A signed whole number in decimal. -/
def decimalInt (i : Int) : List Char :=
  if i < 0 then '-' :: decimalDigits i.natAbs else decimalDigits i.natAbs

/-- The text of a natural number. -/
def natText (n : Nat) : String := String.ofList (decimalDigits n)

/-- The text of a whole number. -/
def intText (i : Int) : String := String.ofList (decimalInt i)

/-- Characters filled up on the left with a filler to a least width. -/
def padLeft (width : Nat) (filler : Char) (cs : List Char) : List Char :=
  List.replicate (width - cs.length) filler ++ cs

/-- The digits of a number, filled up with zeros to a least width. -/
def paddedDecimal (width n : Nat) : List Char := padLeft width '0' (decimalDigits n)

/-- Digits given from the last to the first, with a comma after every third one that is followed by
    another digit; the result runs from the first to the last. -/
def groupReversed (mark : Char) : Nat → List Char → List Char → List Char
  | _, [], acc => acc
  | 3, c :: cs, acc => groupReversed mark 1 cs (c :: mark :: acc)
  | k, c :: cs, acc => groupReversed mark (k + 1) cs (c :: acc)

/-- Digits in groups of three, counted from the right. -/
def grouped (mark : Char) (digits : List Char) : List Char :=
  groupReversed mark 0 digits.reverse []

/-- A whole number with a comma between groups of three digits. -/
def groupedInt (i : Int) : String :=
  let body := grouped ',' (decimalDigits i.natAbs)
  String.ofList (if i < 0 then '-' :: body else body)

/-! ## Reading -/

/-- The value of an ASCII decimal digit. -/
def digitValue? (c : Char) : Option Nat :=
  if '0' ≤ c ∧ c ≤ '9' then some (c.toNat - '0'.toNat) else none

/-- The number a list of digits stands for; characters that are no digits count as zero. -/
def natOfDigits (cs : List Char) : Nat :=
  cs.foldl (fun n c => 10 * n + (digitValue? c).getD 0) 0

/-- The longest run of ASCII digits at the front, and what follows it. -/
def spanDigits (cs : List Char) : List Char × List Char :=
  cs.span Char.isDigit

/-- A non-empty list of digits with an optional sign, as a whole number. -/
def intOfDigits? (cs : List Char) : Option Int :=
  let read (body : List Char) : Option Nat :=
    if body.isEmpty || !body.all Char.isDigit then none else some (natOfDigits body)
  match cs with
  | '-' :: body => (read body).map fun n => -(n : Int)
  | '+' :: body => (read body).map fun n => (n : Int)
  | body => (read body).map fun n => (n : Int)

/-! ## Numerals that are too long -/

/-- Numerals of more digits are not converted, in either direction. -/
def digitLimit : Nat := 4300

/-- What is told of a numeral that is too long; `found` says how long it is, where that is known. -/
def digitLimitMessage (found : String) : String :=
  "Exceeds the limit (" ++ natText digitLimit ++ " digits) for integer string conversion" ++ found ++
    "; use sys.set_int_max_str_digits() to increase the limit"

/-- A number that is not written. -/
def unwrittenMessage : String := digitLimitMessage ""

/-- A numeral of so many digits that is not read. -/
def unreadMessage (digits : Nat) : String := digitLimitMessage (": value has " ++ natText digits ++ " digits")

end RenderBench
