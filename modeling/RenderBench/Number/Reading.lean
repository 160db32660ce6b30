import RenderBench.Number.Binary64
import RenderBench.Number.Decimal

/-!
# `Number.Reading` — decimal numerals with a point and an exponent

A numeral is read into its sign, digits and decimal exponent; the number is the nearest one to that
exact value.

## Contents
- `digitRun`: digits, with single underscores between them where they are allowed.
- `Numeral` and `scanNumeral?`: `12`, `1.5`, `.5`, `5.`, `1e-3`.
- `readReal?`: the same as a number, with the words for infinity and "not a number".
-/

namespace RenderBench

/-- Digits at the front, and what follows. `after` tells whether a digit stands just before; only
    then, and only before another digit, an underscore is skipped. -/
def digitRun (underscores : Bool) (after : Bool) : List Char → List Char × List Char
  | [] => ([], [])
  | '_' :: c :: cs =>
    if underscores && after && c.isDigit then
      let (ds, rest) := digitRun underscores true cs
      (c :: ds, rest)
    else ([], '_' :: c :: cs)
  | c :: cs =>
    if c.isDigit then
      let (ds, rest) := digitRun underscores true cs
      (c :: ds, rest)
    else ([], c :: cs)

/-- A decimal numeral: digits before and after the point, and the exponent. -/
structure Numeral where
  whole : List Char
  /-- The digits after the point, `none` without a point. -/
  fraction : Option (List Char)
  /-- The exponent with its sign, `none` without one. -/
  exponent : Option Int
  deriving DecidableEq

/-- The value of a numeral under a sign. -/
def Numeral.value (negative : Bool) (n : Numeral) : Binary64 :=
  let fraction := n.fraction.getD []
  Binary64.ofDecimal negative (natOfDigits (n.whole ++ fraction))
    (n.exponent.getD 0 - fraction.length)

/-- An exponent part `e5`, `E-5`; without at least one digit there is none and nothing is taken. -/
def scanExponent (underscores : Bool) (cs : List Char) : Option Int × List Char :=
  match cs with
  | [] => (none, cs)
  | c :: rest =>
    if c = 'e' ∨ c = 'E' then
      let (negative, body) := match rest with
        | '-' :: r => (true, r)
        | '+' :: r => (false, r)
        | r => (false, r)
      match digitRun underscores false body with
      | ([], _) => (none, cs)
      | (ds, after) =>
        let n : Int := natOfDigits ds
        (some (if negative then -n else n), after)
    else (none, cs)

/-- An unsigned numeral at the front: at least one digit before or after the point. -/
def scanNumeral? (underscores : Bool) (cs : List Char) : Option (Numeral × List Char) :=
  let (whole, rest) := digitRun underscores false cs
  let (fraction, rest) : Option (List Char) × List Char := match rest with
    | '.' :: r => let (ds, r') := digitRun underscores false r; (some ds, r')
    | r => (none, r)
  if whole.isEmpty && (fraction.getD []).isEmpty then none
  else
    let (exponent, rest) := scanExponent underscores rest
    some (⟨whole, fraction, exponent⟩, rest)

/-- A sign at the front, and what follows. -/
def splitSign : List Char → Bool × List Char
  | '-' :: cs => (true, cs)
  | '+' :: cs => (false, cs)
  | cs => (false, cs)

/-- A whole text as a real number: a numeral, `inf`, `infinity` or `nan` in any letter case, with an
    optional sign. -/
def readReal? (underscores : Bool) (cs : List Char) : Option Binary64 :=
  let (negative, body) := splitSign cs
  let word := String.ofList (body.map Char.toLower)
  if word = "inf" ∨ word = "infinity" then some (.infinite negative)
  else if word = "nan" then some .nan
  else match scanNumeral? underscores body with
    | some (n, []) => some (n.value negative)
    | _ => none

end RenderBench
