import RenderBench.Number.Fixed
import RenderBench.Number.Shortest

/-!
# `Number.Scientific` — a fixed number of significant digits

The exact value of a binary number is rounded to so many significant digits, ties going to the even
digit, and written with an exponent, or positionally when the exponent is small enough.

## Contents
- `significantDigits`: the rounding.
- `RealStyle`: the three ways to set out a real number.
- `Binary64.styled`: the magnitude of a number in one of them.
-/

namespace RenderBench

/-- A quotient rounded to so many digits, and the exponent of the first of them. -/
def significantDigits (digits num den : Nat) : Nat × Int :=
  if num = 0 then (0, 0)
  else
    let point := decimalPoint num den
    let shift : Int := digits - point
    let units := roundHalfEven (num * pow10 shift.toNat) (den * pow10 (-shift).toNat)
    if units = pow10 digits then (units / 10, point) else (units, point - 1)

/-- How a real number is set out: with a number of places, with a number of places and an exponent, or
    with a number of significant digits in the shorter of these two ways. -/
inductive RealStyle where
  | fixed
  | scientific
  | general
  deriving DecidableEq

/-- Digits with a point after the first one, which stands alone only if it is kept, and the exponent. -/
def withExponent (keepPoint : Bool) (digits : List Char) (exponent : Int) : List Char :=
  let fraction := digits.drop 1
  digits.take 1 ++ (if fraction.isEmpty && !keepPoint then [] else '.' :: fraction) ++
    'e' :: (if exponent < 0 then '-' else '+') :: paddedDecimal 2 exponent.natAbs

/-- Digits with a fixed number of places; the point stands after the last one only if it is kept. -/
def withPlaces (keepPoint : Bool) (places num den : Nat) : List Char :=
  fixedDigits false places (unitsOf places num den) ++
    (if places = 0 && keepPoint then ['.'] else [])

/-- Digits without the zeros at the end of a fraction, and without a point that is then the last. -/
def dropFractionZeros (cs : List Char) : List Char :=
  if cs.contains '.' then
    let kept := dropTrailingZeros cs
    if kept.getLast? = some '.' then kept.dropLast else kept
  else cs

/-- A positive quotient or zero in one of the styles. -/
def styledDigits (style : RealStyle) (keepPoint : Bool) (precision num den : Nat) : List Char :=
  match style with
  | .fixed => withPlaces keepPoint precision num den
  | .scientific =>
    let (units, exponent) := significantDigits (precision + 1) num den
    withExponent keepPoint (paddedDecimal (precision + 1) units) exponent
  | .general =>
    let precision := max precision 1
    let (units, exponent) := significantDigits precision num den
    if exponent < -4 ∨ (precision : Int) ≤ exponent then
      let digits := paddedDecimal precision units
      if keepPoint then withExponent true digits exponent
      else withExponent false (digits.take 1 ++ dropTrailingZeros (digits.drop 1)) exponent
    else
      let cs := withPlaces keepPoint (precision - 1 - exponent).toNat num den
      if keepPoint then cs else dropFractionZeros cs

/-- The magnitude of a number in one of the styles. -/
def Binary64.styled (style : RealStyle) (keepPoint : Bool) (precision : Nat) :
    Binary64 → List Char
  | .nan => ['n', 'a', 'n']
  | .infinite _ => ['i', 'n', 'f']
  | .finite _ m e _ =>
    let (a, b) := magnitude m e
    styledDigits style keepPoint precision a b

end RenderBench
