import RenderBench.Number.Binary64
import RenderBench.Number.Decimal

/-!
# `Number.Fixed` — a fixed number of decimal places

The exact value of a binary number is rounded to a decimal grid, ties going to the even digit. The sign
is that of the number, also when nothing but zeros is left.

## Contents
- `fixedDigits`, `Binary64.fixed`: text with a given number of places, optionally grouped.
- `Binary64.roundTo`: the number nearest to the rounded decimal.
-/

namespace RenderBench

/-- A whole number of `10^(-places)` units, with its decimal point. -/
def fixedDigits (group : Bool) (places units : Nat) : List Char :=
  let all := paddedDecimal (places + 1) units
  let whole := all.take (all.length - places)
  let whole := if group then grouped ',' whole else whole
  if places = 0 then whole else whole ++ '.' :: all.drop (all.length - places)

/-- The magnitude of `num / den` in units of `10^(-places)`. -/
def unitsOf (places num den : Nat) : Nat := roundHalfEven (num * pow10 places) den

/-- The text of a number with a fixed number of places. -/
def Binary64.fixed (group : Bool) (places : Nat) : Binary64 → String
  | .nan => "nan"
  | .infinite s => if s then "-inf" else "inf"
  | .finite s m e _ =>
    let (a, b) := magnitude m e
    let body := fixedDigits group places (unitsOf places a b)
    String.ofList (if s then '-' :: body else body)

/-- The number nearest to the value rounded to `places` decimal places (negative: to tens,
    hundreds, …). Grids far finer than any number leave it as it is. -/
def Binary64.roundTo (places : Int) (x : Binary64) : Binary64 :=
  match x with
  | .finite s m e _ =>
    if 400 < places then x
    else if places < -400 then zero s
    else
      let (a, b) := magnitude m e
      let units := roundHalfEven (a * pow10 places.toNat) (b * pow10 (-places).toNat)
      ofDecimal s units (-places)
  | _ => x

end RenderBench
