import RenderBench.Number.Binary64
import RenderBench.Number.Decimal

/-!
# `Number.Shortest` — the fewest digits that read back

A finite number stands for all the reals that round to it. Its shortest text is the decimal in that
interval with the fewest digits; of several the one nearest to the number. The search looks, for one
digit, two digits and so on up to seventeen, at the two neighbours of the number on that decimal grid.

## Contents
- `Decimal64`: digits and a decimal exponent.
- `decimalPoint`: how many digits stand before the decimal point.
- `shortest`: the search.
-/

namespace RenderBench

/-- The value `digits · 10^exponent`. -/
structure Decimal64 where
  digits : Nat
  exponent : Int
  deriving DecidableEq, Repr

/-- The `k` with `10^(k-1) ≤ num / den < 10^k`, for positive `num` and `den`. -/
def decimalPoint (num den : Nat) : Int :=
  if den ≤ num then (decimalDigits (num / den)).length
  else
    let c := (den + num - 1) / num
    1 - ((decimalDigits (c - 1)).length : Int)

/-- The reals that round to a number, in quarters of a unit `2^exponent`; the ends belong to it iff
    the significand is even. -/
structure RoundingInterval where
  low : Nat
  value : Nat
  high : Nat
  closed : Bool

/-- The interval around a canonical significand. Below a power of two the neighbours are closer. -/
def RoundingInterval.of (m : Nat) (e : Int) : RoundingInterval where
  low := 4 * m - (if m = pow2 52 ∧ e ≠ -1074 then 1 else 2)
  value := 4 * m
  high := 4 * m + 2
  closed := m % 2 == 0

/-- `a · 2^p · 10^q` for signed exponents, as a quotient of whole numbers. -/
def scaledPowers (a : Nat) (p q : Int) : Nat × Nat :=
  (a * pow2 p.toNat * pow10 q.toNat, pow2 (-p).toNat * pow10 (-q).toNat)

/-- Whether the grid point `d · 10^g` lies in the interval whose unit is `2^(e-2)`. -/
def RoundingInterval.contains (i : RoundingInterval) (e : Int) (d : Nat) (g : Int) : Bool :=
  let (a, b) := scaledPowers d (2 - e) g
  if i.closed then i.low * b ≤ a && a ≤ i.high * b else i.low * b < a && a < i.high * b

/-- The point of the grid `10^g` nearest to the number among those of its two neighbours that round
    to it; equally near ones are decided for the even digits. -/
def nearestOnGrid (i : RoundingInterval) (e : Int) (g : Int) : Option Nat :=
  let (a, b) := scaledPowers i.value (e - 2) (-g)
  let d := a / b
  let below := i.contains e d g
  let above := i.contains e (d + 1) g
  if below && above then some (roundHalfEven a b)
  else if below then some d
  else if above then some (d + 1)
  else none

/-- The first grid with a hit, trying `n` digits, then one more, for `fuel` grids. -/
def shortestFrom (i : RoundingInterval) (e point : Int) : Nat → Nat → Option Decimal64
  | 0, _ => none
  | fuel + 1, n =>
    match nearestOnGrid i e (point - n) with
    | some d => some ⟨d, point - n⟩
    | none => shortestFrom i e point fuel (n + 1)

/-- The shortest decimal that rounds to `m · 2^e`. Seventeen digits always suffice. -/
def shortest (m : Nat) (e : Int) : Decimal64 :=
  if m = 0 then ⟨0, 0⟩
  else
    let (a, b) := Binary64.magnitude m e
    (shortestFrom (RoundingInterval.of m e) e (decimalPoint a b) 17 1).getD ⟨0, 0⟩

/-! ## Layout -/

/-- How shortest digits are set out as text. -/
structure RealLayout where
  /-- Positional notation needs the decimal point after at most this many digits. -/
  maxPoint : Int
  /-- Positional notation needs the decimal point to be at least this far. -/
  minPoint : Int
  /-- The mark before the exponent. -/
  exponentMark : Char
  /-- The exponent has at least so many digits. -/
  exponentWidth : Nat
  nan : String
  infinity : String

/-- A value in text: positional from `0.0001` up to below `10^16`, whole numbers with `.0`,
    otherwise one digit before the point and a signed exponent of two digits or more. -/
def RealLayout.plain : RealLayout where
  maxPoint := 16
  minPoint := -3
  exponentMark := 'e'
  exponentWidth := 2
  nan := "nan"
  infinity := "inf"

/-- Digits with the decimal point after the first `point` of them. -/
def positional (digits : List Char) (point : Int) : List Char :=
  if point ≤ 0 then '0' :: '.' :: (List.replicate (-point).toNat '0' ++ digits)
  else
    let p := point.toNat
    if digits.length ≤ p then digits ++ List.replicate (p - digits.length) '0' ++ ['.', '0']
    else digits.take p ++ '.' :: digits.drop p

/-- Digits in exponent notation, the decimal point being after the first `point` of them. -/
def RealLayout.scientific (layout : RealLayout) (digits : List Char) (point : Int) : List Char :=
  let e := point - 1
  let fraction := match digits with
    | [] => []
    | [d] => [d]
    | d :: ds => d :: '.' :: ds
  fraction ++ layout.exponentMark :: (if e < 0 then '-' else '+') ::
    paddedDecimal layout.exponentWidth e.natAbs

/-- The digits without the zeros at the end. -/
def dropTrailingZeros (digits : List Char) : List Char :=
  (digits.reverse.dropWhile (· == '0')).reverse

def RealLayout.write (layout : RealLayout) : Binary64 → List Char
  | .nan => layout.nan.toList
  | .infinite s => (if s then '-' :: layout.infinity.toList else layout.infinity.toList)
  | .finite s m e _ =>
    let body :=
      if m = 0 then ['0', '.', '0']
      else
        let d := shortest m e
        let all := decimalDigits d.digits
        let point : Int := all.length + d.exponent
        let digits := dropTrailingZeros all
        if layout.minPoint ≤ point ∧ point ≤ layout.maxPoint then positional digits point
        else layout.scientific digits point
    if s then '-' :: body else body

/-- The shortest text of a number that reads back as it. -/
def Binary64.text (x : Binary64) : String := String.ofList (RealLayout.plain.write x)

end RenderBench
