import RenderBench.Number.Binary64

/-!
# `Number.Root` — square roots of quotients

The root of an exact quotient is rounded once: enough binary digits of it are taken, the last one is
made odd when something is cut off, and the result is rounded to a floating-point number.

## Contents
- `floorSqrt`: the whole root of a whole number.
- `sqrtRatio`: the number nearest to the root of a quotient.
-/

namespace RenderBench

/-- The whole root, two binary digits of the number at a time. -/
def floorSqrtSteps : Nat → Nat → Nat
  | 0, _ => 0
  | fuel + 1, n =>
    if n = 0 then 0
    else
      let r := 2 * floorSqrtSteps fuel (n / 4)
      if (r + 1) * (r + 1) ≤ n then r + 1 else r

/-- The greatest whole number whose square is not above `n`. -/
def floorSqrt (n : Nat) : Nat := floorSqrtSteps (Nat.log2 n + 1) n

/-- The whole root of a quotient, made odd when it is not exact. -/
def oddSqrt (num den : Nat) : Nat :=
  let r := floorSqrt (num / den)
  if r * r * den = num then r else r ||| 1

/-- The number nearest to the root of `num / den`. -/
def sqrtRatio (num den : Nat) : Binary64 :=
  if num = 0 then .zero false
  else
    let q : Int := Int.fdiv ((Nat.log2 num : Int) - (Nat.log2 den : Int) - 109) 2
    if 0 ≤ q then
      .ofRatio false (oddSqrt num (den * pow2 (2 * q.toNat)) * pow2 q.toNat) 1
    else
      .ofRatio false (oddSqrt (num * pow2 (2 * (-q).toNat)) den) (pow2 (-q).toNat)

end RenderBench
