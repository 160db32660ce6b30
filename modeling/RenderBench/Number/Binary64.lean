import RenderBench.Number.Rounding

/-!
# `Number.Binary64` — binary floating-point numbers as exact values

A finite number is `± significand · 2^exponent` in canonical form, so equal numbers (a signed zero
apart) have equal representations and every operation is exact arithmetic on whole numbers followed
by one rounding, to nearest with ties to even. Only `pow` leaves this world.

## Contents
- `Binary64`: the numbers, with the canonical form as a field of the finite ones.
- `ofRatio`, `ofInt`, `ofDecimal`: the nearest number to an exact value.
- `toRatio?`, `trunc?`, `floor?`: exact values back.
- `lt`, `eqv`, arithmetic, and the floored division with its remainder.
-/

namespace RenderBench

/-- The power of two with a given exponent. -/
abbrev pow2 (n : Nat) : Nat := Nat.pow 2 n

/-- The power of ten with a given exponent. -/
abbrev pow10 (n : Nat) : Nat := Nat.pow 10 n

/-- The significands and exponents of finite numbers, each value in one way only. -/
def Canonical (significand : Nat) (exponent : Int) : Prop :=
  significand < pow2 53 ∧ -1074 ≤ exponent ∧ exponent ≤ 971 ∧
    (pow2 52 ≤ significand ∨ exponent = -1074)

instance (m : Nat) (e : Int) : Decidable (Canonical m e) :=
  inferInstanceAs (Decidable (_ ∧ _ ∧ _ ∧ (_ ∨ _)))

/-- A binary floating-point number of 64 bits. -/
inductive Binary64 where
  | nan
  | infinite (negative : Bool)
  | finite (negative : Bool) (significand : Nat) (exponent : Int)
      (canonical : Canonical significand exponent)
  deriving DecidableEq

namespace Binary64

/-- The zero of the given sign. -/
def zero (negative : Bool) : Binary64 := .finite negative 0 (-1074) (by decide)

instance : Inhabited Binary64 := ⟨zero false⟩

def isNegative : Binary64 → Bool
  | .nan => false
  | .infinite s => s
  | .finite s _ _ _ => s

def isZero : Binary64 → Bool
  | .finite _ m _ _ => m == 0
  | _ => false

def isNaN : Binary64 → Bool
  | .nan => true
  | _ => false

def isFinite : Binary64 → Bool
  | .finite _ _ _ _ => true
  | _ => false

/-! ## Rounding an exact value -/

/-- `num · 2^(-shift)` over `den`, as a quotient of whole numbers. -/
def scaled (num den : Nat) (shift : Int) : Nat × Nat :=
  if 0 ≤ shift then (num, den * pow2 shift.toNat) else (num * pow2 (-shift).toNat, den)

/-- The exponent of the numbers around `num / den`: the significand there has 53 bits, or the
    exponent is the least one. -/
def exponentFor (num den : Nat) : Int :=
  let guess : Int := (Nat.log2 num : Int) - (Nat.log2 den : Int) - 52
  let (a, b) := scaled num den guess
  let fitted := if a / b < pow2 52 then guess - 1 else guess
  max fitted (-1074)

/-- The number nearest to `± num / den` (`den` positive); beyond the largest number, infinity. -/
def ofRatio (negative : Bool) (num den : Nat) : Binary64 :=
  if num = 0 then zero negative
  else
    let e := exponentFor num den
    let (a, b) := scaled num den e
    let m := roundHalfEven a b
    if m = pow2 53 then
      if h : Canonical (pow2 52) (e + 1) then .finite negative (pow2 52) (e + 1) h
      else .infinite negative
    else if h : Canonical m e then .finite negative m e h
    else .infinite negative

/-- The number nearest to a whole number. -/
def ofInt (i : Int) : Binary64 := ofRatio (decide (i < 0)) i.natAbs 1

/-- The number nearest to `± digits · 10^exponent`. Exponents that are hopelessly large or small for
    the digits are answered without building the power of ten. -/
def ofDecimal (negative : Bool) (digits : Nat) (exponent : Int) : Binary64 :=
  if digits = 0 then zero negative
  else if 400 < exponent then .infinite negative
  else if exponent < -400 - (Nat.log2 digits : Int) then zero negative
  else if 0 ≤ exponent then ofRatio negative (digits * pow10 exponent.toNat) 1
  else ofRatio negative digits (pow10 (-exponent).toNat)

/-! ## Exact values -/

/-- The magnitude of a finite number as a quotient of whole numbers. -/
def magnitude (significand : Nat) (exponent : Int) : Nat × Nat :=
  if 0 ≤ exponent then (significand * pow2 exponent.toNat, 1)
  else (significand, pow2 (-exponent).toNat)

/-- The exact value as a signed numerator and a positive denominator. -/
def toRatio? : Binary64 → Option (Int × Nat)
  | .finite s m e _ =>
    let (n, d) := magnitude m e
    some (if s then -(n : Int) else (n : Int), d)
  | _ => none

/-- The value cut towards zero. -/
def trunc? (x : Binary64) : Option Int :=
  x.toRatio?.map fun (n, d) => Int.tdiv n d

/-- The greatest whole number not above the value. -/
def floor? (x : Binary64) : Option Int :=
  x.toRatio?.map fun (n, d) => Int.fdiv n d

/-- Whether the value is a whole number. -/
def isIntegral (x : Binary64) : Bool :=
  match x.toRatio? with
  | some (n, d) => n % d == 0
  | none => false

/-! ## Order -/

/-- Whether `a / b < c / d` for signed numerators and positive denominators. -/
def ratioLt (a : Int × Nat) (b : Int × Nat) : Bool := decide (a.1 * b.2 < b.1 * a.2)

/-- Numerical order; nothing is below or above "not a number". -/
def lt : Binary64 → Binary64 → Bool
  | .nan, _ => false
  | _, .nan => false
  | .infinite s, .infinite t => s && !t
  | .infinite s, .finite _ _ _ _ => s
  | .finite _ _ _ _, .infinite t => !t
  | .finite s m e h, .finite t n f g =>
    match (Binary64.finite s m e h).toRatio?, (Binary64.finite t n f g).toRatio? with
    | some a, some b => ratioLt a b
    | _, _ => false

/-- Numerical equality: zeros of both signs agree and "not a number" differs from itself. -/
def eqv : Binary64 → Binary64 → Bool
  | .nan, _ => false
  | _, .nan => false
  | .infinite s, .infinite t => s == t
  | .finite s m e _, .finite t n f _ =>
    (m == 0 && n == 0) || (s == t && m == n && e == f)
  | _, _ => false

def le (x y : Binary64) : Bool := x.lt y || x.eqv y

/-! ## Arithmetic -/

def neg : Binary64 → Binary64
  | .nan => .nan
  | .infinite s => .infinite (!s)
  | .finite s m e h => .finite (!s) m e h

def abs : Binary64 → Binary64
  | .nan => .nan
  | .infinite _ => .infinite false
  | .finite _ m e h => .finite false m e h

/-- The number nearest to a signed quotient; an exact zero takes the given sign. -/
def ofSignedRatio (zeroSign : Bool) (num : Int) (den : Nat) : Binary64 :=
  if num = 0 then zero zeroSign else ofRatio (decide (num < 0)) num.natAbs den

def add (x y : Binary64) : Binary64 :=
  match x, y with
  | .nan, _ => .nan
  | _, .nan => .nan
  | .infinite s, .infinite t => if s == t then .infinite s else .nan
  | .infinite s, _ => .infinite s
  | _, .infinite t => .infinite t
  | .finite s m e _, .finite t n f _ =>
    match (magnitude m e), (magnitude n f) with
    | (a, b), (c, d) =>
      let num : Int := (if s then -(a : Int) else a) * d + (if t then -(c : Int) else c) * b
      ofSignedRatio (s && t) num (b * d)

def sub (x y : Binary64) : Binary64 := x.add y.neg

def mul (x y : Binary64) : Binary64 :=
  match x, y with
  | .nan, _ => .nan
  | _, .nan => .nan
  | .infinite s, y => if y.isZero then .nan else .infinite (s != y.isNegative)
  | x, .infinite t => if x.isZero then .nan else .infinite (x.isNegative != t)
  | .finite s m e _, .finite t n f _ =>
    match (magnitude m e), (magnitude n f) with
    | (a, b), (c, d) => ofRatio (s != t) (a * c) (b * d)

/-- The quotient; what a zero divisor means is left to the caller, here it gives infinity. -/
def div (x y : Binary64) : Binary64 :=
  match x, y with
  | .nan, _ => .nan
  | _, .nan => .nan
  | .infinite _, .infinite _ => .nan
  | .infinite s, y => .infinite (s != y.isNegative)
  | x, .infinite t => zero (x.isNegative != t)
  | .finite s m e _, .finite t n f _ =>
    match (magnitude m e), (magnitude n f) with
    | (a, b), (c, d) =>
      if c = 0 then (if a = 0 then .nan else .infinite (s != t))
      else ofRatio (s != t) (a * d) (b * c)

/-- The exact remainder of a division cut towards zero; it has the sign of `x`. -/
def truncRem (x y : Binary64) : Binary64 :=
  match x, y with
  | .nan, _ => .nan
  | _, .nan => .nan
  | .infinite _, _ => .nan
  | x, .infinite _ => x
  | .finite s m e _, .finite _ n f _ =>
    match (magnitude m e), (magnitude n f) with
    | (a, b), (c, d) =>
      if c = 0 then .nan
      else ofRatio s ((a * d) % (c * b)) (b * d)

/-- A value with the sign of another. -/
def withSign (negative : Bool) (x : Binary64) : Binary64 :=
  if negative then x.abs.neg else x.abs

/-- The remainder that has the sign of the divisor `y`. -/
def flooredRem (x y : Binary64) : Binary64 :=
  let r := x.truncRem y
  if r.isZero then withSign y.isNegative r
  else if !r.isNaN && r.isNegative != y.isNegative then r.add y
  else r

/-- The greatest whole number not above a value, as a number; zero keeps its sign. -/
def floor (x : Binary64) : Binary64 :=
  match x.floor? with
  | some i => if i = 0 then zero x.isNegative else ofInt i
  | none => x

/-- The floored quotient, computed from the exact remainder: first the quotient of what the
    remainder leaves, then a correction of one unit where the division rounded. -/
def flooredDiv (x y : Binary64) : Binary64 :=
  let r := x.truncRem y
  let q := (x.sub r).div y
  let q := if !r.isZero && !r.isNaN && r.isNegative != y.isNegative then q.sub (ofInt 1) else q
  if q.isZero then zero (x.div y).isNegative
  else
    let f := q.floor
    if (ofRatio false 1 2).lt (q.sub f) then f.add (ofInt 1) else f

/-! ## Bits, and the power function -/

/-- The pattern of 64 bits. -/
def toBits : Binary64 → UInt64
  | .nan => 0x7FF8000000000000
  | .infinite s => (if s then 0xFFF0000000000000 else 0x7FF0000000000000)
  | .finite s m e _ =>
    let body : Nat := if m < pow2 52 then m else (e + 1075).toNat * pow2 52 + (m - pow2 52)
    UInt64.ofNat ((if s then pow2 63 else 0) + body)

/-- The number of a pattern of 64 bits. -/
def ofBits (bits : UInt64) : Binary64 :=
  let b := bits.toNat
  let s := decide (pow2 63 ≤ b)
  let biased : Nat := b / pow2 52 % 2048
  let fraction : Nat := b % pow2 52
  if biased = 2047 then (if fraction = 0 then .infinite s else .nan)
  else
    let m := if biased = 0 then fraction else fraction + pow2 52
    let e : Int := if biased = 0 then -1074 else (biased : Int) - 1075
    if h : Canonical m e then .finite s m e h else .nan

/-- The power, as the machine computes it. -/
def pow (x y : Binary64) : Binary64 :=
  ofBits (Float.pow (Float.ofBits x.toBits) (Float.ofBits y.toBits)).toBits

end Binary64

end RenderBench
