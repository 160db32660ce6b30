import Mathlib.Tactic.Linarith
import Mathlib.Tactic.Positivity
import Mathlib.Tactic.Ring
import RenderBench.Number.Root

/-!
# `Proofs.Number.Range` — which exact values round to a finite number

Rounding picks the exponent for which the significand has 53 bits, or the least one there is. So the only way
out of the finite numbers is an exponent that is too large, and a value of at most 1022 binary digits stays
inside. Roots follow, since the digits that are taken of a root stay below the root and one.

## Contents
- `scaled_lt_iff`: comparing a scaled quotient without scaling it.
- `exponentFor_fits`: the significand has 53 bits, or the exponent is the least.
- `isFinite_ofRatio`, `isFinite_ofInt`: quotients and whole numbers.
- `floorSqrt_mul_self_le`, `isFinite_sqrtRatio`: roots.
-/

namespace RenderBench

/-- Whole numbers of so many binary digits are in the range of real numbers, and so are their roots and
    quotients. -/
def rangeBits : Nat := 1022

namespace Binary64

/-! ## The exponent -/

/-- A quotient under a scale, compared without the scale: the exponent of the scale is given as a difference. -/
theorem scaled_lt_iff (num den k p q : Nat) :
    (scaled num den ((p : Int) - q)).1 < k * (scaled num den ((p : Int) - q)).2 ↔
      num * 2 ^ q < k * (den * 2 ^ p) := by
  unfold scaled
  by_cases hle : (0 : Int) ≤ (p : Int) - q
  · rw [if_pos hle]
    obtain ⟨r, rfl⟩ : ∃ r, p = q + r := ⟨p - q, by omega⟩
    have hr : (((q + r : Nat) : Int) - q).toNat = r := by omega
    -- a power of two on one side of the comparison is cancelled on the other
    have hpow : k * (den * 2 ^ (q + r)) = k * (den * 2 ^ r) * 2 ^ q := by ring
    simp only [hr, pow2, Nat.pow_eq]
    rw [hpow]
    exact (Nat.mul_lt_mul_right (by positivity)).symm
  · rw [if_neg hle]
    obtain ⟨r, rfl⟩ : ∃ r, q = p + r := ⟨q - p, by omega⟩
    have hr : (-((p : Int) - (p + r : Nat))).toNat = r := by omega
    have hleft : num * 2 ^ (p + r) = num * 2 ^ r * 2 ^ p := by ring
    have hright : k * (den * 2 ^ p) = k * den * 2 ^ p := by ring
    simp only [hr, pow2, Nat.pow_eq]
    rw [hleft, hright]
    exact (Nat.mul_lt_mul_right (by positivity)).symm

theorem scaled_snd_pos {den : Nat} (num : Nat) (hden : 0 < den) (e : Int) : 0 < (scaled num den e).2 := by
  unfold scaled
  split
  · exact Nat.mul_pos hden (Nat.pow_pos (by decide))
  · exact hden

/-- What the exponent of a quotient is chosen for: the scaled quotient has at most 53 bits, and it has as
    many unless the exponent is the least. -/
structure Fits (num den : Nat) (e : Int) : Prop where
  least : -1074 ≤ e
  lt : (scaled num den e).1 < 2 ^ 53 * (scaled num den e).2
  ge : e = -1074 ∨ 2 ^ 52 * (scaled num den e).2 ≤ (scaled num den e).1

/-- The logarithms of a quotient leave two exponents to choose from. -/
theorem fitted_bounds {num den : Nat} (hnum : num ≠ 0) (hden : den ≠ 0) :
    num * 2 ^ (den.log2 + 52) < 2 ^ 53 * (den * 2 ^ num.log2) ∧
      2 ^ 52 * (den * 2 ^ num.log2) ≤ num * 2 ^ (den.log2 + 53) := by
  have hnumLe := Nat.log2_self_le hnum
  have hnumLt := Nat.lt_log2_self (n := num)
  have hdenLe := Nat.log2_self_le hden
  have hdenLt := Nat.lt_log2_self (n := den)
  constructor
  · calc num * 2 ^ (den.log2 + 52) = 2 ^ 52 * (num * 2 ^ den.log2) := by ring
      _ < 2 ^ 52 * (2 ^ (num.log2 + 1) * 2 ^ den.log2) := by gcongr
      _ ≤ 2 ^ 52 * (2 ^ (num.log2 + 1) * den) := by gcongr
      _ = 2 ^ 53 * (den * 2 ^ num.log2) := by ring
  · calc 2 ^ 52 * (den * 2 ^ num.log2) ≤ 2 ^ 52 * (2 ^ (den.log2 + 1) * num) := by gcongr
      _ = num * 2 ^ (den.log2 + 53) := by ring

/-- The first choice of an exponent, before the least one is looked at. -/
theorem exists_fitted {num den : Nat} (hnum : num ≠ 0) (hden : den ≠ 0) :
    ∃ e : Int, exponentFor num den = max e (-1074) ∧ e ≤ (num.log2 : Int) - den.log2 - 52 ∧
      (scaled num den e).1 < 2 ^ 53 * (scaled num den e).2 ∧
      2 ^ 52 * (scaled num den e).2 ≤ (scaled num den e).1 := by
  obtain ⟨habove, hbelow⟩ := fitted_bounds hnum hden
  have hguess : (num.log2 : Int) - den.log2 - 52 = (num.log2 : Int) - (den.log2 + 52 : Nat) := by
    push_cast
    ring
  have hnext : (num.log2 : Int) - den.log2 - 52 - 1 = (num.log2 : Int) - (den.log2 + 53 : Nat) := by
    push_cast
    ring
  have hpos := scaled_snd_pos num (Nat.pos_of_ne_zero hden)
    ((num.log2 : Int) - den.log2 - 52)
  have hchoice : (scaled num den ((num.log2 : Int) - den.log2 - 52)).1 /
      (scaled num den ((num.log2 : Int) - den.log2 - 52)).2 < pow2 52 ↔
        num * 2 ^ (den.log2 + 52) < 2 ^ 52 * (den * 2 ^ num.log2) := by
    rw [Nat.div_lt_iff_lt_mul hpos, hguess]
    exact scaled_lt_iff num den (2 ^ 52) _ _
  by_cases hsmall : num * 2 ^ (den.log2 + 52) < 2 ^ 52 * (den * 2 ^ num.log2)
  · -- one bit is missing, and the exponent goes down by one
    refine ⟨(num.log2 : Int) - den.log2 - 52 - 1, ?_, by omega, ?_, ?_⟩
    · rw [exponentFor]
      simp only [if_pos (hchoice.mpr hsmall)]
    · rw [hnext, scaled_lt_iff]
      calc num * 2 ^ (den.log2 + 53) = 2 * (num * 2 ^ (den.log2 + 52)) := by ring
        _ < 2 * (2 ^ 52 * (den * 2 ^ num.log2)) := by gcongr
        _ = 2 ^ 53 * (den * 2 ^ num.log2) := by ring
    · rw [hnext, ← not_lt, scaled_lt_iff]
      exact not_lt.mpr hbelow
  · refine ⟨(num.log2 : Int) - den.log2 - 52, ?_, le_refl _, ?_, ?_⟩
    · rw [exponentFor]
      simp only [if_neg (mt hchoice.mp hsmall)]
    · rw [hguess, scaled_lt_iff]
      exact habove
    · rw [hguess, ← not_lt, scaled_lt_iff]
      exact hsmall

/-- Below a bound a quotient stays when the exponent grows. -/
theorem scaled_lt_of_le {num den k : Nat} {e f : Int} (h : e ≤ f)
    (hlt : (scaled num den e).1 < k * (scaled num den e).2) :
    (scaled num den f).1 < k * (scaled num den f).2 := by
  obtain ⟨p, q, rfl⟩ : ∃ p q : Nat, e = (p : Int) - q := ⟨e.toNat, (-e).toNat, by omega⟩
  obtain ⟨r, rfl⟩ : ∃ r : Nat, f = ((p + r : Nat) : Int) - q := ⟨(f - (p - q)).toNat, by omega⟩
  rw [scaled_lt_iff] at hlt ⊢
  refine hlt.trans_le ?_
  gcongr
  · decide
  · omega

/-- **The exponent of a quotient** is one that its scaled quotient fits. -/
theorem exponentFor_fits {num den : Nat} (hnum : num ≠ 0) (hden : den ≠ 0) :
    Fits num den (exponentFor num den) := by
  obtain ⟨e, hexponent, _, hlt, hge⟩ := exists_fitted hnum hden
  rw [hexponent]
  refine ⟨le_max_right _ _, scaled_lt_of_le (le_max_left _ _) hlt, ?_⟩
  by_cases hleast : e ≤ -1074
  · exact .inl (max_eq_right hleast)
  · rw [max_eq_left (by omega)]
    exact .inr hge

/-! ## Quotients and whole numbers -/

/-- The logarithm of a quotient below a power of two. -/
theorem log2_le_of_lt {num den k : Nat} (hnum : num ≠ 0) (h : num < den * 2 ^ k) :
    num.log2 ≤ den.log2 + k := by
  have hpow : 2 ^ num.log2 < 2 ^ (den.log2 + 1 + k) :=
    calc 2 ^ num.log2 ≤ num := Nat.log2_self_le hnum
      _ < den * 2 ^ k := h
      _ ≤ 2 ^ (den.log2 + 1) * 2 ^ k := by gcongr; exact Nat.lt_log2_self.le
      _ = 2 ^ (den.log2 + 1 + k) := (pow_add 2 _ _).symm
  have hlog : num.log2 < den.log2 + 1 + k := (Nat.pow_lt_pow_iff_right (by decide)).mp hpow
  omega

/-- A quotient of so few binary digits has an exponent that leaves room for one more. -/
theorem exponentFor_le {num den k : Nat} (hnum : num ≠ 0) (hden : den ≠ 0) (hk : k ≤ rangeBits)
    (h : num < den * 2 ^ k) : exponentFor num den ≤ 970 := by
  obtain ⟨e, hexponent, hguess, _⟩ := exists_fitted hnum hden
  have hlog := log2_le_of_lt hnum h
  rw [rangeBits] at hk
  rw [hexponent]
  omega

/-- A quotient that fits is rounded to 53 bits, or carries into a bit of its own. -/
theorem Fits.round_bounds {num den : Nat} {e : Int} (h : Fits num den e) (hden : den ≠ 0) :
    roundHalfEven (scaled num den e).1 (scaled num den e).2 ≤ 2 ^ 53 ∧
      (2 ^ 52 ≤ roundHalfEven (scaled num den e).1 (scaled num den e).2 ∨ e = -1074) := by
  have hpos := scaled_snd_pos num (Nat.pos_of_ne_zero hden) e
  have hdiv : (scaled num den e).1 / (scaled num den e).2 < 2 ^ 53 :=
    (Nat.div_lt_iff_lt_mul hpos).mpr h.lt
  have hlow := div_le_roundHalfEven (scaled num den e).1 (scaled num den e).2
  have hhigh := roundHalfEven_le_div_add_one (scaled num den e).1 (scaled num den e).2
  refine ⟨by omega, ?_⟩
  rcases h.ge with hleast | hge
  · exact .inr hleast
  · exact .inl (((Nat.le_div_iff_mul_le hpos).mpr hge).trans hlow)

/-- **A quotient in range rounds to a finite number.** -/
theorem isFinite_ofRatio (negative : Bool) {num den k : Nat} (hk : k ≤ rangeBits)
    (h : num < den * 2 ^ k) : (ofRatio negative num den).isFinite := by
  have hden : den ≠ 0 := by
    rintro rfl
    rw [Nat.zero_mul] at h
    exact Nat.not_lt_zero num h
  unfold ofRatio
  by_cases hnum : num = 0
  · rw [if_pos hnum]
    rfl
  rw [if_neg hnum]
  have hfits := exponentFor_fits hnum hden
  have hleast := hfits.least
  have hle := exponentFor_le hnum hden hk h
  obtain ⟨hround, hnormal⟩ := hfits.round_bounds hden
  simp only
  by_cases hcarry : roundHalfEven (scaled num den (exponentFor num den)).1
      (scaled num den (exponentFor num den)).2 = pow2 53
  · -- the significand of the carry is a power of two
    have hcanonical : Canonical (pow2 52) (exponentFor num den + 1) :=
      ⟨by decide, by omega, by omega, .inl (le_refl _)⟩
    rw [if_pos hcarry, dif_pos hcanonical]
    rfl
  · have hcanonical : Canonical (roundHalfEven (scaled num den (exponentFor num den)).1
        (scaled num den (exponentFor num den)).2) (exponentFor num den) :=
      ⟨lt_of_le_of_ne hround hcarry, hleast, by omega, hnormal⟩
    rw [if_neg hcarry, dif_pos hcanonical]
    rfl

theorem isFinite_ofInt {i : Int} {k : Nat} (hk : k ≤ rangeBits) (h : i.natAbs < 2 ^ k) :
    (ofInt i).isFinite :=
  isFinite_ofRatio _ hk (by rwa [Nat.one_mul])

end Binary64

/-! ## Roots -/

theorem floorSqrtSteps_mul_self_le (fuel : Nat) :
    ∀ n, floorSqrtSteps fuel n * floorSqrtSteps fuel n ≤ n := by
  induction fuel with
  | zero => exact fun n => Nat.zero_le n
  | succ fuel ih =>
    intro n
    rw [floorSqrtSteps]
    by_cases hzero : n = 0
    · rw [if_pos hzero]
      exact Nat.zero_le n
    rw [if_neg hzero]
    simp only
    -- a digit is put behind the root of the quarter, a one if its square still fits
    by_cases hnext : (2 * floorSqrtSteps fuel (n / 4) + 1) * (2 * floorSqrtSteps fuel (n / 4) + 1) ≤ n
    · rw [if_pos hnext]
      exact hnext
    · rw [if_neg hnext]
      calc 2 * floorSqrtSteps fuel (n / 4) * (2 * floorSqrtSteps fuel (n / 4)) =
          4 * (floorSqrtSteps fuel (n / 4) * floorSqrtSteps fuel (n / 4)) := by ring
        _ ≤ 4 * (n / 4) := by gcongr; exact ih (n / 4)
        _ ≤ n := Nat.mul_div_le n 4

theorem floorSqrt_mul_self_le (n : Nat) : floorSqrt n * floorSqrt n ≤ n :=
  floorSqrtSteps_mul_self_le _ n

/-- The root of a quotient below a square is below the root of the square, or one more for the digits that
    are cut off. -/
theorem oddSqrt_le {num den k : Nat} (h : num < den * (2 ^ k * 2 ^ k)) :
    oddSqrt num den ≤ 2 ^ k := by
  have hroot : floorSqrt (num / den) < 2 ^ k := by
    have hsquare := floorSqrt_mul_self_le (num / den)
    have hdiv : num / den < 2 ^ k * 2 ^ k := Nat.div_lt_of_lt_mul h
    exact lt_of_mul_self_lt_mul_self₀ (Nat.zero_le _) (hsquare.trans_lt hdiv)
  unfold oddSqrt
  simp only
  split
  · exact hroot.le
  · cases k with
    | zero =>
      have hzero : floorSqrt (num / den) = 0 := Nat.lt_one_iff.mp hroot
      rw [hzero]
      decide
    | succ k => exact (Nat.or_lt_two_pow hroot (Nat.one_lt_two_pow (Nat.succ_ne_zero k))).le

/-- **The root of a quotient in range rounds to a finite number.** -/
theorem isFinite_sqrtRatio {num den k : Nat} (hk : k + 1 ≤ rangeBits)
    (h : num < den * (2 ^ k * 2 ^ k)) : (sqrtRatio num den).isFinite := by
  unfold sqrtRatio
  by_cases hnum : num = 0
  · rw [if_pos hnum]
    rfl
  rw [if_neg hnum]
  have hlog : num.log2 ≤ den.log2 + (k + k) :=
    Binary64.log2_le_of_lt hnum (by rwa [pow_add])
  have hscale : (num.log2 : Int) - den.log2 - 109 ≤ 2 * k := by omega
  have hdigits : Int.fdiv ((num.log2 : Int) - den.log2 - 109) 2 ≤ k := by
    rw [Int.fdiv_eq_ediv_of_nonneg _ (by decide)]
    omega
  simp only
  generalize Int.fdiv ((num.log2 : Int) - den.log2 - 109) 2 = digits at hdigits ⊢
  simp only [pow2, Nat.pow_eq]
  by_cases hsign : 0 ≤ digits
  · -- digits before the point are left out, and come back as zeros
    rw [if_pos hsign]
    obtain ⟨q, rfl⟩ : ∃ q : Nat, digits = q := ⟨digits.toNat, by omega⟩
    obtain ⟨r, rfl⟩ : ∃ r, k = q + r := ⟨k - q, by omega⟩
    have hroot : oddSqrt num (den * 2 ^ (2 * q)) ≤ 2 ^ r := oddSqrt_le (h.trans_eq (by ring))
    refine Binary64.isFinite_ofRatio _ hk ?_
    calc oddSqrt num (den * 2 ^ (2 * q)) * 2 ^ q ≤ 2 ^ r * 2 ^ q := by gcongr
      _ = 1 * 2 ^ (q + r) := by ring
      _ < 1 * 2 ^ (q + r + 1) :=
        (Nat.mul_lt_mul_left Nat.one_pos).mpr (Nat.pow_lt_pow_succ (by decide))
  · rw [if_neg hsign]
    obtain ⟨q, hq⟩ : ∃ q : Nat, -digits = q := ⟨(-digits).toNat, by omega⟩
    rw [hq]
    have hroot : oddSqrt (num * 2 ^ (2 * q)) den ≤ 2 ^ (k + q) := by
      refine oddSqrt_le ?_
      calc num * 2 ^ (2 * q) < den * (2 ^ k * 2 ^ k) * 2 ^ (2 * q) := by gcongr
        _ = den * (2 ^ (k + q) * 2 ^ (k + q)) := by ring
    refine Binary64.isFinite_ofRatio _ hk ?_
    calc oddSqrt (num * 2 ^ (2 * q)) den ≤ 2 ^ (k + q) := hroot
      _ = 2 ^ q * 2 ^ k := by ring
      _ < 2 ^ q * 2 ^ (k + 1) :=
        (Nat.mul_lt_mul_left (by positivity)).mpr (Nat.pow_lt_pow_succ (by decide))

end RenderBench
