import Mathlib.Analysis.Real.Sqrt
import RenderBench.Proofs.Number.Exact

/-!
# `Proofs.Number.Root` — roots are rounded once

The digits that are taken of a root are cut off, and the last one is made odd where something is lost. The ends of the
interval of a number are even in these digits, so the digits lie on the same side of them as the root does, and the
number that the digits are rounded to is the one the root is rounded to.

## Contents
- `floorSqrt_eq_sqrt`: the whole root.
- `le_sqrt_iff_le_oddSqrt`, `sqrt_le_iff_oddSqrt_le`: even numbers tell the digits of a root from the root in no way.
- `exists_digits`: a root is rounded by 55 of its digits or more.
- `sqrtRatio_nearest`: the number nearest to the root of a quotient.
-/

namespace RenderBench

/-! ## The whole root -/

theorem lt_floorSqrtSteps_add_one (fuel : Nat) :
    ∀ n < 4 ^ fuel, n < (floorSqrtSteps fuel n + 1) * (floorSqrtSteps fuel n + 1) := by
  induction fuel with
  | zero =>
    intro n hn
    simpa [floorSqrtSteps] using hn
  | succ fuel ih =>
    intro n hn
    rw [floorSqrtSteps]
    by_cases hzero : n = 0
    · rw [if_pos hzero, hzero]
      decide
    rw [if_neg hzero]
    simp only
    have hquarter : n / 4 < 4 ^ fuel := by
      rw [Nat.div_lt_iff_lt_mul (by decide), ← pow_succ]
      exact hn
    have hroot := ih (n / 4) hquarter
    generalize floorSqrtSteps fuel (n / 4) = r at hroot ⊢
    -- the digit is a one if its square fits, and otherwise the square is too large
    by_cases hnext : (2 * r + 1) * (2 * r + 1) ≤ n
    · rw [if_pos hnext]
      have hfour : (2 * r + 1 + 1) * (2 * r + 1 + 1) = 4 * ((r + 1) * (r + 1)) := by ring
      rw [hfour]
      omega
    · rw [if_neg hnext]
      exact not_le.mp hnext

/-- The whole root, digit by digit, is the greatest number whose square is not above the given one. -/
theorem floorSqrt_eq_sqrt (n : Nat) : floorSqrt n = n.sqrt := by
  refine Nat.eq_sqrt.mpr ⟨floorSqrt_mul_self_le n, lt_floorSqrtSteps_add_one _ n ?_⟩
  calc n < 2 ^ (n.log2 + 1) := Nat.lt_log2_self
    _ ≤ 4 ^ (n.log2 + 1) := Nat.pow_le_pow_left (by decide) _

/-! ## The digits of a root -/

/-- Making a number odd. -/
theorem or_one_eq (r : Nat) : r ||| 1 = 2 * (r / 2) + 1 := by
  have hdiv : (r ||| 1) / 2 = r / 2 := by
    rw [Nat.or_div_two]
    exact Nat.or_zero _
  have hmod : (r ||| 1) % 2 = 1 := Nat.or_mod_two_eq_one.mpr (.inr rfl)
  omega

variable {a b B : Nat}

theorem le_floorSqrt_div_iff (hb : 0 < b) : B ≤ floorSqrt (a / b) ↔ B * B * b ≤ a := by
  rw [floorSqrt_eq_sqrt, Nat.le_sqrt, Nat.le_div_iff_mul_le hb]

/-- An even number is not above the digits of a root iff it is not above the root. -/
theorem le_oddSqrt_iff (hb : 0 < b) (hB : B % 2 = 0) : B ≤ oddSqrt a b ↔ B * B * b ≤ a := by
  rw [← le_floorSqrt_div_iff hb]
  unfold oddSqrt
  simp only
  split
  · exact Iff.rfl
  · rw [or_one_eq]
    omega

/-- An even number is not below the digits of a root iff it is not below the root. -/
theorem oddSqrt_le_iff (hb : 0 < b) (hB : B % 2 = 0) : oddSqrt a b ≤ B ↔ a ≤ B * B * b := by
  have hroot := le_floorSqrt_div_iff (a := a) (B := B) hb
  unfold oddSqrt
  simp only
  split
  · next hexact =>
    rw [← Nat.mul_self_le_mul_self_iff, ← Nat.mul_le_mul_right_iff hb, hexact]
  · next hcut =>
    have hne : B * B * b ≠ a := by
      rintro rfl
      rw [Nat.mul_div_cancel _ hb, floorSqrt_eq_sqrt, Nat.sqrt_eq] at hcut
      exact hcut rfl
    rw [or_one_eq]
    omega

/-- Even numbers tell the digits of a root from the root in no way. -/
theorem le_sqrt_iff_le_oddSqrt (hb : 0 < b) (hB : B % 2 = 0) : (B : ℝ) ≤ √((a : ℝ) / b) ↔ B ≤ oddSqrt a b := by
  have hb' : (0 : ℝ) < b := by exact_mod_cast hb
  rw [le_oddSqrt_iff hb hB, Real.le_sqrt (by positivity) (by positivity), le_div_iff₀ hb', sq]
  exact_mod_cast Iff.rfl

theorem sqrt_le_iff_oddSqrt_le (hb : 0 < b) (hB : B % 2 = 0) : √((a : ℝ) / b) ≤ B ↔ oddSqrt a b ≤ B := by
  have hb' : (0 : ℝ) < b := by exact_mod_cast hb
  rw [oddSqrt_le_iff hb hB, Real.sqrt_le_left (by positivity), div_le_iff₀ hb', sq]
  exact_mod_cast Iff.rfl

/-! ## The root in an interval -/

variable {m d : Nat} {e : Int}

/-- With 55 digits or more, a root lies in an interval that its digits lie in. -/
theorem spans_of_around (hb : 0 < b) (hlarge : 2 ^ 54 * 2 ^ 54 * b ≤ a)
    (h : (RoundingInterval.of m e).Around ((oddSqrt a b : ℚ) / 2 ^ d)) :
    (RoundingInterval.of m e).Spans (√((a : ℝ) / b) / 2 ^ d) := by
  have hpos : (0 : ℚ) < 2 ^ d := by positivity
  have hpos' : (0 : ℝ) < 2 ^ d := by positivity
  obtain ⟨⟨hlow, hhigh⟩, hopen⟩ := h
  rw [le_div_iff₀ hpos] at hlow
  rw [div_le_iff₀ hpos] at hhigh
  rw [lt_div_iff₀ hpos, div_lt_iff₀ hpos] at hopen
  have hhighEven : (RoundingInterval.of m e).high * 2 ^ d % 2 = 0 := by
    rw [Nat.mul_mod, RoundingInterval.high_of, show (4 * m + 2) % 2 = 0 by omega, Nat.zero_mul]
  unfold RoundingInterval.Spans
  rw [le_div_iff₀ hpos', div_le_iff₀ hpos', lt_div_iff₀ hpos', div_lt_iff₀ hpos']
  -- where the lower end is odd, it belongs to the interval
  have hlowEven (hne : (RoundingInterval.of m e).low % 2 = 0) : (RoundingInterval.of m e).low * 2 ^ d % 2 = 0 := by
    rw [Nat.mul_mod, hne, Nat.zero_mul]
  have hcases : (RoundingInterval.of m e).low % 2 = 0 ∨
      (RoundingInterval.of m e).low = 2 ^ 54 - 1 ∧ m % 2 = 0 := by
    rcases RoundingInterval.low_of_cases m e with ⟨rfl, -, heq⟩ | ⟨-, heq⟩
    · exact .inr ⟨heq, by decide⟩
    · exact .inl (by omega)
  refine ⟨⟨?_, ?_⟩, fun hclosed => ⟨?_, ?_⟩⟩
  · rcases hcases with heven | ⟨heq, -⟩
    · exact_mod_cast (le_sqrt_iff_le_oddSqrt hb (hlowEven heven)).mpr (by exact_mod_cast hlow)
    · cases d with
      | zero =>
        -- the root has 55 digits, and the lower end one less
        have hroot := (le_sqrt_iff_le_oddSqrt (a := a) (B := 2 ^ 54) hb (by decide)).mpr
          ((le_oddSqrt_iff hb (by decide)).mpr hlarge)
        rw [heq]
        refine le_trans ?_ hroot
        norm_num
      | succ d =>
        have heven : (RoundingInterval.of m e).low * 2 ^ (d + 1) % 2 = 0 := by
          rw [pow_succ, ← mul_assoc]
          exact Nat.mul_mod_left _ 2
        exact_mod_cast (le_sqrt_iff_le_oddSqrt hb heven).mpr (by exact_mod_cast hlow)
  · exact_mod_cast (sqrt_le_iff_oddSqrt_le hb hhighEven).mpr (by exact_mod_cast hhigh)
  · have hodd := RoundingInterval.closed_of_eq_false.mp hclosed
    have heven := hcases.resolve_right fun h => by omega
    have hlt : ¬ oddSqrt a b ≤ (RoundingInterval.of m e).low * 2 ^ d := by
      exact_mod_cast not_le.mpr (hopen hclosed).1
    exact_mod_cast not_le.mp (mt (sqrt_le_iff_oddSqrt_le hb (hlowEven heven)).mp hlt)
  · have hlt : ¬ (RoundingInterval.of m e).high * 2 ^ d ≤ oddSqrt a b := by
      exact_mod_cast not_le.mpr (hopen hclosed).2
    exact_mod_cast not_le.mp (mt (le_sqrt_iff_le_oddSqrt hb hhighEven).mp hlt)

/-! ## The nearest number -/

variable {num den : Nat}

/-- A root is rounded by 55 of its digits or more: they are the digits of the root of `a / b`, and they count `2^q`
    each. -/
structure Digits (num den a b : Nat) (q : Int) : Prop where
  pos : 0 < b
  large : 2 ^ 54 * 2 ^ 54 * b ≤ a
  scale : (a : ℚ) / b = num / den * 2 ^ (-(2 * q))
  rounded : ∃ c d : Nat, d ≠ 0 ∧ sqrtRatio num den = .ofRatio false c d ∧ (c : ℚ) / d = oddSqrt a b * 2 ^ q

/-- The digits of a quotient from the logarithms of its two numbers. -/
theorem large_of_log2 (den : Nat) {p q : Nat} (hnum : num ≠ 0) (hscale : den.log2 + 109 + p ≤ num.log2 + q) :
    2 ^ 54 * 2 ^ 54 * (den * 2 ^ p) ≤ num * 2 ^ q :=
  calc 2 ^ 54 * 2 ^ 54 * (den * 2 ^ p) ≤ 2 ^ 54 * 2 ^ 54 * (2 ^ (den.log2 + 1) * 2 ^ p) := by
        gcongr
        exact Nat.lt_log2_self.le
    _ = 2 ^ (den.log2 + 109 + p) := by ring
    _ ≤ 2 ^ (num.log2 + q) := Nat.pow_le_pow_right (by decide) hscale
    _ = 2 ^ num.log2 * 2 ^ q := pow_add 2 _ _
    _ ≤ num * 2 ^ q := Nat.mul_le_mul_right _ (Nat.log2_self_le hnum)

theorem exists_digits (hnum : num ≠ 0) (hden : den ≠ 0) : ∃ a b q, Digits num den a b q := by
  have hdigits : 2 * Int.fdiv ((num.log2 : Int) - den.log2 - 109) 2 ≤ (num.log2 : Int) - den.log2 - 109 := by
    rw [Int.fdiv_eq_ediv_of_nonneg _ (by decide)]
    omega
  have hroot := sqrtRatio.eq_1 num den
  rw [if_neg hnum] at hroot
  simp only [pow2, Nat.pow_eq] at hroot
  generalize Int.fdiv ((num.log2 : Int) - den.log2 - 109) 2 = q at hdigits hroot
  by_cases hsign : 0 ≤ q
  · -- digits before the point are left out, and come back as zeros
    rw [if_pos hsign] at hroot
    lift q to ℕ using hsign
    rw [Int.toNat_natCast] at hroot
    refine ⟨num, den * 2 ^ (2 * q), q, by positivity, ?_, ?_, _, 1, one_ne_zero, hroot, ?_⟩
    · have hlarge := large_of_log2 den (p := 2 * q) (q := 0) hnum (by omega)
      rwa [pow_zero, Nat.mul_one] at hlarge
    · have htwice : (2 : Int) * q = (2 * q : Nat) := by push_cast; rfl
      rw [htwice, zpow_neg, zpow_natCast]
      push_cast
      rw [div_mul_eq_div_div, div_eq_mul_inv _ ((2 : ℚ) ^ (2 * q))]
    · rw [zpow_natCast]
      push_cast
      ring
  · rw [if_neg hsign] at hroot
    -- digits behind the point are made by a larger quotient
    obtain ⟨n, rfl⟩ : ∃ n : Nat, q = -n := ⟨q.natAbs, by omega⟩
    rw [neg_neg, Int.toNat_natCast] at hroot
    refine ⟨num * 2 ^ (2 * n), den, -n, Nat.pos_of_ne_zero hden, ?_, ?_, _, 2 ^ n, by positivity, hroot, ?_⟩
    · have hlarge := large_of_log2 den (p := 0) (q := 2 * n) hnum (by omega)
      rwa [pow_zero, Nat.mul_one] at hlarge
    · have htwice : (2 : Int) * n = (2 * n : Nat) := by push_cast; rfl
      rw [mul_neg, neg_neg, htwice, zpow_natCast]
      push_cast
      ring
    · rw [zpow_neg, zpow_natCast]
      push_cast
      rw [div_eq_mul_inv]

/-- The unit of the number that 55 digits or more are rounded to is no smaller than that of the digits. -/
theorem exists_unit {c : Nat} {q : Int} (h : Canonical m e) (hlarge : 2 ^ 54 ≤ c)
    (haround : (RoundingInterval.of m e).Around (c * 2 ^ q * 2 ^ (2 - e))) : ∃ d : Nat, e = q + 2 + d := by
  refine ⟨(e - (q + 2)).toNat, ?_⟩
  have hhigh := haround.half.1.2
  have hbits : (m : ℚ) + 1 ≤ 2 ^ 53 := by exact_mod_cast h.1
  have hlarge' : (2 ^ 54 : ℚ) ≤ c := by exact_mod_cast hlarge
  rw [mul_assoc, ← zpow_add₀ (by norm_num)] at hhigh
  by_contra hlt
  have hstep : (2 : ℚ) ^ (1 : Int) ≤ 2 ^ (q + (2 - e)) := zpow_le_zpow_right₀ (by norm_num) (by omega)
  rw [zpow_one] at hstep
  have hmul : (2 ^ 54 : ℚ) * 2 ≤ c * 2 ^ (q + (2 - e)) := mul_le_mul hlarge' hstep (by norm_num) (by positivity)
  linarith

/-- The root of a quotient under an even scale. -/
theorem sqrt_of_scale {r s : ℚ} {q : Int} (h : r = s * 2 ^ (-(2 * q))) : √(r : ℝ) = √(s : ℝ) * 2 ^ (-q) := by
  have hsquare : (r : ℝ) = s * (2 ^ (-q)) ^ 2 := by
    rw [h, ← zpow_natCast, ← zpow_mul]
    push_cast
    congr 2
    ring
  rw [hsquare, Real.sqrt_mul' _ (by positivity), Real.sqrt_sq (by positivity)]

/-- **Roots are rounded once**: a root that is a finite number is the number nearest to the exact one. -/
theorem sqrtRatio_nearest (hden : den ≠ 0) (hfinite : (sqrtRatio num den).isFinite) :
    (sqrtRatio num den).Nearest √((num : ℝ) / den) ∧ (sqrtRatio num den).isNegative = false := by
  by_cases hnum : num = 0
  · subst hnum
    refine ⟨?_, rfl⟩
    rw [Nat.cast_zero, zero_div, Real.sqrt_zero]
    exact Binary64.zero_nearest
  obtain ⟨a, b, q, hpos, hlarge, hscale, c, d, hd, hrounded, hdigits⟩ := exists_digits hnum hden
  rw [hrounded] at hfinite ⊢
  obtain ⟨m, e, h, heq, haround⟩ := Binary64.exists_around_of_ofRatio false hd hfinite
  rw [heq]
  refine ⟨Binary64.nearest_of_spans h ?_, rfl⟩
  rw [hdigits] at haround
  obtain ⟨k, rfl⟩ := exists_unit h ((le_oddSqrt_iff hpos (by decide)).mpr hlarge) haround
  have hunit : (2 : ℚ) ^ q * 2 ^ (2 - (q + 2 + k)) = (2 ^ k)⁻¹ := by
    rw [← zpow_add₀ (by norm_num), ← zpow_natCast, ← zpow_neg]
    congr 1
    ring
  have hroot := sqrt_of_scale hscale
  rw [mul_assoc, hunit, ← div_eq_mul_inv] at haround
  -- the digits lie in the interval of the number, and with them the root
  have hspans := spans_of_around hpos hlarge haround
  push_cast at hroot
  rw [hroot] at hspans
  have hunit' : (2 : ℝ) ^ (2 - (q + 2 + k)) = 2 ^ (-q) / 2 ^ k := by
    rw [← zpow_natCast, ← zpow_sub₀ (by norm_num)]
    congr 1
    ring
  rw [hunit', ← mul_div_assoc]
  exact hspans

end RenderBench
