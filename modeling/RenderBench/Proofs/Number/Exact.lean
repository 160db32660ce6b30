import Mathlib.Data.Real.Basic
import Mathlib.Tactic.Positivity
import RenderBench.Proofs.Number.Nearest

/-!
# `Proofs.Number.Exact` — numbers nearest to exact values

A finite number has an exact value, and what rounding owes to an exact value is the number nearest to it. The
neighbours of a number are twice as far away from it as the ends of its interval are, so a number is the nearest one to
whatever lies in its interval; and a quotient lies in the interval of the number it is rounded to.

## Contents
- `Binary64.exact`, `Binary64.Nearest`: exact values, and the number nearest to a value.
- `RoundingInterval.Spans`: the interval of a number, for values that need not be rational.
- `Binary64.nearest_of_spans`: a number is the nearest one to the values in its interval.
- `Binary64.exists_around_of_ofRatio`: a quotient lies in the interval of the number it is rounded to.
- `Binary64.exact_ofRatio`: quotients that are not rounded at all.
-/

namespace RenderBench

/-! ## Rounding to a whole number -/

/-- What is rounded to an odd number is not half a unit away from it. -/
theorem lt_of_roundHalfEven_odd {a b : Nat} (hb : 0 < b) (hodd : roundHalfEven a b % 2 = 1) :
    2 * (b * roundHalfEven a b) < 2 * a + b ∧ 2 * a < 2 * (b * roundHalfEven a b) + b := by
  have hdiv := Nat.div_add_mod a b
  have hmod := Nat.mod_lt a hb
  unfold roundHalfEven at hodd ⊢
  split at hodd
  · next hup =>
    rw [if_pos hup, Nat.mul_add]
    omega
  · next hdown =>
    rw [if_neg hdown]
    split at hodd
    · omega
    · next htie =>
      rw [if_neg htie]
      omega

/-- A quotient is at most half a unit away from what it is rounded to, and less than that if this is odd. -/
theorem roundHalfEven_spec {a b : Nat} (hb : 0 < b) :
    ((roundHalfEven a b : ℚ) - 1 / 2 ≤ (a : ℚ) / b ∧ (a : ℚ) / b ≤ roundHalfEven a b + 1 / 2) ∧
      (roundHalfEven a b % 2 = 1 →
        (roundHalfEven a b : ℚ) - 1 / 2 < (a : ℚ) / b ∧ (a : ℚ) / b < roundHalfEven a b + 1 / 2) := by
  have hb' : (0 : ℚ) < b := by exact_mod_cast hb
  rw [le_div_iff₀ hb', div_le_iff₀ hb', lt_div_iff₀ hb', div_lt_iff₀ hb']
  refine ⟨⟨?_, ?_⟩, fun hodd => ?_⟩
  · have h : (2 * (b * roundHalfEven a b) : ℚ) ≤ 2 * a + b := by exact_mod_cast two_mul_roundHalfEven_le a b
    linarith
  · have h : (2 * a : ℚ) ≤ 2 * (b * roundHalfEven a b) + b := by exact_mod_cast le_two_mul_roundHalfEven a b hb
    linarith
  · obtain ⟨hlow, hhigh⟩ := lt_of_roundHalfEven_odd hb hodd
    have hlow' : (2 * (b * roundHalfEven a b) : ℚ) < 2 * a + b := by exact_mod_cast hlow
    have hhigh' : (2 * a : ℚ) < 2 * (b * roundHalfEven a b) + b := by exact_mod_cast hhigh
    constructor <;> linarith

/-- Rounding depends on the quotient alone. -/
theorem roundHalfEven_congr {a b c d : Nat} (hb : 0 < b) (hd : 0 < d) (h : (a : ℚ) / b = (c : ℚ) / d) :
    roundHalfEven a b = roundHalfEven c d := by
  obtain ⟨⟨hlow, hhigh⟩, hodd⟩ := roundHalfEven_spec (a := c) hd
  rw [← h] at hlow hhigh hodd
  exact roundHalfEven_eq_of_ratio hb hlow hhigh hodd

/-! ## Exact values -/

namespace Binary64

/-- The exact value of a finite number. -/
def exact : Binary64 → ℚ
  | .finite s m e _ => if s then -(m * 2 ^ e) else m * 2 ^ e
  | _ => 0

/-- The significand of a finite number. -/
def significand : Binary64 → Nat
  | .finite _ m _ _ => m
  | _ => 0

/-- **The number nearest to a value**: no finite number is nearer, and if another one is as near as it is, its
    significand is even. -/
structure Nearest (x : Binary64) (t : ℝ) : Prop where
  finite : x.isFinite
  le : ∀ y : Binary64, y.isFinite → |(x.exact : ℝ) - t| ≤ |(y.exact : ℝ) - t|
  even : ∀ y : Binary64, y.isFinite → |(y.exact : ℝ) - t| = |(x.exact : ℝ) - t| → y.exact ≠ x.exact →
    x.significand % 2 = 0

end Binary64

/-! ## The interval of a number -/

namespace RoundingInterval

/-- Whether a value that need not be rational, in quarters of a unit, lies in the interval. -/
def Spans (i : RoundingInterval) (u : ℝ) : Prop :=
  (i.low ≤ u ∧ u ≤ i.high) ∧ (i.closed = false → i.low < u ∧ u < i.high)

end RoundingInterval

namespace Binary64

/-! ## Neighbours -/

variable {m n : Nat} {e f : Int}

/-- A number of a smaller exponent than that of another one is at most half a significand of it. -/
theorem mul_zpow_le_of_lt (hn : n < 2 ^ 53) (hfe : f < e) : (n : ℚ) * 2 ^ f ≤ (2 ^ 52 - 1 / 2) * 2 ^ e := by
  have hcast : (n : ℚ) ≤ 2 ^ 53 - 1 := by
    have hle : ((n + 1 : Nat) : ℚ) ≤ (2 ^ 53 : Nat) := by exact_mod_cast hn
    push_cast at hle
    linarith
  have hstep : (2 : ℚ) ^ f ≤ 2 ^ (e - 1) := zpow_le_zpow_right₀ (by norm_num) (by omega)
  calc (n : ℚ) * 2 ^ f ≤ (2 ^ 53 - 1) * 2 ^ (e - 1) := mul_le_mul hcast hstep (by positivity) (by norm_num)
    _ = (2 ^ 52 - 1 / 2) * 2 ^ e := by
      rw [zpow_sub_one₀ (by norm_num)]
      ring

/-- A number of no smaller exponent is a whole number of units. -/
theorem exists_mul_zpow (hef : e ≤ f) : ∃ k : Nat, (n : ℚ) * 2 ^ f = k * 2 ^ e := by
  obtain ⟨d, rfl⟩ : ∃ d : Nat, f = e + d := ⟨(f - e).toNat, by omega⟩
  refine ⟨n * 2 ^ d, ?_⟩
  rw [zpow_add₀ (by norm_num), zpow_natCast]
  push_cast
  ring

/-- Above a number there is nothing for a whole unit. -/
theorem add_one_mul_zpow_le (h : Canonical m e) (h' : Canonical n f) (hlt : (m : ℚ) * 2 ^ e < n * 2 ^ f) :
    ((m : ℚ) + 1) * 2 ^ e ≤ n * 2 ^ f := by
  have hpos : (0 : ℚ) < 2 ^ e := zpow_pos (by norm_num) e
  rcases le_or_gt e f with hef | hfe
  · obtain ⟨k, hk⟩ := exists_mul_zpow (n := n) hef
    rw [hk] at hlt ⊢
    have hmk : m < k := by exact_mod_cast lt_of_mul_lt_mul_right hlt hpos.le
    have hcast : (m : ℚ) + 1 ≤ k := by exact_mod_cast hmk
    exact mul_le_mul_of_nonneg_right hcast hpos.le
  · -- numbers of smaller exponents do not come up to the significands of this one
    have hnormal : pow2 52 ≤ m := h.2.2.2.resolve_right (by have := h'.2.1; omega)
    have hcast : (2 ^ 52 : ℚ) ≤ m := by exact_mod_cast hnormal
    have hle := mul_zpow_le_of_lt h'.1 hfe
    have hm : (2 ^ 52 - 1 / 2 : ℚ) * 2 ^ e ≤ m * 2 ^ e := mul_le_mul_of_nonneg_right (by linarith) hpos.le
    linarith

/-- Below a number there is nothing for twice the way to the end of its interval. -/
theorem mul_zpow_le_low (h : Canonical m e) (h' : Canonical n f) (hlt : (n : ℚ) * 2 ^ f < m * 2 ^ e) :
    4 * ((n : ℚ) * 2 ^ f) ≤ (2 * (RoundingInterval.of m e).low - 4 * m) * 2 ^ e := by
  have hpos : (0 : ℚ) < 2 ^ e := zpow_pos (by norm_num) e
  have hm : 1 ≤ m := by
    by_contra hzero
    obtain rfl : m = 0 := by omega
    have hnonneg : (0 : ℚ) ≤ n * 2 ^ f := by positivity
    rw [Nat.cast_zero, zero_mul] at hlt
    linarith
  rcases le_or_gt e f with hef | hfe
  · have hlow : (4 * m - 2 : ℚ) ≤ (RoundingInterval.of m e).low := by
      have hnat : 4 * m ≤ (RoundingInterval.of m e).low + 2 := by
        rcases RoundingInterval.low_of_cases m e with ⟨-, -, hlow⟩ | ⟨-, hlow⟩ <;> omega
      have hcast : (4 * m : ℚ) ≤ (RoundingInterval.of m e).low + 2 := by exact_mod_cast hnat
      linarith
    -- in units of the smaller exponent both are whole numbers, one unit apart or more
    obtain ⟨k, hk⟩ := exists_mul_zpow (n := n) hef
    rw [hk] at hlt ⊢
    have hkm : k < m := by exact_mod_cast lt_of_mul_lt_mul_right hlt hpos.le
    have hcast : (k : ℚ) + 1 ≤ m := by exact_mod_cast hkm
    rw [← mul_assoc]
    exact mul_le_mul_of_nonneg_right (by linarith) hpos.le
  · -- of a larger exponent the number is normal, and the other one is below a power of two
    have hnormal : pow2 52 ≤ m := h.2.2.2.resolve_right (by have := h'.2.1; omega)
    simp only [pow2, Nat.pow_eq] at hnormal
    have hle := mul_zpow_le_of_lt h'.1 hfe
    refine (mul_le_mul_of_nonneg_left hle (by norm_num)).trans ?_
    rw [← mul_assoc]
    refine mul_le_mul_of_nonneg_right ?_ hpos.le
    rcases RoundingInterval.low_of_cases m e with ⟨rfl, -, hlow⟩ | ⟨hnot, hlow⟩
    · rw [hlow]
      norm_num
    · -- the number is a unit or more above the power of two
      have hnext : 2 ^ 52 + 1 ≤ m := by
        have hne : m ≠ 2 ^ 52 := fun hm => hnot ⟨hm, by have := h'.2.1; omega⟩
        omega
      have hcast : (2 ^ 52 + 1 : ℚ) ≤ m := by exact_mod_cast hnext
      have hlowCast : ((RoundingInterval.of m e).low : ℚ) = 4 * m - 2 := by
        rw [hlow, Nat.cast_sub (by omega)]
        push_cast
        ring
      rw [hlowCast]
      linarith

/-! ## The nearest number -/

variable {x y : Binary64}

theorem exact_of_nonneg (h : Canonical m e) : (Binary64.finite false m e h).exact = m * 2 ^ e := rfl

theorem exact_le_zero {n : Nat} {f : Int} {h : Canonical n f} : (Binary64.finite true n f h).exact ≤ 0 := by
  have hnonneg : (0 : ℚ) ≤ n * 2 ^ f := by positivity
  simp only [exact, if_true]
  linarith

/-- Whatever is above a number is as far above the end of its interval as this is above the number. -/
theorem high_le_of_exact_lt (h : Canonical m e) (hy : y.isFinite) (hlt : (m : ℚ) * 2 ^ e < y.exact) :
    ((RoundingInterval.of m e).high : ℚ) * 2 ^ e ≤ 2 * (m * 2 ^ e + y.exact) := by
  have hnonneg : (0 : ℚ) ≤ m * 2 ^ e := by positivity
  cases y with
  | nan => cases hy
  | infinite s => cases hy
  | finite s n f h' =>
    cases s with
    | true => linarith [exact_le_zero (h := h')]
    | false =>
      have hnext := add_one_mul_zpow_le h h' hlt
      rw [RoundingInterval.high_of]
      rw [exact_of_nonneg] at hlt ⊢
      push_cast
      linarith

/-- Whatever is below a number is as far below the end of its interval as this is below the number. -/
theorem le_low_of_exact_lt (h : Canonical m e) (hy : y.isFinite) (hlt : y.exact < (m : ℚ) * 2 ^ e) :
    2 * ((m : ℚ) * 2 ^ e + y.exact) ≤ (RoundingInterval.of m e).low * 2 ^ e := by
  have hpos : (0 : ℚ) < 2 ^ e := zpow_pos (by norm_num) e
  cases y with
  | nan => cases hy
  | infinite s => cases hy
  | finite s n f h' =>
    cases s with
    | true =>
      have hnat : 2 * m ≤ (RoundingInterval.of m e).low := by
        rcases RoundingInterval.low_of_cases m e with ⟨-, -, hlow⟩ | ⟨-, hlow⟩ <;> omega
      have hcast : (2 * m : ℚ) ≤ (RoundingInterval.of m e).low := by exact_mod_cast hnat
      have hmul := mul_le_mul_of_nonneg_right hcast hpos.le
      linarith [exact_le_zero (h := h')]
    | false =>
      have hprevious := mul_zpow_le_low h h' hlt
      rw [exact_of_nonneg]
      linarith

/-- Of two numbers on one side of the middle between them the nearer one is on this side. -/
theorem abs_sub_le_of_le_middle {a b t : ℝ} (hab : a < b) (ht : 2 * t ≤ a + b) :
    |a - t| ≤ |b - t| ∧ (2 * t < a + b → |a - t| < |b - t|) := by
  have hb : |b - t| = b - t := abs_of_nonneg (by linarith)
  rw [hb]
  exact ⟨abs_le.mpr ⟨by linarith, by linarith⟩, fun hlt => abs_lt.mpr ⟨by linarith, by linarith⟩⟩

theorem abs_sub_le_of_middle_le {a b t : ℝ} (hab : b < a) (ht : a + b ≤ 2 * t) :
    |a - t| ≤ |b - t| ∧ (a + b < 2 * t → |a - t| < |b - t|) := by
  have hb : |b - t| = t - b := by
    rw [abs_sub_comm]
    exact abs_of_nonneg (by linarith)
  rw [hb]
  exact ⟨abs_le.mpr ⟨by linarith, by linarith⟩, fun hlt => abs_lt.mpr ⟨by linarith, by linarith⟩⟩

/-- **A number is the nearest one to the values in its interval.** -/
theorem nearest_of_spans (h : Canonical m e) {t : ℝ} (hspans : (RoundingInterval.of m e).Spans (t * 2 ^ (2 - e))) :
    (Binary64.finite false m e h).Nearest t := by
  have hpos : (0 : ℝ) < 2 ^ e := zpow_pos (by norm_num) e
  have hquarters : t * 2 ^ (2 - e) = 4 * t / 2 ^ e := by
    rw [zpow_sub₀ (by norm_num)]
    norm_num
    ring
  unfold RoundingInterval.Spans at hspans
  rw [hquarters, le_div_iff₀ hpos, div_le_iff₀ hpos, lt_div_iff₀ hpos, div_lt_iff₀ hpos] at hspans
  obtain ⟨⟨hlow, hhigh⟩, hopen⟩ := hspans
  -- the ends of the interval are the middles between the number and its neighbours
  have hnear (y : Binary64) (hy : y.isFinite) (hne : y.exact ≠ (m : ℚ) * 2 ^ e) :
      |((m * 2 ^ e : ℚ) : ℝ) - t| ≤ |(y.exact : ℝ) - t| ∧
        (m % 2 = 1 → |((m * 2 ^ e : ℚ) : ℝ) - t| < |(y.exact : ℝ) - t|) := by
    rcases lt_or_gt_of_ne hne with hlt | hlt
    · have hmiddle : 2 * (((m * 2 ^ e : ℚ) : ℝ) + y.exact) ≤ (RoundingInterval.of m e).low * 2 ^ e := by
        have hcast := (Rat.cast_le (K := ℝ)).mpr (le_low_of_exact_lt h hy hlt)
        push_cast at hcast ⊢
        exact hcast
      obtain ⟨hle, hstrict⟩ := abs_sub_le_of_middle_le (a := ((m * 2 ^ e : ℚ) : ℝ)) (b := y.exact) (t := t)
        (by exact_mod_cast hlt) (by linarith)
      refine ⟨hle, fun hodd => hstrict ?_⟩
      linarith [(hopen (RoundingInterval.closed_of_eq_false.mpr hodd)).1]
    · have hmiddle : (RoundingInterval.of m e).high * 2 ^ e ≤ 2 * (((m * 2 ^ e : ℚ) : ℝ) + y.exact) := by
        have hcast := (Rat.cast_le (K := ℝ)).mpr (high_le_of_exact_lt h hy hlt)
        push_cast at hcast ⊢
        exact hcast
      obtain ⟨hle, hstrict⟩ := abs_sub_le_of_le_middle (a := ((m * 2 ^ e : ℚ) : ℝ)) (b := y.exact) (t := t)
        (by exact_mod_cast hlt) (by linarith)
      refine ⟨hle, fun hodd => hstrict ?_⟩
      linarith [(hopen (RoundingInterval.closed_of_eq_false.mpr hodd)).2]
  refine ⟨rfl, fun y hy => ?_, fun y hy htie hne => ?_⟩
  · by_cases heq : y.exact = (m : ℚ) * 2 ^ e
    · rw [heq]
      rfl
    · exact (hnear y hy heq).1
  · have hnotOdd : ¬ m % 2 = 1 := fun hodd => ((hnear y hy hne).2 hodd).ne' htie
    show m % 2 = 0
    omega

/-- The zero is nearest to nothing at all. -/
theorem zero_nearest : (zero false).Nearest 0 := by
  refine nearest_of_spans (m := 0) (e := -1074) (by decide) ?_
  rw [zero_mul]
  exact ⟨by norm_num [RoundingInterval.of], fun hclosed => absurd hclosed (by decide)⟩

/-- What the zero is nearest to is less than the least positive number. -/
theorem lt_of_zero_nearest {t : ℝ} (h : (zero false).Nearest t) : t < 2 ^ (-1074 : Int) := by
  by_contra hge
  rw [not_lt] at hge
  have hpos : (0 : ℝ) < 2 ^ (-1074 : Int) := zpow_pos (by norm_num) _
  have hle := h.le (.finite false 1 (-1074) (by decide)) rfl
  rw [zero, exact_of_nonneg, exact_of_nonneg, Nat.cast_zero, Nat.cast_one, zero_mul, one_mul, Rat.cast_zero,
    zero_sub, abs_neg, abs_of_nonneg (hpos.le.trans hge)] at hle
  rw [Rat.cast_zpow, Rat.cast_ofNat] at hle
  generalize (2 : ℝ) ^ (-1074 : Int) = least at hge hpos hle
  rw [abs_sub_comm, abs_of_nonneg (sub_nonneg.mpr hge)] at hle
  linarith

/-! ## Quotients -/

variable {num den : Nat}

/-- What a quotient in range of an exponent is rounded to has the quotient in its interval. -/
theorem around_of_round (hden : den ≠ 0) (h : Fits num den e)
    (hround : roundHalfEven (scaled num den e).1 (scaled num den e).2 = m) :
    (RoundingInterval.of m e).Around ((num : ℚ) / den * 2 ^ (2 - e)) := by
  have hpos := scaled_snd_pos num (Nat.pos_of_ne_zero hden) e
  obtain ⟨⟨hlow, hhigh⟩, hodd⟩ := roundHalfEven_spec (a := (scaled num den e).1) hpos
  rw [hround] at hlow hhigh hodd
  rw [ratio_quarters]
  have hnonneg : (0 : ℚ) ≤ (scaled num den e).1 / (scaled num den e).2 := by positivity
  have hhighEq := RoundingInterval.cast_high_of m e
  refine ⟨⟨?_, by linarith⟩, fun hclosed => ⟨?_, ?_⟩⟩
  · rcases RoundingInterval.low_of_cases m e with ⟨rfl, hnotLeast, heq⟩ | ⟨-, heq⟩
    · -- a quotient that fits is not below a power of two
      have hge : (2 ^ 52 : ℚ) ≤ (scaled num den e).1 / (scaled num den e).2 := by
        rw [le_div_iff₀ (by exact_mod_cast hpos)]
        exact_mod_cast h.ge.resolve_left hnotLeast
      rw [heq]
      norm_num
      linarith
    · rcases Nat.lt_or_ge (4 * m) 2 with hsmall | hlarge
      · rw [heq, Nat.sub_eq_zero_of_le hsmall.le, Nat.cast_zero]
        linarith
      · rw [heq, Nat.cast_sub hlarge]
        push_cast
        linarith
  · have hm := RoundingInterval.closed_of_eq_false.mp hclosed
    rcases RoundingInterval.low_of_cases m e with ⟨rfl, -, -⟩ | ⟨-, heq⟩
    · omega
    · rw [heq, Nat.cast_sub (by omega)]
      push_cast
      linarith [(hodd hm).1]
  · rw [hhighEq]
    linarith [(hodd (RoundingInterval.closed_of_eq_false.mp hclosed)).2]

/-- A quotient that carries into the next exponent lies below the power of two there, in its interval. -/
theorem around_of_carry (hden : den ≠ 0) (h : Fits num den e)
    (hround : roundHalfEven (scaled num den e).1 (scaled num den e).2 = 2 ^ 53) :
    (RoundingInterval.of (2 ^ 52) (e + 1)).Around ((num : ℚ) / den * 2 ^ (2 - (e + 1))) := by
  have hpos := scaled_snd_pos num (Nat.pos_of_ne_zero hden) e
  have hpos' : (0 : ℚ) < (scaled num den e).2 := by exact_mod_cast hpos
  have hlow := (roundHalfEven_spec (a := (scaled num den e).1) hpos).1.1
  rw [hround] at hlow
  have hlt : ((scaled num den e).1 : ℚ) / (scaled num den e).2 < 2 ^ 53 := by
    rw [div_lt_iff₀ hpos']
    exact_mod_cast h.lt
  have hhalves : (num : ℚ) / den * 2 ^ (2 - (e + 1)) = 2 * ((scaled num den e).1 / (scaled num den e).2) := by
    rw [cast_scaled, show 2 - (e + 1) = -e + 1 by ring, zpow_add₀ (by norm_num), zpow_one]
    ring
  rw [hhalves]
  have hnotLeast : e + 1 ≠ -1074 := by
    have := h.least
    omega
  refine ⟨⟨?_, ?_⟩, fun hclosed => absurd (RoundingInterval.closed_of_eq_false.mp hclosed) (by decide)⟩
  · rw [RoundingInterval.cast_low_of_power hnotLeast]
    norm_num at hlow ⊢
    linarith
  · rw [RoundingInterval.high_of]
    norm_num
    linarith

/-- **A quotient lies in the interval of the number it is rounded to.** -/
theorem exists_around_of_ofRatio (negative : Bool) (hden : den ≠ 0) (hfinite : (ofRatio negative num den).isFinite) :
    ∃ m e, ∃ h : Canonical m e, ofRatio negative num den = .finite negative m e h ∧
      (RoundingInterval.of m e).Around ((num : ℚ) / den * 2 ^ (2 - e)) := by
  unfold ofRatio at hfinite ⊢
  by_cases hnum : num = 0
  · subst hnum
    refine ⟨0, -1074, by decide, if_pos rfl, ?_⟩
    rw [Nat.cast_zero, zero_div, zero_mul]
    exact ⟨by norm_num [RoundingInterval.of], fun hclosed => absurd hclosed (by decide)⟩
  · rw [if_neg hnum] at hfinite ⊢
    have hfits := exponentFor_fits hnum hden
    simp only at hfinite ⊢
    split at hfinite
    · next hcarry =>
      rw [if_pos hcarry]
      split at hfinite
      · next h =>
        rw [dif_pos h]
        exact ⟨_, _, h, rfl, around_of_carry hden hfits hcarry⟩
      · cases hfinite
    · next hround =>
      rw [if_neg hround]
      split at hfinite
      · next h =>
        rw [dif_pos h]
        exact ⟨_, _, h, rfl, around_of_round hden hfits rfl⟩
      · cases hfinite

/-- A whole number of 53 bits over a power of two that is not too large is the value of a number. -/
theorem exists_canonical {n j : Nat} (hn : n < 2 ^ 53) (hj : j ≤ rangeBits) :
    ∃ m e, Canonical m e ∧ (m : ℚ) * 2 ^ e = n / 2 ^ j := by
  rw [rangeBits] at hj
  rcases Nat.eq_zero_or_pos n with rfl | hpos
  · exact ⟨0, -1074, by decide, by norm_num⟩
  have hbits : n.log2 < 53 := (Nat.log2_lt hpos.ne').mpr hn
  obtain ⟨k, hk⟩ : ∃ k, n.log2 + k = 52 := ⟨52 - n.log2, by omega⟩
  refine ⟨n * 2 ^ k, -((j : Int) + k), ⟨?_, by omega, by omega, .inl ?_⟩, ?_⟩
  · calc n * 2 ^ k < 2 ^ (n.log2 + 1) * 2 ^ k := by gcongr; exact Nat.lt_log2_self
      _ = 2 ^ 53 := by rw [← pow_add]; congr 1; omega
  · calc 2 ^ 52 = 2 ^ n.log2 * 2 ^ k := by rw [← pow_add, hk]
      _ ≤ n * 2 ^ k := by gcongr; exact Nat.log2_self_le hpos.ne'
  · rw [zpow_neg, zpow_add₀ (by norm_num), zpow_natCast, zpow_natCast]
    push_cast
    field_simp

/-- **A quotient that is the value of a number** is rounded to the number. -/
theorem exact_ofRatio (negative : Bool) {n j : Nat} (hn : n < 2 ^ 53) (hj : j ≤ rangeBits) :
    ∃ m e, ∃ h : Canonical m e, ofRatio negative n (2 ^ j) = .finite negative m e h ∧ (m : ℚ) * 2 ^ e = n / 2 ^ j := by
  rcases Nat.eq_zero_or_pos n with rfl | hpos
  · exact ⟨0, -1074, by decide, if_pos rfl, by norm_num⟩
  obtain ⟨m, e, h, hvalue⟩ := exists_canonical hn hj
  refine ⟨m, e, h, ?_, hvalue⟩
  have hm : m ≠ 0 := by
    rintro rfl
    have hquotient : (0 : ℚ) < n / 2 ^ j := by positivity
    rw [← hvalue, Nat.cast_zero, zero_mul] at hquotient
    exact lt_irrefl _ hquotient
  have hquarters : (n : ℚ) / (2 ^ j : Nat) * 2 ^ (2 - e) = 4 * m := by
    push_cast
    rw [← hvalue, mul_assoc, ← zpow_add₀ (by norm_num)]
    norm_num
    ring
  refine ofRatio_of_around negative h hm (by positivity) ?_
  rw [hquarters]
  have hlow : (RoundingInterval.of m e).low < 4 * m := by
    rcases RoundingInterval.low_of_cases m e with ⟨-, -, heq⟩ | ⟨-, heq⟩ <;> omega
  have hhigh : 4 * m < (RoundingInterval.of m e).high := Nat.lt_add_of_pos_right (by decide)
  have hlow' : ((RoundingInterval.of m e).low : ℚ) < 4 * m := by exact_mod_cast hlow
  have hhigh' : (4 * m : ℚ) < (RoundingInterval.of m e).high := by exact_mod_cast hhigh
  exact ⟨⟨hlow'.le, hhigh'.le⟩, fun _ => ⟨hlow', hhigh'⟩⟩

end Binary64

end RenderBench
