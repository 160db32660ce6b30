import Mathlib.Algebra.Order.Field.Power
import Mathlib.Algebra.Order.Field.Rat
import Mathlib.Tactic.FieldSimp
import Mathlib.Tactic.NormNum
import RenderBench.Number.Shortest
import RenderBench.Proofs.Number.Range

/-!
# `Proofs.Number.Nearest` — the values that round to a number

Around every number there is an interval of the values that are rounded to it. It reaches half a unit to either side,
below a power of two a quarter, and its ends belong to it where the significand is even. Whatever quotient lies in the
interval of a number, and whatever decimal, is read as that number.

## Contents
- `RoundingInterval.Around`: the interval, measured in quarters of a unit, and its ends.
- `roundHalfEven_eq`: the whole number a quotient is rounded to.
- `ofRatio_of_round`, `ofRatio_of_carry`: the two ways to a significand.
- `ofRatio_of_around_same`, `ofRatio_of_around_below`: a quotient of the exponent of a number, and one of the exponent before.
- `ofRatio_of_around`, `ofDecimal_of_around`: what lies in the interval of a number is read as the number.
-/

namespace RenderBench

/-! ## Rounding to a whole number -/

/-- A quotient that is less than half a unit away from a whole number, or half a unit from an even one, is rounded
    to it. -/
theorem roundHalfEven_eq {a b m : Nat} (hb : 0 < b) (hlow : 2 * (b * m) ≤ 2 * a + b) (hhigh : 2 * a ≤ 2 * (b * m) + b)
    (heven : m % 2 = 1 → 2 * (b * m) < 2 * a + b ∧ 2 * a < 2 * (b * m) + b) : roundHalfEven a b = m := by
  have hdiv := Nat.div_add_mod a b
  have hmod := Nat.mod_lt a hb
  have hq : a / b = m ∨ a / b + 1 = m := by
    have hle : a / b ≤ m := by
      by_contra hlt
      have hmul : b * (m + 1) ≤ b * (a / b) := Nat.mul_le_mul_left b (by omega)
      rw [Nat.mul_add] at hmul
      omega
    have hge : m ≤ a / b + 1 := by
      by_contra hlt
      have hmul : b * (a / b + 2) ≤ b * m := Nat.mul_le_mul_left b (by omega)
      rw [Nat.mul_add] at hmul
      omega
    omega
  unfold roundHalfEven
  rcases hq with hq | hq
  · -- the quotient is cut off: what is left over is at most half a unit
    rw [hq] at hdiv ⊢
    by_cases htie : 2 * (a % b) = b
    · have hodd : m % 2 ≠ 1 := fun h => by have := (heven h).2; omega
      rw [if_neg (by omega), if_neg (fun h => hodd h.2)]
    · rw [if_neg (by omega), if_neg (fun h => htie h.1)]
  · have hm : b * m = b * (a / b) + b := by rw [← hq, Nat.mul_add, Nat.mul_one]
    by_cases htie : 2 * (a % b) = b
    · have hodd : a / b % 2 = 1 := by
        by_contra hne
        have := (heven (by omega)).1
        omega
      rw [if_neg (by omega), if_pos ⟨htie, hodd⟩, hq]
    · rw [if_pos (by omega), hq]

/-- The same for a quotient that is known as a rational number. -/
theorem roundHalfEven_eq_of_ratio {a b m : Nat} (hb : 0 < b) (hlow : (m : ℚ) - 1 / 2 ≤ (a : ℚ) / b)
    (hhigh : (a : ℚ) / b ≤ m + 1 / 2)
    (hodd : m % 2 = 1 → (m : ℚ) - 1 / 2 < (a : ℚ) / b ∧ (a : ℚ) / b < m + 1 / 2) : roundHalfEven a b = m := by
  have hb' : (0 : ℚ) < b := by exact_mod_cast hb
  rw [le_div_iff₀ hb'] at hlow
  rw [div_le_iff₀ hb'] at hhigh
  rw [lt_div_iff₀ hb', div_lt_iff₀ hb'] at hodd
  refine roundHalfEven_eq hb ?_ ?_ fun h => ⟨?_, ?_⟩
  · have hcast : (2 * (b * m) : ℚ) ≤ 2 * a + b := by linarith
    exact_mod_cast hcast
  · have hcast : (2 * a : ℚ) ≤ 2 * (b * m) + b := by linarith
    exact_mod_cast hcast
  · have hcast : (2 * (b * m) : ℚ) < 2 * a + b := by linarith [(hodd h).1]
    exact_mod_cast hcast
  · have hcast : (2 * a : ℚ) < 2 * (b * m) + b := by linarith [(hodd h).2]
    exact_mod_cast hcast

/-! ## Scales -/

theorem cast_scaled (num den : Nat) (e : Int) :
    ((Binary64.scaled num den e).1 : ℚ) / (Binary64.scaled num den e).2 = (num : ℚ) / den * 2 ^ (-e) := by
  unfold Binary64.scaled
  by_cases he : 0 ≤ e
  · obtain ⟨n, rfl⟩ := Int.eq_ofNat_of_zero_le he
    simp only [if_pos he, Int.toNat_natCast, pow2, Nat.pow_eq]
    push_cast
    rw [zpow_neg, zpow_natCast, div_mul_eq_div_div, div_eq_mul_inv _ ((2 : ℚ) ^ n)]
  · obtain ⟨n, hn⟩ : ∃ n : Nat, -e = n := ⟨(-e).toNat, by omega⟩
    simp only [if_neg he, hn, Int.toNat_natCast, pow2, Nat.pow_eq]
    push_cast
    rw [zpow_natCast]
    ring

theorem scaled_lt_iff_lt {num den : Nat} (hden : den ≠ 0) (k : Nat) (e : Int) :
    (Binary64.scaled num den e).1 < k * (Binary64.scaled num den e).2 ↔ (num : ℚ) / den < k * 2 ^ e := by
  have hpos : (0 : ℚ) < (Binary64.scaled num den e).2 := by
    exact_mod_cast Binary64.scaled_snd_pos num (Nat.pos_of_ne_zero hden) e
  have htwo : (0 : ℚ) < 2 ^ e := zpow_pos (by norm_num) e
  have hscaled := cast_scaled num den e
  rw [zpow_neg, ← div_eq_mul_inv] at hscaled
  rw [← div_lt_iff₀ htwo, ← hscaled, div_lt_iff₀ hpos]
  exact_mod_cast Iff.rfl

/-- The exponent of a quotient is the only one that it fits. -/
theorem exponentFor_eq {num den : Nat} {e : Int} (hnum : num ≠ 0) (hden : den ≠ 0) (hleast : -1074 ≤ e)
    (hlt : (num : ℚ) / den < 2 ^ 53 * 2 ^ e) (hge : e = -1074 ∨ 2 ^ 52 * 2 ^ e ≤ (num : ℚ) / den) :
    Binary64.exponentFor num den = e := by
  have hfits := Binary64.exponentFor_fits hnum hden
  generalize Binary64.exponentFor num den = f at hfits ⊢
  have hltf : (num : ℚ) / den < 2 ^ 53 * 2 ^ f := by
    exact_mod_cast (scaled_lt_iff_lt hden (2 ^ 53) f).mp hfits.lt
  have hgef : f = -1074 ∨ 2 ^ 52 * 2 ^ f ≤ (num : ℚ) / den := by
    refine hfits.ge.imp id fun h => ?_
    have hnot := mt (scaled_lt_iff_lt hden (2 ^ 52) f).mpr (not_lt.mpr h)
    exact_mod_cast not_lt.mp hnot
  -- of two exponents the larger one leaves a bit unused in the significand of the smaller one
  have hcross {x y : Int} (hxy : x < y) (hx : (num : ℚ) / den < 2 ^ 53 * 2 ^ x)
      (hy : 2 ^ 52 * 2 ^ y ≤ (num : ℚ) / den) : False := by
    have hpow : (2 : ℚ) ^ (x + 1) ≤ 2 ^ y := zpow_le_zpow_right₀ (by norm_num) (by omega)
    rw [zpow_add_one₀ (by norm_num)] at hpow
    linarith
  rcases lt_trichotomy f e with hfe | hfe | hfe
  · rcases hge with rfl | hge
    · exact absurd hfits.least (by omega)
    · exact (hcross hfe hltf hge).elim
  · exact hfe
  · rcases hgef with rfl | hgef
    · exact absurd hleast (by omega)
    · exact (hcross hfe hlt hgef).elim

/-! ## The interval of a number -/

namespace RoundingInterval

/-- Whether a value, in quarters of a unit, lies in the interval. -/
def Around (i : RoundingInterval) (u : ℚ) : Prop :=
  (i.low ≤ u ∧ u ≤ i.high) ∧ (i.closed = false → i.low < u ∧ u < i.high)

theorem high_of (m : Nat) (e : Int) : (RoundingInterval.of m e).high = 4 * m + 2 := rfl

theorem cast_high_of (m : Nat) (e : Int) : ((RoundingInterval.of m e).high : ℚ) = 4 * m + 2 := by
  rw [high_of]
  push_cast
  rfl

/-- Below a power of two the interval reaches a quarter of a unit, and half a unit otherwise. -/
theorem low_of_cases (m : Nat) (e : Int) :
    m = 2 ^ 52 ∧ e ≠ -1074 ∧ (RoundingInterval.of m e).low = 4 * m - 1 ∨
      ¬ (m = 2 ^ 52 ∧ e ≠ -1074) ∧ (RoundingInterval.of m e).low = 4 * m - 2 := by
  by_cases h : m = 2 ^ 52 ∧ e ≠ -1074
  · refine .inl ⟨h.1, h.2, ?_⟩
    simp only [RoundingInterval.of, pow2, Nat.pow_eq, if_pos h]
  · refine .inr ⟨h, ?_⟩
    simp only [RoundingInterval.of, pow2, Nat.pow_eq, if_neg h]

/-- The lower end below a power of two. -/
theorem cast_low_of_power {e : Int} (he : e ≠ -1074) : ((RoundingInterval.of (2 ^ 52) e).low : ℚ) = 2 ^ 54 - 1 := by
  rcases low_of_cases (2 ^ 52) e with ⟨-, -, hlow⟩ | ⟨hnot, -⟩
  · rw [hlow]
    norm_num
  · exact absurd ⟨rfl, he⟩ hnot

theorem closed_of_eq_false {m : Nat} {e : Int} : (RoundingInterval.of m e).closed = false ↔ m % 2 = 1 := by
  simp only [RoundingInterval.of, beq_eq_false_iff_ne]
  omega

variable {m : Nat} {e : Int} {u : ℚ}

/-- The interval reaches at most half a unit to either side, and not so far if the significand is odd. -/
theorem Around.half (h : (RoundingInterval.of m e).Around u) :
    (4 * m - 2 ≤ u ∧ u ≤ 4 * m + 2) ∧ (m % 2 = 1 → 4 * m - 2 < u ∧ u < 4 * m + 2) := by
  have hlow : (4 * m - 2 : ℚ) ≤ (RoundingInterval.of m e).low := by
    have hnat : 4 * m ≤ (RoundingInterval.of m e).low + 2 := by
      rcases low_of_cases m e with ⟨-, -, hlow⟩ | ⟨-, hlow⟩ <;> omega
    have hcast : (4 * m : ℚ) ≤ (RoundingInterval.of m e).low + 2 := by exact_mod_cast hnat
    linarith
  obtain ⟨⟨hle, hge⟩, hopen⟩ := h
  rw [cast_high_of] at hge hopen
  refine ⟨⟨hlow.trans hle, hge⟩, fun hodd => ?_⟩
  obtain ⟨hgt, hlt⟩ := hopen (closed_of_eq_false.mpr hodd)
  exact ⟨hlow.trans_lt hgt, hlt⟩

/-- Below a power of two the interval reaches a quarter of a unit. -/
theorem Around.quarter (he : e ≠ -1074) (h : (RoundingInterval.of (2 ^ 52) e).Around u) : 2 ^ 54 - 1 ≤ u :=
  (cast_low_of_power he).symm.le.trans h.1.1

end RoundingInterval

/-! ## Quotients -/

namespace Binary64

variable {m num den : Nat} {e : Int}

/-- A quotient that rounds to a significand of its own exponent. -/
theorem ofRatio_of_round (negative : Bool) (h : Canonical m e) (hnum : num ≠ 0) (hexponent : exponentFor num den = e)
    (hround : roundHalfEven (scaled num den e).1 (scaled num den e).2 = m) :
    ofRatio negative num den = .finite negative m e h := by
  have hbits := h.1
  unfold ofRatio
  rw [if_neg hnum]
  simp only [hexponent, hround]
  rw [if_neg (Nat.ne_of_lt hbits), dif_pos h]

/-- A quotient that rounds to a significand of one bit too many, which is the power of two of the next exponent. -/
theorem ofRatio_of_carry (negative : Bool) (h : Canonical (2 ^ 52) e) (hnum : num ≠ 0)
    (hexponent : exponentFor num den = e - 1)
    (hround : roundHalfEven (scaled num den (e - 1)).1 (scaled num den (e - 1)).2 = 2 ^ 53) :
    ofRatio negative num den = .finite negative (2 ^ 52) e h := by
  have hcanonical : Canonical (pow2 52) (e - 1 + 1) := by
    rw [sub_add_cancel]
    exact h
  unfold ofRatio
  rw [if_neg hnum]
  simp only [hexponent, hround, pow2, Nat.pow_eq, if_true]
  rw [dif_pos hcanonical]
  congr 1
  rw [sub_add_cancel]

/-- A quotient without its exponent, in quarters of a unit. -/
theorem ratio_quarters (num den : Nat) (e : Int) :
    (num : ℚ) / den * 2 ^ (2 - e) = 4 * ((scaled num den e).1 / (scaled num den e).2) := by
  rw [cast_scaled, sub_eq_neg_add, zpow_add₀ (by norm_num)]
  ring

/-- A quotient in units of any power of two. -/
theorem ratio_in_units (num den : Nat) (e : Int) :
    (num : ℚ) / den = (scaled num den e).1 / (scaled num den e).2 * 2 ^ e := by
  rw [cast_scaled, mul_assoc, ← zpow_add₀ (by norm_num), neg_add_cancel, zpow_zero, mul_one]

/-- There are twice as many units of the exponent before. -/
theorem scaled_sub_one (num den : Nat) (e : Int) :
    ((scaled num den (e - 1)).1 : ℚ) / (scaled num den (e - 1)).2 =
      2 * ((scaled num den e).1 / (scaled num den e).2) := by
  rw [cast_scaled, cast_scaled, neg_sub, sub_eq_neg_add, zpow_add₀ (by norm_num), zpow_one]
  ring

/-- A quotient in the interval of a number whose exponent it has. -/
theorem ofRatio_of_around_same (negative : Bool) (h : Canonical m e) (hnum : num ≠ 0) (hden : den ≠ 0)
    (hfits : e = -1074 ∨ 2 ^ 52 * 2 ^ e ≤ (num : ℚ) / den)
    (haround : (RoundingInterval.of m e).Around ((num : ℚ) / den * 2 ^ (2 - e))) :
    ofRatio negative num den = .finite negative m e h := by
  obtain ⟨⟨hlow, hhigh⟩, hodd⟩ := haround.half
  obtain ⟨hbits, hleast, -, -⟩ := id h
  have hbits' : (m : ℚ) + 1 ≤ 2 ^ 53 := by exact_mod_cast hbits
  rw [ratio_quarters] at hlow hhigh hodd
  have hlt : (num : ℚ) / den < 2 ^ 53 * 2 ^ e := by
    rw [ratio_in_units num den e]
    exact mul_lt_mul_of_pos_right (by linarith) (zpow_pos (by norm_num) e)
  refine ofRatio_of_round negative h hnum (exponentFor_eq hnum hden hleast hlt hfits) ?_
  refine roundHalfEven_eq_of_ratio (scaled_snd_pos num (Nat.pos_of_ne_zero hden) e) (by linarith) (by linarith)
    fun hm => ⟨by linarith [(hodd hm).1], by linarith [(hodd hm).2]⟩

/-- A quotient in the interval of a number whose exponent it has not: it lies below a power of two, the quarter of a
    unit that is half a unit of the exponent before, and is rounded up to the power. -/
theorem ofRatio_of_around_below (negative : Bool) (h : Canonical m e) (hnum : num ≠ 0) (hden : den ≠ 0)
    (hnotLeast : e ≠ -1074) (hbelow : (num : ℚ) / den < 2 ^ 52 * 2 ^ e)
    (haround : (RoundingInterval.of m e).Around ((num : ℚ) / den * 2 ^ (2 - e))) :
    ofRatio negative num den = .finite negative m e h := by
  obtain ⟨-, hleast, -, hnormal⟩ := id h
  have hbelow' : ((scaled num den e).1 : ℚ) / (scaled num den e).2 < 2 ^ 52 := by
    rw [ratio_in_units num den e] at hbelow
    exact lt_of_mul_lt_mul_right hbelow (zpow_pos (by norm_num) e).le
  have hpower : m = 2 ^ 52 := by
    have hlow := haround.half.1.1
    rw [ratio_quarters] at hlow
    have hlt : (m : ℚ) < 2 ^ 52 + 1 := by linarith
    have hlt' : m < 2 ^ 52 + 1 := by exact_mod_cast hlt
    have hge : 2 ^ 52 ≤ m := hnormal.resolve_right hnotLeast
    omega
  subst hpower
  have hquarter := haround.quarter hnotLeast
  rw [ratio_quarters] at hquarter
  have hexponent : exponentFor num den = e - 1 := by
    have hunit : (0 : ℚ) < 2 ^ (e - 1) := zpow_pos (by norm_num) _
    refine exponentFor_eq hnum hden (by omega) ?_ (.inr ?_)
    · rw [ratio_in_units num den (e - 1), scaled_sub_one]
      exact mul_lt_mul_of_pos_right (by linarith) hunit
    · rw [ratio_in_units num den (e - 1), scaled_sub_one]
      exact mul_le_mul_of_nonneg_right (by linarith) hunit.le
  refine ofRatio_of_carry negative h hnum hexponent ?_
  refine roundHalfEven_eq_of_ratio (scaled_snd_pos num (Nat.pos_of_ne_zero hden) _) ?_ ?_ fun h => absurd h (by decide)
  all_goals
    rw [scaled_sub_one]
    push_cast
    linarith

/-- **A quotient in the interval of a number** is rounded to it. -/
theorem ofRatio_of_around (negative : Bool) (h : Canonical m e) (hm : m ≠ 0) (hden : den ≠ 0)
    (haround : (RoundingInterval.of m e).Around ((num : ℚ) / den * 2 ^ (2 - e))) :
    ofRatio negative num den = .finite negative m e h := by
  have hnum : num ≠ 0 := by
    rintro rfl
    have hlow := haround.half.1.1
    have hone : (1 : ℚ) ≤ m := by exact_mod_cast Nat.one_le_iff_ne_zero.mpr hm
    rw [Nat.cast_zero, zero_div, zero_mul] at hlow
    linarith
  by_cases hfits : e = -1074 ∨ 2 ^ 52 * 2 ^ e ≤ (num : ℚ) / den
  · exact ofRatio_of_around_same negative h hnum hden hfits haround
  · obtain ⟨hnotLeast, hbelow⟩ := not_or.mp hfits
    exact ofRatio_of_around_below negative h hnum hden hnotLeast (not_le.mp hbelow) haround

/-! ## Decimals -/

variable {digits : Nat} {exponent : Int}

/-- A decimal as a quotient of whole numbers, its power of ten being positive or not. -/
theorem cast_decimal (digits : Nat) (exponent : Int) :
    ((0 ≤ exponent → ((digits * pow10 exponent.toNat : Nat) : ℚ) / (1 : Nat) = digits * 10 ^ exponent) ∧
      (exponent < 0 → (digits : ℚ) / (pow10 (-exponent).toNat : Nat) = digits * 10 ^ exponent)) := by
  constructor
  · intro hexponent
    lift exponent to ℕ using hexponent
    simp only [Int.toNat_natCast, pow10, Nat.pow_eq, Nat.cast_mul, Nat.cast_pow, Nat.cast_ofNat, Nat.cast_one,
      div_one, zpow_natCast]
  · intro hexponent
    obtain ⟨n, rfl⟩ : ∃ n : Nat, exponent = -n := ⟨exponent.natAbs, by omega⟩
    simp only [neg_neg, Int.toNat_natCast, pow10, Nat.pow_eq, Nat.cast_pow, Nat.cast_ofNat, zpow_neg, zpow_natCast,
      div_eq_mul_inv]

/-- A decimal in the interval of a number is of the size of finite numbers. -/
theorem decimal_bounds (h : Canonical m e) (hm : m ≠ 0)
    (haround : (RoundingInterval.of m e).Around (digits * 10 ^ exponent * 2 ^ (2 - e))) :
    (2 : ℚ) ^ (-1075 : Int) ≤ digits * 10 ^ exponent ∧ (digits : ℚ) * 10 ^ exponent < 2 ^ (1024 : Int) := by
  obtain ⟨⟨hlow, hhigh⟩, -⟩ := haround.half
  obtain ⟨hbits, hleast, hmost, -⟩ := h
  simp only [pow2, Nat.pow_eq] at hbits
  have hone : (1 : ℚ) ≤ m := by exact_mod_cast Nat.one_le_iff_ne_zero.mpr hm
  have hbits' : (m : ℚ) + 1 ≤ 2 ^ 53 := by exact_mod_cast hbits
  have hunit : (0 : ℚ) < 2 ^ (e - 2) := zpow_pos (by norm_num) _
  have hvalue : (digits : ℚ) * 10 ^ exponent = digits * 10 ^ exponent * 2 ^ (2 - e) * 2 ^ (e - 2) := by
    rw [mul_assoc, ← zpow_add₀ (by norm_num), sub_add_sub_cancel, sub_self, zpow_zero, mul_one]
  rw [hvalue]
  constructor
  · calc (2 : ℚ) ^ (-1075 : Int) ≤ 2 ^ (1 + (e - 2)) := zpow_le_zpow_right₀ (by norm_num) (by omega)
      _ = 2 * 2 ^ (e - 2) := by rw [zpow_add₀ (by norm_num), zpow_one]
      _ ≤ _ := mul_le_mul_of_nonneg_right (by linarith) hunit.le
  · calc (digits : ℚ) * 10 ^ exponent * 2 ^ (2 - e) * 2 ^ (e - 2) < 2 ^ 55 * 2 ^ (e - 2) :=
        mul_lt_mul_of_pos_right (by linarith) hunit
      _ = 2 ^ (55 + (e - 2)) := by rw [zpow_add₀ (by norm_num)]; norm_num
      _ ≤ 2 ^ (1024 : Int) := zpow_le_zpow_right₀ (by norm_num) (by omega)

/-- Eight stands in for ten where all has to be a power of two. -/
theorem two_pow_le_ten_pow (n : Nat) : (2 : ℚ) ^ (3 * n) ≤ 10 ^ n := by
  rw [pow_mul]
  exact pow_le_pow_left₀ (by norm_num) (by norm_num) n

/-- A decimal of the size of finite numbers has no large exponent. -/
theorem exponent_le_of_lt (hdigits : digits ≠ 0) (hlarge : (digits : ℚ) * 10 ^ exponent < 2 ^ (1024 : Int)) :
    exponent ≤ 400 := by
  by_contra hlt
  have hone : (1 : ℚ) ≤ digits := by exact_mod_cast Nat.one_le_iff_ne_zero.mpr hdigits
  have hpos : (0 : ℚ) ≤ 10 ^ exponent := (zpow_pos (by norm_num) _).le
  have hle : (2 : ℚ) ^ (1024 : Int) ≤ digits * 10 ^ exponent :=
    calc (2 : ℚ) ^ (1024 : Int) ≤ 2 ^ ((3 * 401 : Nat) : Int) := zpow_le_zpow_right₀ (by norm_num) (by norm_num)
      _ = 2 ^ (3 * 401) := zpow_natCast _ _
      _ ≤ 10 ^ 401 := two_pow_le_ten_pow 401
      _ = 10 ^ ((401 : Nat) : Int) := (zpow_natCast _ _).symm
      _ ≤ 10 ^ exponent := zpow_le_zpow_right₀ (by norm_num) (by omega)
      _ ≤ digits * 10 ^ exponent := le_mul_of_one_le_left hpos hone
  exact absurd hlarge (not_lt.mpr hle)

/-- Nor has it a small one, but for the digits it has. -/
theorem le_exponent_of_le (hsmall : (2 : ℚ) ^ (-1075 : Int) ≤ digits * 10 ^ exponent) :
    -400 - (Nat.log2 digits : Int) ≤ exponent := by
  by_contra hlt
  obtain ⟨n, rfl⟩ : ∃ n : Nat, exponent = -n := ⟨exponent.natAbs, by omega⟩
  have hcancel : (digits : ℚ) * 10 ^ (-(n : Int)) * 10 ^ n = digits := by
    rw [zpow_neg, zpow_natCast, mul_assoc, inv_mul_cancel₀ (by positivity), mul_one]
  have hle : (2 : ℚ) ^ (digits.log2 + 1) ≤ digits := by
    calc (2 : ℚ) ^ (digits.log2 + 1) = 2 ^ ((digits.log2 + 1 : Nat) : Int) := (zpow_natCast _ _).symm
      _ ≤ 2 ^ (-1075 + ((3 * n : Nat) : Int)) := zpow_le_zpow_right₀ (by norm_num) (by push_cast; omega)
      _ = 2 ^ (-1075 : Int) * 2 ^ (3 * n) := by rw [zpow_add₀ (by norm_num), zpow_natCast]
      _ ≤ digits * 10 ^ (-(n : Int)) * 10 ^ n :=
        mul_le_mul hsmall (two_pow_le_ten_pow n) (by positivity) (by positivity)
      _ = digits := hcancel
  exact absurd (by exact_mod_cast hle) (not_le.mpr (Nat.lt_log2_self (n := digits)))

/-- **A decimal in the interval of a number** is read as it. -/
theorem ofDecimal_of_around (negative : Bool) (h : Canonical m e) (hm : m ≠ 0)
    (haround : (RoundingInterval.of m e).Around (digits * 10 ^ exponent * 2 ^ (2 - e))) :
    ofDecimal negative digits exponent = .finite negative m e h := by
  obtain ⟨hsmall, hlarge⟩ := decimal_bounds h hm haround
  have hdigits : digits ≠ 0 := by
    rintro rfl
    simp only [Nat.cast_zero, zero_mul] at hsmall
    exact absurd hsmall (not_le.mpr (zpow_pos (by norm_num) _))
  have hnotLarge : ¬ 400 < exponent := not_lt.mpr (exponent_le_of_lt hdigits hlarge)
  have hnotSmall : ¬ exponent < -400 - (Nat.log2 digits : Int) := not_lt.mpr (le_exponent_of_le hsmall)
  unfold ofDecimal
  rw [if_neg hdigits, if_neg hnotLarge, if_neg hnotSmall]
  obtain ⟨hwhole, hquotient⟩ := cast_decimal digits exponent
  split
  · next hexponent =>
    exact ofRatio_of_around negative h hm one_ne_zero (by rwa [hwhole hexponent])
  · next hexponent =>
    refine ofRatio_of_around negative h hm (Nat.pow_pos (by decide)).ne' ?_
    rwa [hquotient (not_le.mp hexponent)]

end Binary64

end RenderBench
