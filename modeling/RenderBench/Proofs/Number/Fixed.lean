import RenderBench.Number.Fixed
import RenderBench.Proofs.Number.Exact
import RenderBench.Proofs.Number.Layout

/-!
# `Proofs.Number.Fixed` — numbers written with a fixed number of places

The units of the last place are a whole number, and its digits are cut in front of the last places: what stands before
the point is the quotient by a power of ten, and what stands after it the remainder, filled up with zeros. So the text
is read as the units over the power of ten.

## Contents
- `paddedDecimal_split`: the digits of a number, cut in two.
- `fixedDigits_eq`: the text of a whole number of units.
- `printedNumber?`, `printedNumber?_fixedDigits`: the number at the front of a text.
- `fixed_ofRatio`: the units of a quotient that is not rounded.
-/

namespace RenderBench

open WrittenNumeral

variable {width places units n : Nat}

/-! ## Digits before and after the point -/

/-- The last digit of a number stands alone. -/
theorem paddedDecimal_succ (hwidth : 0 < width) (n : Nat) :
    paddedDecimal (width + 1) n = paddedDecimal width (n / 10) ++ decimalDigits (n % 10) := by
  have hlast : (decimalDigits (n % 10)).length = 1 := by
    unfold decimalDigits
    rw [Nat.toDigits_of_lt_base (Nat.mod_lt n (by decide))]
    rfl
  unfold paddedDecimal padLeft
  rcases Nat.eq_zero_or_pos (n / 10) with hzero | hpos
  · -- there is one digit, and the zero in front of it is one of those that fill up
    obtain ⟨w, rfl⟩ : ∃ w, width = w + 1 := ⟨width - 1, by omega⟩
    have hsmall : n % 10 = n := by omega
    rw [hsmall] at hlast ⊢
    rw [hzero, hlast, show decimalDigits 0 = ['0'] from rfl, List.length_singleton, Nat.add_sub_cancel,
      Nat.add_sub_cancel, List.replicate_succ']
  · have hdigits : decimalDigits n = decimalDigits (n / 10) ++ decimalDigits (n % 10) := by
      have happend := Nat.toDigits_append_toDigits (b := 10) (by decide) hpos (Nat.mod_lt n (by decide))
      rw [Nat.div_add_mod] at happend
      exact happend.symm
    rw [hdigits, List.length_append, hlast, Nat.add_sub_add_right, List.append_assoc]

/-- The digits of a number, cut in front of the last ones. -/
theorem paddedDecimal_split (hplaces : 0 < places) :
    ∀ n, paddedDecimal (places + 1) n = decimalDigits (n / 10 ^ places) ++ paddedDecimal places (n % 10 ^ places) := by
  have hone (n : Nat) : paddedDecimal 1 n = decimalDigits n := by
    have hlength : 0 < (decimalDigits n).length := List.length_pos_iff.mpr (decimalDigits_ne_nil n)
    unfold paddedDecimal padLeft
    rw [Nat.sub_eq_zero_of_le hlength]
    rfl
  -- one digit after the other is cut off at the end, where a number grows
  induction places with
  | zero => exact absurd hplaces (lt_irrefl 0)
  | succ p ih =>
    intro n
    rcases Nat.eq_zero_or_pos p with rfl | hpos
    · rw [paddedDecimal_succ (by decide), hone, hone, pow_one]
    · have hdiv : n / 10 / 10 ^ p = n / 10 ^ (p + 1) := by rw [Nat.div_div_eq_div_mul, pow_succ']
      have hmod : n % 10 ^ (p + 1) / 10 = n / 10 % 10 ^ p := by rw [pow_succ', Nat.mod_mul_right_div_self]
      have hlast : n % 10 ^ (p + 1) % 10 = n % 10 := Nat.mod_mod_of_dvd n (Dvd.intro_left (10 ^ p) rfl)
      rw [paddedDecimal_succ (by omega), ih hpos, hdiv, paddedDecimal_succ hpos, hmod, hlast, List.append_assoc]

/-- **A whole number of units** has its quotient before the point and its remainder after it. -/
theorem fixedDigits_eq (hplaces : 0 < places) (units : Nat) :
    fixedDigits false places units =
      decimalDigits (units / 10 ^ places) ++ '.' :: paddedDecimal places (units % 10 ^ places) := by
  have hlength : (paddedDecimal places (units % 10 ^ places)).length = places :=
    length_paddedDecimal hplaces (Nat.mod_lt _ (by positivity))
  have hcut : (decimalDigits (units / 10 ^ places) ++ paddedDecimal places (units % 10 ^ places)).length - places =
      (decimalDigits (units / 10 ^ places)).length := by
    rw [List.length_append, hlength, Nat.add_sub_cancel]
  unfold fixedDigits
  simp only [paddedDecimal_split hplaces, hcut, if_neg (Nat.pos_iff_ne_zero.mp hplaces), List.take_left, List.drop_left,
    Bool.false_eq_true, if_false]

/-! ## The number at the front of a text -/

/-- The exact value of a numeral. -/
def Numeral.exact (n : Numeral) : ℚ :=
  natOfDigits (n.whole ++ n.fraction.getD []) * 10 ^ (n.exponent.getD 0 - ((n.fraction.getD []).length : Int))

/-- The number at the front of a text. -/
def printedNumber? (text : String) : Option ℚ := (scanNumeral? false text.toList).map fun p => p.1.exact

/-- A whole number of units is read as it is written, over the power of ten. -/
theorem printedNumber?_fixedDigits {rest : List Char} (hplaces : 0 < places) (hrest : EndsNumeral rest) (units : Nat) :
    printedNumber? (String.ofList (fixedDigits false places units ++ rest)) = some ((units : ℚ) / 10 ^ places) := by
  have hlength : (paddedDecimal places (units % 10 ^ places)).length = places :=
    length_paddedDecimal hplaces (Nat.mod_lt _ (by positivity))
  have hproper : Proper ⟨decimalDigits (units / 10 ^ places), some (paddedDecimal places (units % 10 ^ places)), none⟩ :=
    ⟨allDigits_decimalDigits _, decimalDigits_ne_nil _, allDigits_paddedDecimal _ _, fun p hp => nomatch hp⟩
  have hchars : fixedDigits false places units = chars
      ⟨decimalDigits (units / 10 ^ places), some (paddedDecimal places (units % 10 ^ places)), none⟩ := by
    rw [fixedDigits_eq hplaces, chars, fractionChars, exponentChars, List.append_nil]
  have hdigits : natOfDigits (decimalDigits (units / 10 ^ places) ++ paddedDecimal places (units % 10 ^ places)) =
      units := by
    rw [natOfDigits_append, natOfDigits_decimalDigits, natOfDigits_paddedDecimal, hlength, Nat.div_add_mod']
  unfold printedNumber?
  rw [String.toList_ofList, hchars, scanNumeral?_chars hproper hrest, Option.map_some, Option.some.injEq]
  simp only [numeral, Numeral.exact, Option.getD_some, hdigits, hlength, Option.map_none, Option.getD_none, zero_sub,
    zpow_neg, zpow_natCast, div_eq_mul_inv]

/-! ## Quotients -/

/-- **A quotient that is not rounded** has the units that are nearest to it. -/
theorem fixed_ofRatio {j : Nat} (hn : n < 2 ^ 53) (hj : j ≤ rangeBits) (places : Nat) :
    (Binary64.ofRatio false n (2 ^ j)).isFinite ∧
      (Binary64.ofRatio false n (2 ^ j)).fixed false places =
        String.ofList (fixedDigits false places (unitsOf places n (2 ^ j))) := by
  obtain ⟨m, e, h, hround, hvalue⟩ := Binary64.exact_ofRatio false hn hj
  have hunits : unitsOf places (Binary64.magnitude m e).1 (Binary64.magnitude m e).2 = unitsOf places n (2 ^ j) := by
    refine roundHalfEven_congr (magnitude_snd_pos m e) (by positivity) ?_
    push_cast
    rw [mul_div_right_comm, cast_magnitude, hvalue, mul_div_right_comm]
  rw [hround]
  refine ⟨rfl, ?_⟩
  simp only [Binary64.fixed, hunits, Bool.false_eq_true, if_false]

end RenderBench
