/-!
# `Number.Rounding` — rounding an exact quotient to a whole number

Every decimal figure the reports print is an exact quotient of two whole numbers that has to be cut
to a whole number of units. The rule is the same everywhere: the nearest whole number, and of two
equally near ones the even one.

## Contents
- `roundHalfEven`: the rule.
- `two_mul_roundHalfEven_le` / `le_two_mul_roundHalfEven`: the result is at most half a unit away.
- `roundHalfEven_mono`: a larger numerator never gives a smaller result.
-/

namespace RenderBench

/-- The whole number nearest to `num / den`; a half goes to the even neighbour. -/
def roundHalfEven (num den : Nat) : Nat :=
  if den < 2 * (num % den) then num / den + 1
  else if 2 * (num % den) = den ∧ num / den % 2 = 1 then num / den + 1
  else num / den

theorem two_mul_roundHalfEven_le (num den : Nat) :
    2 * (den * roundHalfEven num den) ≤ 2 * num + den := by
  have h := Nat.div_add_mod num den
  unfold roundHalfEven
  split
  · rw [Nat.mul_add]; omega
  · split
    · rw [Nat.mul_add]; omega
    · omega

theorem le_two_mul_roundHalfEven (num den : Nat) (hd : 0 < den) :
    2 * num ≤ 2 * (den * roundHalfEven num den) + den := by
  have h := Nat.div_add_mod num den
  have hlt := Nat.mod_lt num hd
  unfold roundHalfEven
  split
  · rw [Nat.mul_add]; omega
  · split
    · rw [Nat.mul_add]; omega
    · omega

theorem div_le_roundHalfEven (num den : Nat) : num / den ≤ roundHalfEven num den := by
  unfold roundHalfEven
  repeat' split
  all_goals omega

theorem roundHalfEven_le_div_add_one (num den : Nat) :
    roundHalfEven num den ≤ num / den + 1 := by
  unfold roundHalfEven
  repeat' split
  all_goals omega

theorem roundHalfEven_mono {a b den : Nat} (h : a ≤ b) :
    roundHalfEven a den ≤ roundHalfEven b den := by
  have hdiv : a / den ≤ b / den := Nat.div_le_div_right h
  rcases Nat.lt_or_eq_of_le hdiv with hlt | heq
  · have ha := roundHalfEven_le_div_add_one a den
    have hb := div_le_roundHalfEven b den
    omega
  · have ha := Nat.div_add_mod a den
    have hb := Nat.div_add_mod b den
    have hmod : a % den ≤ b % den := by rw [heq] at ha; omega
    unfold roundHalfEven
    rw [heq]
    repeat' split
    all_goals omega

end RenderBench
