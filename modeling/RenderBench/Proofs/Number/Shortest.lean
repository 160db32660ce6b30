import Mathlib.Tactic.NormNum
import Mathlib.Tactic.Positivity
import RenderBench.Proofs.Number.Digits
import RenderBench.Proofs.Number.Nearest

/-!
# `Proofs.Number.Shortest` — the shortest decimal reads back

The search for the shortest decimal looks at the two neighbours of a number on one decimal grid after the other. What
it finds lies in the interval of the number, and it finds something: the grid of seventeen digits is finer than the
interval is wide, so that not both neighbours can miss it.

## Contents
- `contains_iff`: the check against the interval of a number, as a statement about rational numbers.
- `nearestOnGrid_contains`, `isSome_nearestOnGrid`: the neighbours on one grid.
- `pow_decimalPoint_le`: the order of magnitude that the grids are chosen by.
- `shortest_around`: the decimal found is in the interval.
-/

namespace RenderBench

variable {m : Nat} {e g : Int}

/-! ## Exact values -/

theorem scaledPowers_snd_pos (a : Nat) (p q : Int) : 0 < (scaledPowers a p q).2 :=
  Nat.mul_pos (Nat.pow_pos (by decide)) (Nat.pow_pos (by decide))

/-- A power with a signed exponent, its positive part over its negative one. -/
theorem zpow_eq_div (base : Nat) (hbase : 0 < base) (p : Int) :
    (base : ℚ) ^ p = (base : ℚ) ^ p.toNat / (base : ℚ) ^ (-p).toNat := by
  have hne : (base : ℚ) ≠ 0 := by exact_mod_cast hbase.ne'
  rw [eq_div_iff (pow_ne_zero _ hne), ← zpow_natCast, ← zpow_natCast, ← zpow_add₀ hne]
  congr 1
  omega

theorem cast_scaledPowers (a : Nat) (p q : Int) :
    ((scaledPowers a p q).1 : ℚ) / (scaledPowers a p q).2 = a * 2 ^ p * 10 ^ q := by
  have htwo := zpow_eq_div 2 (by decide) p
  have hten := zpow_eq_div 10 (by decide) q
  push_cast at htwo hten
  rw [htwo, hten, mul_assoc, div_mul_div_comm, mul_div_assoc', ← mul_assoc]
  simp only [scaledPowers, pow2, pow10, Nat.pow_eq]
  push_cast
  rfl

theorem cast_magnitude (m : Nat) (e : Int) :
    ((Binary64.magnitude m e).1 : ℚ) / (Binary64.magnitude m e).2 = m * 2 ^ e := by
  unfold Binary64.magnitude
  split
  · next h =>
    lift e to ℕ using h
    simp only [Int.toNat_natCast, pow2, Nat.pow_eq, Nat.cast_mul, Nat.cast_pow, Nat.cast_ofNat, Nat.cast_one,
      div_one, zpow_natCast]
  · next h =>
    obtain ⟨n, rfl⟩ : ∃ n : Nat, e = -n := ⟨e.natAbs, by omega⟩
    simp only [neg_neg, Int.toNat_natCast, pow2, Nat.pow_eq, Nat.cast_pow, Nat.cast_ofNat, zpow_neg, zpow_natCast,
      div_eq_mul_inv]

theorem magnitude_fst_pos (hm : m ≠ 0) (e : Int) : 0 < (Binary64.magnitude m e).1 := by
  unfold Binary64.magnitude
  split
  · exact Nat.mul_pos (Nat.pos_of_ne_zero hm) (Nat.pow_pos (by decide))
  · exact Nat.pos_of_ne_zero hm

theorem magnitude_snd_pos (m : Nat) (e : Int) : 0 < (Binary64.magnitude m e).2 := by
  unfold Binary64.magnitude
  split
  · exact Nat.one_pos
  · exact Nat.pow_pos (by decide)

/-! ## One grid -/

namespace RoundingInterval

/-- The check looks whether the grid point lies in the interval. -/
theorem contains_iff (i : RoundingInterval) (e : Int) (d : Nat) (g : Int) :
    i.contains e d g = true ↔ i.Around (d * 10 ^ g * 2 ^ (2 - e)) := by
  have hpos : (0 : ℚ) < (scaledPowers d (2 - e) g).2 := by exact_mod_cast scaledPowers_snd_pos d (2 - e) g
  have hvalue : (d : ℚ) * 10 ^ g * 2 ^ (2 - e) = (scaledPowers d (2 - e) g).1 / (scaledPowers d (2 - e) g).2 := by
    rw [cast_scaledPowers, mul_right_comm]
  unfold contains Around
  rw [hvalue, le_div_iff₀ hpos, div_le_iff₀ hpos, lt_div_iff₀ hpos, div_lt_iff₀ hpos]
  norm_cast
  cases i.closed with
  | true => simp only [if_true, Bool.and_eq_true, decide_eq_true_eq, reduceCtorEq, false_imp_iff, and_true]
  | false =>
    simp only [Bool.false_eq_true, if_false, Bool.and_eq_true, decide_eq_true_eq, true_imp_iff]
    exact ⟨fun h => ⟨⟨h.1.le, h.2.le⟩, h⟩, fun h => h.2⟩

end RoundingInterval

/-- Rounding takes one of the two whole numbers around a quotient. -/
theorem roundHalfEven_eq_or (a b : Nat) : roundHalfEven a b = a / b ∨ roundHalfEven a b = a / b + 1 := by
  unfold roundHalfEven
  split
  · exact .inr rfl
  · split
    · exact .inr rfl
    · exact .inl rfl

/-- What is taken from a grid rounds to the number. -/
theorem nearestOnGrid_contains {i : RoundingInterval} {d : Nat} (h : nearestOnGrid i e g = some d) :
    i.contains e d g = true := by
  unfold nearestOnGrid at h
  dsimp only at h
  split at h
  · next hboth =>
    obtain ⟨hbelow, habove⟩ := Bool.and_eq_true_iff.mp hboth
    cases h
    rcases roundHalfEven_eq_or (scaledPowers i.value (e - 2) (-g)).1 (scaledPowers i.value (e - 2) (-g)).2 with h | h
    · rwa [h]
    · rwa [h]
  · split at h
    · next hbelow =>
      cases h
      exact hbelow
    · split at h
      · next habove =>
        cases h
        exact habove
      · cases h

/-- The lower neighbour of a number on a grid. -/
def lowerNeighbour (i : RoundingInterval) (e g : Int) : Nat :=
  (scaledPowers i.value (e - 2) (-g)).1 / (scaledPowers i.value (e - 2) (-g)).2

theorem isSome_nearestOnGrid {i : RoundingInterval}
    (h : i.contains e (lowerNeighbour i e g) g = true ∨ i.contains e (lowerNeighbour i e g + 1) g = true) :
    (nearestOnGrid i e g).isSome := by
  unfold lowerNeighbour at h
  unfold nearestOnGrid
  dsimp only
  rcases h with h | h
  · simp only [h, Bool.true_and, if_true]
    split
    · rfl
    · rfl
  · simp only [h, Bool.and_true, if_true]
    split
    · rfl
    · rfl

/-- A number lies between its neighbours on a grid, all of them in quarters of a unit. -/
theorem lowerNeighbour_bounds (i : RoundingInterval) (e g : Int) :
    (lowerNeighbour i e g : ℚ) * (10 ^ g * 2 ^ (2 - e)) ≤ i.value ∧
      i.value < ((lowerNeighbour i e g : ℚ) + 1) * (10 ^ g * 2 ^ (2 - e)) := by
  have hspacing : (0 : ℚ) < 10 ^ g * 2 ^ (2 - e) := mul_pos (zpow_pos (by norm_num) g) (zpow_pos (by norm_num) _)
  have hratio : ((scaledPowers i.value (e - 2) (-g)).1 : ℚ) / (scaledPowers i.value (e - 2) (-g)).2 =
      i.value / (10 ^ g * 2 ^ (2 - e)) := by
    rw [cast_scaledPowers, zpow_neg, ← neg_sub 2 e, zpow_neg, div_eq_mul_inv, mul_inv, mul_assoc,
      mul_comm ((2 : ℚ) ^ (2 - e))⁻¹]
  have hpos := scaledPowers_snd_pos i.value (e - 2) (-g)
  have hpos' : (0 : ℚ) < (scaledPowers i.value (e - 2) (-g)).2 := by exact_mod_cast hpos
  rw [← le_div_iff₀ hspacing, ← div_lt_iff₀ hspacing, ← hratio, le_div_iff₀ hpos', div_lt_iff₀ hpos']
  constructor
  · exact_mod_cast Nat.div_mul_le_self _ _
  · exact_mod_cast (Nat.div_lt_iff_lt_mul hpos).mp (Nat.lt_succ_self _)

/-- A grid that is finer than an interval is wide has a point in it. -/
theorem isSome_nearestOnGrid_of_fine {i : RoundingInterval} (hlow : i.low ≤ i.value) (hhigh : i.value < i.high)
    (hfine : (10 : ℚ) ^ g * 2 ^ (2 - e) < i.high - i.low) : (nearestOnGrid i e g).isSome := by
  obtain ⟨hbelow, habove⟩ := lowerNeighbour_bounds i e g
  have hlow' : (i.low : ℚ) ≤ i.value := by exact_mod_cast hlow
  have hhigh' : (i.value : ℚ) < i.high := by exact_mod_cast hhigh
  apply isSome_nearestOnGrid
  rw [RoundingInterval.contains_iff, RoundingInterval.contains_iff]
  push_cast
  rw [mul_assoc, mul_assoc]
  by_cases hlower : (i.low : ℚ) < lowerNeighbour i e g * (10 ^ g * 2 ^ (2 - e))
  · have hupper : (lowerNeighbour i e g : ℚ) * (10 ^ g * 2 ^ (2 - e)) < i.high := hbelow.trans_lt hhigh'
    exact .inl ⟨⟨hlower.le, hupper.le⟩, fun _ => ⟨hlower, hupper⟩⟩
  · have hlower' : (i.low : ℚ) < (lowerNeighbour i e g + 1) * (10 ^ g * 2 ^ (2 - e)) := hlow'.trans_lt habove
    have hupper : ((lowerNeighbour i e g : ℚ) + 1) * (10 ^ g * 2 ^ (2 - e)) < i.high := by linarith
    exact .inr ⟨⟨hlower'.le, hupper.le⟩, fun _ => ⟨hlower', hupper⟩⟩

/-! ## The grids -/

/-- The first digit of a quotient stands before its decimal point. -/
theorem pow_decimalPoint_le {num den : Nat} (hnum : 0 < num) (hden : 0 < den) :
    (10 : ℚ) ^ (decimalPoint num den - 1) ≤ (num : ℚ) / den := by
  have hden' : (0 : ℚ) < den := by exact_mod_cast hden
  rw [le_div_iff₀ hden']
  unfold decimalPoint
  split
  · next hle =>
    have hquotient : num / den ≠ 0 := (Nat.div_pos hle hden).ne'
    have hlength : 0 < (decimalDigits (num / den)).length := List.length_pos_of_ne_nil (decimalDigits_ne_nil _)
    have hpow : 10 ^ ((decimalDigits (num / den)).length - 1) * den ≤ num :=
      (Nat.mul_le_mul_right den (pow_length_decimalDigits_le hquotient)).trans (Nat.div_mul_le_self num den)
    have hexponent : ((decimalDigits (num / den)).length : Int) - 1 =
        (((decimalDigits (num / den)).length - 1 : Nat) : Int) := by omega
    rw [hexponent, zpow_natCast]
    exact_mod_cast hpow
  · next hlt =>
    -- the digits counted are those of the quotient the other way round, less one unit
    have hceil : den ≤ num * ((den + num - 1) / num) := by
      have hmod := Nat.div_add_mod (den + num - 1) num
      have hmodLt := Nat.mod_lt (den + num - 1) hnum
      omega
    have hceilPos : 0 < (den + num - 1) / num := Nat.div_pos (by omega) hnum
    have hpow : den ≤ num * 10 ^ (decimalDigits ((den + num - 1) / num - 1)).length := by
      refine hceil.trans (Nat.mul_le_mul_left num ?_)
      have hdigits := lt_pow_length_decimalDigits ((den + num - 1) / num - 1)
      omega
    dsimp only
    generalize (decimalDigits ((den + num - 1) / num - 1)).length = k at hpow
    have hexponent : (1 : Int) - k - 1 = -k := by ring
    rw [hexponent, zpow_neg, zpow_natCast, inv_mul_le_iff₀ (by positivity)]
    rw [mul_comm] at hpow
    exact_mod_cast hpow

theorem shortestFrom_contains {i : RoundingInterval} {point : Int} {r : Decimal64} (fuel n : Nat)
    (h : shortestFrom i e point fuel n = some r) : i.contains e r.digits r.exponent = true := by
  induction fuel generalizing n with
  | zero => cases h
  | succ fuel ih =>
    unfold shortestFrom at h
    split at h
    · next hgrid =>
      cases h
      exact nearestOnGrid_contains hgrid
    · exact ih (n + 1) h

/-- The search does not go past a grid on which something is found. -/
theorem isSome_shortestFrom {i : RoundingInterval} {point : Int} {k : Nat} (fuel n : Nat) (hge : n ≤ k)
    (hlt : k < n + fuel) (h : (nearestOnGrid i e (point - k)).isSome) : (shortestFrom i e point fuel n).isSome := by
  induction fuel generalizing n with
  | zero => omega
  | succ fuel ih =>
    unfold shortestFrom
    split
    · rfl
    · next hnone =>
      have hne : n ≠ k := by
        rintro rfl
        rw [hnone] at h
        cases h
      exact ih (n + 1) (by omega) (by omega)

/-! ## The shortest decimal -/

/-- The grid of seventeen digits is finer than the interval is wide. -/
theorem seventeen_fine (h : Canonical m e) (hm : m ≠ 0) :
    (10 : ℚ) ^ (decimalPoint (Binary64.magnitude m e).1 (Binary64.magnitude m e).2 - (17 : Nat)) * 2 ^ (2 - e) <
      (RoundingInterval.of m e).high - (RoundingInterval.of m e).low := by
  obtain ⟨hbits, -⟩ := h
  simp only [pow2, Nat.pow_eq] at hbits
  have hbits' : (m : ℚ) + 1 ≤ 2 ^ 53 := by exact_mod_cast hbits
  have hpoint := pow_decimalPoint_le (magnitude_fst_pos hm e) (magnitude_snd_pos m e)
  rw [cast_magnitude] at hpoint
  generalize decimalPoint (Binary64.magnitude m e).1 (Binary64.magnitude m e).2 = point at hpoint ⊢
  have hunit : (0 : ℚ) < 2 ^ (2 - e) := zpow_pos (by norm_num) _
  have hspacing : (10 : ℚ) ^ (point - (17 : Nat)) * 2 ^ (2 - e) * 10 ^ 16 ≤ 4 * m := by
    have hpow : (10 : ℚ) ^ (point - (17 : Nat)) * 10 ^ 16 = 10 ^ (point - 1) := by
      rw [← zpow_natCast, ← zpow_add₀ (by norm_num)]
      congr 1
      push_cast
      ring
    calc (10 : ℚ) ^ (point - (17 : Nat)) * 2 ^ (2 - e) * 10 ^ 16 = 10 ^ (point - 1) * 2 ^ (2 - e) := by
          rw [mul_right_comm, hpow]
      _ ≤ m * 2 ^ e * 2 ^ (2 - e) := mul_le_mul_of_nonneg_right hpoint hunit.le
      _ = 4 * m := by
          rw [mul_assoc, ← zpow_add₀ (by norm_num), add_sub_cancel]
          norm_num
          ring
  rw [RoundingInterval.cast_high_of]
  rcases RoundingInterval.low_of_cases m e with ⟨rfl, hnotLeast, -⟩ | ⟨-, hlow⟩
  · rw [RoundingInterval.cast_low_of_power hnotLeast]
    push_cast at hspacing ⊢
    linarith
  · have heq : (RoundingInterval.of m e).low + 2 = 4 * m := by omega
    have heq' : ((RoundingInterval.of m e).low : ℚ) + 2 = 4 * m := by exact_mod_cast heq
    linarith

/-- **The shortest decimal** of a number lies in its interval. -/
theorem shortest_around (h : Canonical m e) (hm : m ≠ 0) :
    (RoundingInterval.of m e).Around ((shortest m e).digits * 10 ^ (shortest m e).exponent * 2 ^ (2 - e)) := by
  have hlow : (RoundingInterval.of m e).low ≤ (RoundingInterval.of m e).value := Nat.sub_le _ _
  have hhigh : (RoundingInterval.of m e).value < (RoundingInterval.of m e).high := Nat.lt_add_of_pos_right (by decide)
  have hgrid := isSome_nearestOnGrid_of_fine hlow hhigh (seventeen_fine h hm)
  have hsearch := isSome_shortestFrom 17 1 (by decide) (by decide) hgrid
  obtain ⟨r, hr⟩ := Option.isSome_iff_exists.mp hsearch
  have hshortest : shortest m e = r := by
    unfold shortest
    rw [if_neg hm]
    dsimp only
    rw [hr, Option.getD_some]
  rw [hshortest, ← RoundingInterval.contains_iff]
  exact shortestFrom_contains 17 1 hr

theorem digits_shortest_ne_zero (h : Canonical m e) (hm : m ≠ 0) : (shortest m e).digits ≠ 0 := by
  intro hzero
  have haround := (shortest_around h hm).half.1.1
  have hone : (1 : ℚ) ≤ m := by exact_mod_cast Nat.one_le_iff_ne_zero.mpr hm
  rw [hzero, Nat.cast_zero, zero_mul, zero_mul] at haround
  linarith

end RenderBench
