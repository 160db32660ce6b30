import RenderBench.Proofs.Number.Root
import RenderBench.Proofs.Statistics.Shift
import RenderBench.Proofs.Statistics.Spread

/-!
# `Proofs.Statistics.Deviation` — the deviation of samples

The scaled sum of squares is computed in whole numbers from the sums of the samples and of their squares. It is the sum
of the squared distances from the mean times the number of samples, so the root that is taken is that of the exact
sample variance, and nothing is lost before it is rounded.

## Contents
- `sampleMean`, `sampleVariance`: the exact figures.
- `cast_scaledSquares`, `scaled_quotient`: what is computed is the variance.
- `stddev_nearest`: the deviation is the number nearest to the root of the variance.
- `scaledSquares_eq_zero_iff`, `stddev_eq_zero_iff`: there is none iff all samples are equal.
- `scaledSquares_perm`, `scaledSquares_shift`: it knows no order of the samples, and no origin.
-/

namespace RenderBench

/-- The exact mean. -/
def sampleMean (samples : List Int) : ℚ := (samples.sum : ℚ) / samples.length

/-- The exact sample variance: the sum of the squared distances from the mean over one less than the number of
    samples. -/
def sampleVariance (samples : List Int) : ℚ :=
  (samples.map fun x : Int => ((x : ℚ) - sampleMean samples) ^ 2).sum / (samples.length - 1)

variable {samples : List Int} {k : Nat}

/-! ## The scaled sum of squares -/

/-- The squared distances from any point, from the sums of the samples and of their squares. -/
theorem sum_sq_sub (samples : List Int) (μ : ℚ) :
    (samples.map fun x : Int => ((x : ℚ) - μ) ^ 2).sum =
      ((samples.map fun x => x * x).sum : Int) - 2 * μ * (samples.sum : Int) + samples.length * μ ^ 2 := by
  induction samples with
  | nil => simp
  | cons x xs ih =>
    simp only [List.map_cons, List.sum_cons, List.length_cons, ih]
    push_cast
    ring

/-- What is computed is the sum of the squared distances from the mean times the number of samples. -/
theorem cast_scaledSquares (hne : samples ≠ []) :
    (scaledSquares samples : ℚ) =
      samples.length * (samples.map fun x : Int => ((x : ℚ) - sampleMean samples) ^ 2).sum := by
  have hlength : (samples.length : ℚ) ≠ 0 := by
    exact_mod_cast (List.length_pos_iff.mpr hne).ne'
  rw [sum_sq_sub, scaledSquares, total_eq_sum, total_eq_sum, sampleMean]
  push_cast
  field_simp
  ring

theorem sum_sq_nonneg (samples : List Int) (μ : ℚ) : 0 ≤ (samples.map fun x : Int => ((x : ℚ) - μ) ^ 2).sum := by
  refine List.sum_nonneg fun y hy => ?_
  obtain ⟨x, -, rfl⟩ := List.mem_map.mp hy
  exact sq_nonneg _

theorem scaledSquares_nonneg (hne : samples ≠ []) : 0 ≤ scaledSquares samples := by
  have hcast : (0 : ℚ) ≤ scaledSquares samples := by
    rw [cast_scaledSquares hne]
    exact mul_nonneg (Nat.cast_nonneg _) (sum_sq_nonneg samples _)
  exact_mod_cast hcast

/-- The quotient whose root is taken is the variance. -/
theorem scaled_quotient (hmany : 2 ≤ samples.length) :
    (((scaledSquares samples).toNat : ℚ) / (samples.length * (samples.length - 1) : Nat)) = sampleVariance samples := by
  have hne : samples ≠ [] := List.ne_nil_of_length_pos (by omega)
  have hlength : (samples.length : ℚ) ≠ 0 := by exact_mod_cast (by omega : samples.length ≠ 0)
  have hnat : ((scaledSquares samples).toNat : ℚ) = scaledSquares samples := by
    exact_mod_cast congrArg (Int.cast (R := ℚ)) (Int.toNat_of_nonneg (scaledSquares_nonneg hne))
  rw [hnat, cast_scaledSquares hne, Nat.cast_mul, Nat.cast_sub (by omega), Nat.cast_one, sampleVariance,
    mul_div_mul_left _ _ hlength]

/-! ## Equal samples -/

/-- There is no distance from the mean iff all samples are equal. -/
theorem scaledSquares_eq_zero_iff (hne : samples ≠ []) :
    scaledSquares samples = 0 ↔ ∀ x ∈ samples, ∀ y ∈ samples, x = y := by
  have hlength : (samples.length : ℚ) ≠ 0 := by
    exact_mod_cast (List.length_pos_iff.mpr hne).ne'
  constructor
  · intro hzero
    have hsum : (samples.map fun x : Int => ((x : ℚ) - sampleMean samples) ^ 2).sum = 0 := by
      have hcast := cast_scaledSquares hne
      rw [hzero, Int.cast_zero] at hcast
      exact (mul_eq_zero.mp hcast.symm).resolve_left hlength
    -- no square of the sum is larger than the sum
    have hmean (x : Int) (hx : x ∈ samples) : (x : ℚ) = sampleMean samples := by
      have hle := List.single_le_sum (fun y hy => by
        obtain ⟨z, -, rfl⟩ := List.mem_map.mp hy
        exact sq_nonneg _) _ (List.mem_map_of_mem (f := fun x : Int => ((x : ℚ) - sampleMean samples) ^ 2) hx)
      rw [hsum] at hle
      exact sub_eq_zero.mp (sq_eq_zero_iff.mp (le_antisymm hle (sq_nonneg _)))
    intro x hx y hy
    exact_mod_cast (hmean x hx).trans (hmean y hy).symm
  · intro hequal
    obtain ⟨x, rest, rfl⟩ := List.exists_cons_of_ne_nil hne
    have hreplicate : x :: rest = List.replicate (rest.length + 1) x :=
      List.eq_replicate_iff.mpr ⟨rfl, fun y hy => hequal y hy x List.mem_cons_self⟩
    rw [hreplicate, scaledSquares, total_eq_sum, total_eq_sum, List.map_replicate, List.sum_replicate,
      List.sum_replicate, List.length_replicate, nsmul_eq_mul, nsmul_eq_mul]
    push_cast
    ring

/-! ## The deviation -/

theorem stddev_of_few (hfew : samples.length < 2) : stddev samples = .ok (.zero false) := if_pos hfew

theorem stddev_of_many (hmany : 2 ≤ samples.length) :
    stddev samples =
      (sqrtRatio (scaledSquares samples).toNat (samples.length * (samples.length - 1))).bounded :=
  if_neg (not_lt.mpr hmany)

/-- Fewer than two samples have no distance from each other. -/
theorem sampleVariance_of_few (hfew : samples.length < 2) : sampleVariance samples = 0 := by
  match samples, hfew with
  | [], _ => simp [sampleVariance]
  | [x], _ => simp [sampleVariance]

/-- **The deviation of bounded samples** is the number nearest to the root of their variance. -/
theorem stddev_nearest (hk : k + 2 ≤ rangeBits) (h : Within k samples) :
    ∃ x, stddev samples = .ok x ∧ x.Nearest √(sampleVariance samples : ℝ) ∧ x.isNegative = false := by
  -- fewer than two samples have no deviation, and others the root of a quotient
  by_cases hfew : samples.length < 2
  · refine ⟨_, stddev_of_few hfew, ?_, rfl⟩
    rw [sampleVariance_of_few hfew, Rat.cast_zero, Real.sqrt_zero]
    exact Binary64.zero_nearest
  · have hmany : 2 ≤ samples.length := not_lt.mp hfew
    obtain ⟨x, hok⟩ := exists_stddev hk h
    have hroot := (stddev_of_many hmany).symm.trans hok
    unfold Binary64.bounded at hroot
    split at hroot
    · next hfinite =>
      obtain rfl := Except.ok.inj hroot
      have hden : samples.length * (samples.length - 1) ≠ 0 := Nat.mul_ne_zero (by omega) (by omega)
      refine ⟨_, hok, ?_⟩
      rw [← scaled_quotient hmany]
      push_cast
      exact_mod_cast sqrtRatio_nearest hden hfinite
    · cases hroot

/-- The least variance of so many samples that are not all equal. -/
theorem le_sampleVariance (hmany : 2 ≤ samples.length) (hne : scaledSquares samples ≠ 0) :
    (1 / samples.length : ℚ) ^ 2 ≤ sampleVariance samples := by
  have hlist : samples ≠ [] := List.ne_nil_of_length_pos (by omega)
  have hnonneg := scaledSquares_nonneg hlist
  have hone : 1 ≤ (scaledSquares samples).toNat := by omega
  have hfewer : samples.length * (samples.length - 1) ≤ samples.length ^ 2 := by
    rw [sq]
    exact Nat.mul_le_mul_left _ (Nat.sub_le _ _)
  have hpos : 0 < samples.length * (samples.length - 1) := Nat.mul_pos (by omega) (by omega)
  rw [← scaled_quotient hmany, div_pow, one_pow]
  exact div_le_div₀ (Nat.cast_nonneg _) (by exact_mod_cast hone) (by exact_mod_cast hpos) (by exact_mod_cast hfewer)

/-- **The deviation is zero iff all samples are equal.** There would have to be more than `2^1074` samples for a root
    that is not zero to be rounded to zero. -/
theorem stddev_eq_zero_iff {j : Nat} (hk : k + 2 ≤ rangeBits) (h : Within k samples) (hj : j ≤ 1074)
    (hlength : samples.length ≤ 2 ^ j) :
    stddev samples = .ok (.zero false) ↔ ∀ x ∈ samples, ∀ y ∈ samples, x = y := by
  by_cases hfew : samples.length < 2
  · refine iff_of_true (stddev_of_few hfew) ?_
    match samples, hfew with
    | [], _ => simp
    | [x], _ => simp
  have hmany : 2 ≤ samples.length := not_lt.mp hfew
  have hlist : samples ≠ [] := List.ne_nil_of_length_pos (by omega)
  rw [← scaledSquares_eq_zero_iff hlist]
  constructor
  · intro hzero
    by_contra hne
    obtain ⟨x, hok, hnearest, -⟩ := stddev_nearest hk h
    obtain rfl := Except.ok.inj (hok.symm.trans hzero)
    have hcast : ((1 / samples.length : ℚ) : ℝ) ^ 2 ≤ (sampleVariance samples : ℝ) := by
      exact_mod_cast le_sampleVariance hmany hne
    have hle : (2 : ℝ) ^ (-(j : Int)) ≤ ((1 / samples.length : ℚ) : ℝ) := by
      rw [zpow_neg, zpow_natCast, ← one_div]
      push_cast
      exact one_div_le_one_div_of_le (by exact_mod_cast Nat.zero_lt_of_lt hmany) (by exact_mod_cast hlength)
    -- a variance that is not zero has a root that is not below the least number
    have hroot : (2 : ℝ) ^ (-1074 : Int) ≤ √(sampleVariance samples : ℝ) :=
      calc (2 : ℝ) ^ (-1074 : Int) ≤ 2 ^ (-(j : Int)) := zpow_le_zpow_right₀ (by norm_num) (by omega)
        _ ≤ ((1 / samples.length : ℚ) : ℝ) := hle
        _ ≤ √(sampleVariance samples : ℝ) := Real.le_sqrt_of_sq_le hcast
    exact not_le.mpr (Binary64.lt_of_zero_nearest hnearest) hroot
  · intro hzero
    rw [stddev_of_many hmany, hzero]
    rfl

/-! ## Reordered and shifted samples -/

theorem scaledSquares_perm {samples' : List Int} (hperm : samples'.Perm samples) :
    scaledSquares samples' = scaledSquares samples := by
  simp only [scaledSquares, total_eq_sum]
  rw [hperm.length_eq, hperm.sum_eq, (hperm.map _).sum_eq]

theorem stddev_perm {samples' : List Int} (hperm : samples'.Perm samples) : stddev samples' = stddev samples := by
  unfold stddev
  rw [hperm.length_eq, scaledSquares_perm hperm]

theorem scaledSquares_shift (samples : List Int) (c : Int) :
    scaledSquares (samples.map (· + c)) = scaledSquares samples := by
  have hsquares : ((samples.map (· + c)).map fun x => x * x).sum =
      (samples.map fun x => x * x).sum + 2 * c * samples.sum + samples.length * c ^ 2 := by
    induction samples with
    | nil => simp
    | cons x xs ih =>
      simp only [List.map_cons, List.sum_cons, List.length_cons, ih]
      push_cast
      ring
  rw [scaledSquares, scaledSquares, total_eq_sum, total_eq_sum, total_eq_sum, total_eq_sum, hsquares,
    sum_map_add_const, List.length_map]
  ring

theorem stddev_shift (samples : List Int) (c : Int) : stddev (samples.map (· + c)) = stddev samples := by
  unfold stddev
  rw [List.length_map, scaledSquares_shift]

end RenderBench
