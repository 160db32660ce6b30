import RenderBench.Proofs.Number.Range
import RenderBench.Proofs.Statistics.Summary

/-!
# `Proofs.Statistics.Spread` — when the spread of samples is a number

The middle of the samples and their deviation are exact fractions that are rounded once, and only a fraction
beyond the largest number has no rounding. Samples whose size is bounded have both.

## Contents
- `Within`: whole numbers below a power of two.
- `exists_median`: the middle of bounded samples.
- `scaledSquares_le`, `exists_stddev`: their deviation.
-/

namespace RenderBench

/-- Whole numbers whose size is below a power of two. -/
def Within (k : Nat) (samples : List Int) : Prop := ∀ x ∈ samples, x.natAbs < 2 ^ k

instance (k : Nat) (samples : List Int) : Decidable (Within k samples) :=
  inferInstanceAs (Decidable (∀ x ∈ samples, x.natAbs < 2 ^ k))

variable {samples : List Int} {k : Nat}

theorem bounded_of_isFinite {x : Binary64} (h : x.isFinite) : x.bounded = .ok x := if_pos h

/-! ## The middle -/

theorem within_sortSamples (h : Within k samples) : Within k (sortSamples samples) :=
  fun x hx => h x (List.mem_mergeSort.mp hx)

theorem length_sortSamples (samples : List Int) : (sortSamples samples).length = samples.length :=
  List.length_mergeSort _

theorem isFinite_half {a b : Int} (hk : k ≤ rangeBits) (ha : a.natAbs < 2 ^ k) (hb : b.natAbs < 2 ^ k) :
    ((Figure.whole (a + b)).divNat 2).isFinite := by
  refine Binary64.isFinite_ofRatio _ hk ?_
  have hsum := Int.natAbs_add_le a b
  omega

/-- **The middle of bounded samples** is one of them, or half the sum of two of them. -/
theorem exists_median (hne : samples ≠ []) (hk : k ≤ rangeBits) (h : Within k samples) :
    ∃ f, median samples = .ok f ∧ ∀ i, f = .whole i → i.natAbs < 2 ^ k := by
  have hsorted := within_sortSamples h
  have hlength : 0 < (sortSamples samples).length := by
    rw [length_sortSamples]
    exact List.length_pos_iff.mpr hne
  have hhalf : (sortSamples samples).length / 2 < (sortSamples samples).length := by omega
  have hmiddle := List.getElem?_eq_getElem hhalf
  have hmem := List.getElem_mem hhalf
  unfold median
  simp only [hmiddle]
  by_cases hodd : (sortSamples samples).length % 2 = 1
  · rw [if_pos hodd]
    refine ⟨_, rfl, ?_⟩
    rintro i hi
    cases hi
    exact hsorted _ hmem
  · rw [if_neg hodd]
    have hbefore : (sortSamples samples).length / 2 - 1 < (sortSamples samples).length := by omega
    rw [List.getElem?_eq_getElem hbefore]
    simp only
    rw [bounded_of_isFinite (isFinite_half hk (hsorted _ (List.getElem_mem hbefore))
      (hsorted _ hmem))]
    exact ⟨_, rfl, fun i hi => by cases hi⟩

/-! ## The deviation -/

theorem sq_lt_of_within (h : Within k samples) :
    ∀ y ∈ samples.map (fun x => x * x), y ≤ 2 ^ k * 2 ^ k := by
  intro y hy
  obtain ⟨x, hx, rfl⟩ := List.mem_map.mp hy
  have hlt := (h x hx).le
  calc x * x = (x.natAbs * x.natAbs : Nat) := (Int.natAbs_mul_self).symm
    _ ≤ ((2 ^ k * 2 ^ k : Nat) : Int) := by gcongr
    _ = 2 ^ k * 2 ^ k := by push_cast; rfl

/-- The scaled sum of squared distances is at most that of the squares. -/
theorem scaledSquares_le (h : Within k samples) :
    scaledSquares samples ≤ samples.length * (samples.length * (2 ^ k * 2 ^ k)) := by
  have hsquares := sum_le_mul (sq_lt_of_within h)
  rw [List.length_map] at hsquares
  have hsum : 0 ≤ total samples * total samples := mul_self_nonneg _
  unfold scaledSquares
  rw [total_eq_sum]
  calc (samples.length : Int) * (samples.map fun x => x * x).sum - total samples * total samples
      ≤ samples.length * (samples.map fun x => x * x).sum := by omega
    _ ≤ samples.length * (2 ^ k * 2 ^ k * samples.length) := by gcongr
    _ = samples.length * (samples.length * (2 ^ k * 2 ^ k)) := by ring

/-- **The deviation of bounded samples** is a number. -/
theorem exists_stddev (hk : k + 2 ≤ rangeBits) (h : Within k samples) :
    ∃ x, stddev samples = .ok x := by
  unfold stddev
  by_cases hfew : samples.length < 2
  · exact ⟨_, if_pos hfew⟩
  simp only
  rw [if_neg hfew]
  obtain ⟨n, hn⟩ : ∃ n, samples.length = n + 2 := ⟨samples.length - 2, by omega⟩
  refine ⟨_, bounded_of_isFinite (isFinite_sqrtRatio hk ?_)⟩
  have hle := scaledSquares_le h
  rw [hn] at hle ⊢
  have hnat : (scaledSquares samples).toNat ≤ (n + 2) * ((n + 2) * (2 ^ k * 2 ^ k)) := by
    refine Int.toNat_le.mpr (hle.trans_eq ?_)
    push_cast
    rfl
  -- there are at most twice as many samples as there are degrees of freedom
  calc (scaledSquares samples).toNat ≤ (n + 2) * ((n + 2) * (2 ^ k * 2 ^ k)) := hnat
    _ < (n + 2) * ((4 * (n + 1)) * (2 ^ k * 2 ^ k)) := by gcongr; omega
    _ = (n + 2) * (n + 2 - 1) * (2 ^ (k + 1) * 2 ^ (k + 1)) := by
      rw [Nat.add_sub_assoc (by decide : 1 ≤ 2)]
      ring

end RenderBench
