import RenderBench.Proofs.Statistics.Deviation
import RenderBench.Proofs.Statistics.Middle
import RenderBench.Session.Result

/-!
# `Proofs.Session.Spread` — the middle and the deviation that a session reports

Both figures are computed from exact fractions of the samples: the middle is not rounded at all, and the deviation once,
at the end. So what holds of the exact figures holds of the reported ones.

## Contents
- `toJson_eq_error`: there is no document without a middle.
- `spread_of_samples`: the middle and the deviation of any samples.
-/

namespace RenderBench

namespace SessionResult

variable {r : SessionResult}

/-- There is no document without a middle. -/
theorem toJson_eq_error {e : SpreadError} (h : r.median = .error e) (withSamples : Bool) :
    r.toJson withSamples = .error e := by
  unfold toJson
  rw [h]
  rfl

/-- **The middle and the deviation of samples.** Without samples there is no middle, and so no document, while the
    deviation is zero. For samples below `2^51` in size, the middle is the middle element of their increasing order if
    there is an odd number of them, and exactly half the sum of the two middle elements otherwise, so it lies between the
    least and the greatest sample. The deviation is the number nearest to the root of the exact sample variance; it is
    zero for a single sample, and zero iff all samples are equal, however many there are in a memory. The order of the
    samples makes no difference, and if the same is added to all of them the middle grows by exactly that and the
    deviation stays. -/
theorem spread_of_samples (r : SessionResult) :
    (r.samples = [] →
      r.median = .error .noData ∧ (∀ withSamples, r.toJson withSamples = .error .noData) ∧
        r.stddev = .ok (.zero false)) ∧
    (r.samples ≠ [] → Within 51 r.samples →
      ∃ f x, r.median = .ok f ∧ r.stddev = .ok x ∧
        (∃ sorted : List Int, sorted.Perm r.samples ∧ sorted.Pairwise (· ≤ ·) ∧ f.Middles sorted) ∧
        (∃ least ∈ r.samples, ∃ greatest ∈ r.samples, (∀ a ∈ r.samples, least ≤ a ∧ a ≤ greatest) ∧
          (least : ℚ) ≤ f.exact ∧ f.exact ≤ greatest) ∧
        (x.Nearest √(sampleVariance r.samples : ℝ) ∧ x.isNegative = false) ∧
        (r.samples.length = 1 → x = .zero false) ∧
        (r.samples.length ≤ 2 ^ 1074 → (x = .zero false ↔ ∀ a ∈ r.samples, ∀ b ∈ r.samples, a = b)) ∧
        (∀ r' : SessionResult, r'.samples.Perm r.samples → r'.median = .ok f ∧ r'.stddev = .ok x) ∧
        ∀ (r' : SessionResult) (c : Int), r'.samples = r.samples.map (· + c) → Within 51 r'.samples →
          ∃ f', r'.median = .ok f' ∧ f'.exact = f.exact + c ∧ r'.stddev = .ok x) := by
  constructor
  · intro hempty
    have hmedian : r.median = .error .noData := by
      unfold SessionResult.median
      rw [hempty]
      exact median_nil
    refine ⟨hmedian, toJson_eq_error hmedian, ?_⟩
    unfold SessionResult.stddev
    rw [hempty]
    exact stddev_of_few (by decide)
  · intro hne hwithin
    obtain ⟨f, hmedian, hmiddles⟩ := median_middles hne hwithin
    obtain ⟨x, hstddev, hnearest, hsign⟩ := stddev_nearest (by decide) hwithin
    obtain ⟨least, hleast, greatest, hgreatest, hbounds⟩ := exists_least_greatest hne
    have hmem (a : Int) (ha : a ∈ sortSamples r.samples) : a ∈ r.samples := (sortSamples_perm _).mem_iff.mp ha
    have hbetween := hmiddles.between (fun a ha => (hbounds a (hmem a ha)).1) (fun a ha => (hbounds a (hmem a ha)).2)
    have hzero : x = .zero false ↔ RenderBench.stddev r.samples = .ok (.zero false) := by
      rw [hstddev, Except.ok.injEq]
    refine ⟨f, x, hmedian, hstddev, ⟨_, sortSamples_perm _, sortSamples_pairwise _, hmiddles⟩,
      ⟨least, hleast, greatest, hgreatest, hbounds, hbetween⟩, ⟨hnearest, hsign⟩, ?_, ?_, ?_, ?_⟩
    · intro hsingle
      exact hzero.mpr (stddev_of_few (by omega))
    · intro hlength
      exact hzero.trans (stddev_eq_zero_iff (by decide) hwithin le_rfl hlength)
    · intro r' hperm
      exact ⟨(median_perm hperm).trans hmedian, (stddev_perm hperm).trans hstddev⟩
    · intro r' c hshift hwithin'
      have hne' : r'.samples ≠ [] := by
        rw [hshift]
        exact fun h => hne (List.map_eq_nil_iff.mp h)
      obtain ⟨f', hmedian', hmiddles'⟩ := median_middles hne' hwithin'
      rw [hshift, sortSamples_map_add] at hmiddles'
      refine ⟨f', hmedian', hmiddles.shift hmiddles', ?_⟩
      unfold SessionResult.stddev
      rw [hshift, stddev_shift]
      exact hstddev

/-- A result of four samples, and one with ten more of each. -/
theorem spread_of_samples_four :
    ∃ f x, SessionResult.median ⟨"run", 1, 4, [4, 2, 9, 1], 1, 9, 4, 0, 0, none⟩ = .ok f ∧
      SessionResult.stddev ⟨"run", 1, 4, [4, 2, 9, 1], 1, 9, 4, 0, 0, none⟩ = .ok x ∧ x ≠ .zero false ∧
      SessionResult.stddev ⟨"run", 1, 4, [14, 12, 19, 11], 11, 19, 14, 0, 0, none⟩ = .ok x := by
  obtain ⟨-, hfigures⟩ := spread_of_samples ⟨"run", 1, 4, [4, 2, 9, 1], 1, 9, 4, 0, 0, none⟩
  obtain ⟨f, x, hmedian, hstddev, -, -, -, -, hzero, -, hshift⟩ := hfigures (by decide) (by decide)
  obtain ⟨-, -, -, hstddev'⟩ :=
    hshift ⟨"run", 1, 4, [14, 12, 19, 11], 11, 19, 14, 0, 0, none⟩ 10 rfl (by decide)
  have hfew (j : Nat) (hj : 2 ≤ j) : 2 ^ 2 ≤ 2 ^ j := Nat.pow_le_pow_right (by decide) hj
  refine ⟨f, x, hmedian, hstddev, fun h => ?_, hstddev'⟩
  exact absurd ((hzero (hfew 1074 (by decide))).mp h 4 (by decide) 2 (by decide)) (by decide)

end SessionResult

end RenderBench
