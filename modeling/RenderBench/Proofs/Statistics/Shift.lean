import RenderBench.Proofs.Statistics.Summary

/-!
# `Proofs.Statistics.Shift` — summaries of reordered and of shifted samples

The figures of a list of samples are determined by what `Summary.Describes` says of them, in which no order
occurs: two summaries that describe the same samples are equal. So a law of the summary is shown by saying what
it describes, without going through the samples again.

## Contents
- `Summary.Describes.unique`: the figures are determined.
- `aggregate_eq_ok_iff`, `aggregate_eq_error_iff`: when there are figures, and when there are none.
- `Summary.Describes.perm`, `Summary.Describes.shift`: other samples with the same or with shifted figures.
- `Summary.Describes.max_eq`, `Summary.Describes.average_bounds`: the greatest sample, and the floored mean.
- `aggregate_summarises`: the summary of any samples.
-/

namespace RenderBench

theorem sum_map_add_const (samples : List Int) (c : Int) :
    (samples.map (· + c)).sum = samples.sum + c * samples.length := by
  rw [List.sum_map_add, List.map_id', List.map_const', List.sum_replicate, nsmul_eq_mul, mul_comm]

namespace Summary.Describes

variable {s s' : Summary} {samples samples' : List Int} {runCount : Int}

theorem min_le_min (h : s.Describes samples runCount) (h' : s'.Describes samples runCount) : s.min ≤ s'.min :=
  h.min_le s'.min h'.min_mem

theorem max_le_max (h : s.Describes samples runCount) (h' : s'.Describes samples runCount) : s.max ≤ s'.max := by
  rcases h.max_mem with hzero | hmem
  · rw [hzero]
    exact h'.max_nonneg
  · exact h'.le_max s.max hmem

/-- **The figures are determined.** -/
theorem unique (h : s.Describes samples runCount) (h' : s'.Describes samples runCount) : s = s' := by
  have hmin : s.min = s'.min := le_antisymm (h.min_le_min h') (h'.min_le_min h)
  have hmax : s.max = s'.max := le_antisymm (h.max_le_max h') (h'.max_le_max h)
  have haverage : s.average = s'.average := h.average_eq.trans h'.average_eq.symm
  obtain ⟨_, _, _⟩ := s
  obtain ⟨_, _, _⟩ := s'
  exact Summary.mk.injEq .. |>.mpr ⟨hmin, hmax, haverage⟩

/-- No order of the samples occurs in what is said of them. -/
theorem perm (h : s.Describes samples runCount) (hperm : samples.Perm samples') :
    s.Describes samples' runCount where
  min_mem := hperm.mem_iff.mp h.min_mem
  min_le x hx := h.min_le x (hperm.mem_iff.mpr hx)
  max_mem := h.max_mem.imp_right hperm.mem_iff.mp
  max_nonneg := h.max_nonneg
  le_max x hx := h.le_max x (hperm.mem_iff.mpr hx)
  average_eq := h.average_eq.trans (by rw [hperm.sum_eq])

/-- The maximum is the greater of zero and the greatest sample. -/
theorem max_eq (h : s.Describes samples runCount) :
    ∃ greatest ∈ samples, (∀ x ∈ samples, x ≤ greatest) ∧ s.max = Max.max 0 greatest := by
  obtain ⟨first, rest, rfl⟩ := List.exists_cons_of_ne_nil (List.ne_nil_of_mem h.min_mem)
  obtain ⟨hmem, hle⟩ := foldl_max_isGreatest first rest
  refine ⟨_, hmem, hle, ?_⟩
  rcases h.max_mem with hzero | hsample
  · -- no sample is positive
    have hneg := h.le_max _ hmem
    rw [hzero] at hneg
    rw [hzero, max_eq_left hneg]
  · have hgreatest := le_antisymm (hle s.max hsample) (h.le_max _ hmem)
    rw [hgreatest, max_eq_right (hgreatest ▸ h.max_nonneg)]

/-- The mean is floored. -/
theorem average_bounds (h : s.Describes samples runCount) (hruns : 1 ≤ runCount) :
    s.average * runCount ≤ samples.sum ∧ samples.sum < (s.average + 1) * runCount := by
  have hpos : 0 < runCount := by omega
  rw [h.average_eq, Int.fdiv_eq_ediv_of_nonneg _ hpos.le]
  exact ⟨Int.ediv_mul_le _ hpos.ne', Int.lt_ediv_add_one_mul_self _ hpos⟩

/-- **Shifted samples.** With as many runs as samples, none of which is negative, each figure goes with the
    samples when all of them grow by the same. -/
theorem shift (h : s.Describes samples runCount) (hlen : runCount = samples.length)
    (hnonneg : ∀ x ∈ samples, 0 ≤ x) {c : Int} (hc : 0 ≤ c) :
    Summary.Describes ⟨s.min + c, s.max + c, s.average + c⟩ (samples.map (· + c)) runCount where
  min_mem := List.mem_map_of_mem h.min_mem
  min_le := by
    intro y hy
    obtain ⟨x, hx, rfl⟩ := List.mem_map.mp hy
    exact Int.add_le_add_right (h.min_le x hx) c
  -- the zero that the maximum starts from would not be shifted, but here it does not count
  max_mem := .inr (List.mem_map_of_mem (h.max_mem_of_nonneg hnonneg))
  max_nonneg := Int.add_nonneg h.max_nonneg hc
  le_max := by
    intro y hy
    obtain ⟨x, hx, rfl⟩ := List.mem_map.mp hy
    exact Int.add_le_add_right (h.le_max x hx) c
  average_eq := by
    have hne : runCount ≠ 0 := by
      rw [hlen]
      exact_mod_cast h.length_pos.ne'
    show s.average + c = _
    rw [sum_map_add_const, ← hlen, Int.add_mul_fdiv_right _ _ hne, ← h.average_eq]

end Summary.Describes

/-! ## When there is a summary -/

variable {samples samples' : List Int} {runCount : Int} {s : Summary}

theorem aggregate_of_few (samples : List Int) (h : runCount < 1) :
    aggregate samples runCount = .error (.runCount runCount) := if_pos h

theorem aggregate_nil (h : 1 ≤ runCount) : aggregate [] runCount = .error .noSamples := if_neg (not_lt.mpr h)

theorem aggregate_eq_ok_iff :
    aggregate samples runCount = .ok s ↔ 1 ≤ runCount ∧ s.Describes samples runCount := by
  constructor
  · intro hok
    have hruns : 1 ≤ runCount := by
      by_contra hfew
      rw [aggregate_of_few samples (not_le.mp hfew)] at hok
      cases hok
    have hne : samples ≠ [] := by
      rintro rfl
      rw [aggregate_nil hruns] at hok
      cases hok
    obtain ⟨s', hok', hdescribes⟩ := aggregate_describes hruns hne
    obtain rfl := Except.ok.inj (hok'.symm.trans hok)
    exact ⟨hruns, hdescribes⟩
  · rintro ⟨hruns, hdescribes⟩
    obtain ⟨s', hok', hdescribes'⟩ :=
      aggregate_describes hruns (List.ne_nil_of_mem hdescribes.min_mem)
    rw [hok', hdescribes.unique hdescribes']

/-- The number of runs is looked at first. -/
theorem aggregate_eq_error_iff {e : AggregateError} :
    aggregate samples runCount = .error e ↔
      runCount < 1 ∧ e = .runCount runCount ∨ 1 ≤ runCount ∧ samples = [] ∧ e = .noSamples := by
  constructor
  · intro herror
    by_cases hruns : 1 ≤ runCount
    · by_cases hne : samples = []
      · subst hne
        rw [aggregate_nil hruns] at herror
        exact .inr ⟨hruns, rfl, (Except.error.inj herror).symm⟩
      · obtain ⟨s, hok, -⟩ := aggregate_describes hruns hne
        cases hok.symm.trans herror
    · rw [aggregate_of_few samples (not_le.mp hruns)] at herror
      exact .inl ⟨not_le.mp hruns, (Except.error.inj herror).symm⟩
  · rintro (⟨hfew, rfl⟩ | ⟨hruns, rfl, rfl⟩)
    · exact aggregate_of_few samples hfew
    · exact aggregate_nil hruns

/-- The summary knows no order of the samples. -/
theorem aggregate_perm (hperm : samples.Perm samples') :
    aggregate samples' runCount = aggregate samples runCount := by
  cases h : aggregate samples runCount with
  | ok s =>
    obtain ⟨hruns, hdescribes⟩ := aggregate_eq_ok_iff.mp h
    exact aggregate_eq_ok_iff.mpr ⟨hruns, hdescribes.perm hperm⟩
  | error e =>
    rcases aggregate_eq_error_iff.mp h with hfew | ⟨hruns, rfl, he⟩
    · exact aggregate_eq_error_iff.mpr (.inl hfew)
    · exact aggregate_eq_error_iff.mpr (.inr ⟨hruns, hperm.nil_eq.symm, he⟩)

/-- **The summary of any samples.** There is none if the number of runs is not positive, and of a positive
    number of runs there is none if there are no samples. Otherwise the minimum is the least sample, the maximum
    the greater of zero and the greatest sample, and the average the floored mean over the number of runs. The
    order of the samples makes no difference. If there are as many runs as samples, the average lies between the
    minimum and the maximum, and if all samples that were not negative grow by the same, so do the three. -/
theorem aggregate_summarises (samples : List Int) (runCount : Int) :
    (∀ e, aggregate samples runCount = .error e ↔
      runCount < 1 ∧ e = .runCount runCount ∨ 1 ≤ runCount ∧ samples = [] ∧ e = .noSamples) ∧
    (1 ≤ runCount → samples ≠ [] → ∃ s, aggregate samples runCount = .ok s ∧
      (s.min ∈ samples ∧ ∀ x ∈ samples, s.min ≤ x) ∧
      (∃ greatest ∈ samples, (∀ x ∈ samples, x ≤ greatest) ∧ s.max = max 0 greatest) ∧
      (s.average * runCount ≤ samples.sum ∧ samples.sum < (s.average + 1) * runCount) ∧
      (runCount = samples.length →
        (s.min ≤ s.average ∧ s.average ≤ s.max) ∧
        ∀ c, 0 ≤ c → (∀ x ∈ samples, 0 ≤ x) →
          aggregate (samples.map (· + c)) runCount = .ok ⟨s.min + c, s.max + c, s.average + c⟩)) ∧
    ∀ samples', samples.Perm samples' → aggregate samples' runCount = aggregate samples runCount := by
  refine ⟨fun e => aggregate_eq_error_iff, ?_, fun samples' => aggregate_perm⟩
  intro hruns hne
  obtain ⟨s, hok, hdescribes⟩ := aggregate_describes hruns hne
  refine ⟨s, hok, ⟨hdescribes.min_mem, hdescribes.min_le⟩, hdescribes.max_eq, hdescribes.average_bounds hruns, ?_⟩
  intro hlen
  refine ⟨⟨hdescribes.min_le_average hlen, hdescribes.average_le_max hlen⟩, ?_⟩
  intro c hc hnonneg
  exact aggregate_eq_ok_iff.mpr ⟨hruns, hdescribes.shift hlen hnonneg hc⟩

/-- Three samples, the same in another order, and ten more of each. -/
theorem aggregate_summarises_three :
    aggregate [5, 7, 3] 3 = aggregate [7, 3, 5] 3 ∧
    ∃ s, aggregate [7, 3, 5] 3 = .ok s ∧ (s.min ≤ s.average ∧ s.average ≤ s.max) ∧
      aggregate [17, 13, 15] 3 = .ok ⟨s.min + 10, s.max + 10, s.average + 10⟩ := by
  obtain ⟨-, hfigures, hperm⟩ := aggregate_summarises [7, 3, 5] 3
  obtain ⟨s, hok, -, -, -, hequal⟩ := hfigures (by decide) (by decide)
  obtain ⟨hbetween, hshift⟩ := hequal rfl
  exact ⟨hperm [5, 7, 3] (by decide), s, hok, hbetween, hshift 10 (by decide) (by decide)⟩

end RenderBench
