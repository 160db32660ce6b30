import Mathlib.Algebra.Order.BigOperators.Group.List
import Mathlib.Tactic.Linarith
import RenderBench.Statistics.Basic

/-!
# `Proofs.Statistics.Summary` — what a summary says about its samples

The summary is computed in one pass with three accumulators, of which the minimum starts from the first
sample and the maximum from zero. `Summary.Describes` says what the pass amounts to, without an order of
the samples.

## Contents
- `Summary.Describes`: the figures of a list of samples.
- `aggregate_describes`: the pass computes them.
- `Summary.Describes.max_mem_of_nonneg`: the maximum is a sample when none is negative.
- `Summary.Describes.min_le_average`, `Summary.Describes.average_le_max`: the mean lies between the two.
-/

namespace RenderBench

/-- The figures are those of the samples: the least sample, the greater of zero and the greatest sample,
    and the sum divided by the number of runs, floored. -/
structure Summary.Describes (s : Summary) (samples : List Int) (runCount : Int) : Prop where
  min_mem : s.min ∈ samples
  min_le : ∀ x ∈ samples, s.min ≤ x
  max_mem : s.max = 0 ∨ s.max ∈ samples
  max_nonneg : 0 ≤ s.max
  le_max : ∀ x ∈ samples, x ≤ s.max
  average_eq : s.average = samples.sum.fdiv runCount

/-! ## The pass over the samples -/

theorem foldl_min_isLeast (x : Int) (xs : List Int) :
    xs.foldl min x ∈ x :: xs ∧ ∀ y ∈ x :: xs, xs.foldl min x ≤ y :=
  List.min?_eq_some_iff.mp List.min?_cons'

theorem foldl_max_isGreatest (x : Int) (xs : List Int) :
    xs.foldl max x ∈ x :: xs ∧ ∀ y ∈ x :: xs, y ≤ xs.foldl max x :=
  List.max?_eq_some_iff.mp List.max?_cons'

theorem total_eq_sum (samples : List Int) : total samples = samples.sum :=
  List.sum_eq_foldl.symm

/-- The first sample counts twice in the pass, which changes nothing. -/
theorem foldl_min_head (x : Int) (xs : List Int) : (x :: xs).foldl min x = xs.foldl min x := by
  rw [List.foldl_cons, min_self]

/-- **The pass computes the figures.** -/
theorem aggregate_describes {samples : List Int} {runCount : Int} (hruns : 1 ≤ runCount)
    (hne : samples ≠ []) :
    ∃ s, aggregate samples runCount = .ok s ∧ s.Describes samples runCount := by
  obtain ⟨first, rest, rfl⟩ := List.exists_cons_of_ne_nil hne
  obtain ⟨hmin, hle⟩ := foldl_min_isLeast first rest
  obtain ⟨hmax, hge⟩ := foldl_max_isGreatest 0 (first :: rest)
  refine ⟨_, if_neg (not_lt.mpr hruns), ?_⟩
  constructor
  · rw [foldl_min_head]
    exact hmin
  · intro x hx
    rw [foldl_min_head]
    exact hle x hx
  · exact List.mem_cons.mp hmax
  · exact hge 0 (List.mem_cons_self ..)
  · intro x hx
    exact hge x (List.mem_cons_of_mem 0 hx)
  · rw [total_eq_sum]

/-! ## Bounds -/

theorem mul_le_sum {samples : List Int} {low : Int} (h : ∀ x ∈ samples, low ≤ x) :
    low * samples.length ≤ samples.sum := by
  have hcard := List.card_nsmul_le_sum samples low h
  rwa [nsmul_eq_mul, mul_comm] at hcard

theorem sum_le_mul {samples : List Int} {high : Int} (h : ∀ x ∈ samples, x ≤ high) :
    samples.sum ≤ high * samples.length := by
  have hcard := List.sum_le_card_nsmul samples high h
  rwa [nsmul_eq_mul, mul_comm] at hcard

namespace Summary.Describes

variable {s : Summary} {samples : List Int} {runCount : Int}

/-- The zero that the maximum starts from is itself a sample when it is the maximum of samples none of
    which is negative. -/
theorem max_mem_of_nonneg (h : s.Describes samples runCount) (hnonneg : ∀ x ∈ samples, 0 ≤ x) :
    s.max ∈ samples := by
  rcases h.max_mem with h0 | hmem
  · -- between zero and zero there is room for zero only
    have hmin : s.min = 0 :=
      le_antisymm (h0 ▸ h.le_max s.min h.min_mem) (hnonneg s.min h.min_mem)
    rw [h0, ← hmin]
    exact h.min_mem
  · exact hmem

theorem length_pos (h : s.Describes samples runCount) : 0 < samples.length :=
  List.length_pos_of_mem h.min_mem

theorem min_le_average (h : s.Describes samples runCount) (hlen : runCount = samples.length) :
    s.min ≤ s.average := by
  have hpos : 0 < runCount := by
    rw [hlen]
    exact_mod_cast h.length_pos
  rw [h.average_eq, Int.fdiv_eq_ediv_of_nonneg _ hpos.le, Int.le_ediv_iff_mul_le hpos, hlen]
  exact mul_le_sum h.min_le

theorem average_le_max (h : s.Describes samples runCount) (hlen : runCount = samples.length) :
    s.average ≤ s.max := by
  have hpos : 0 < runCount := by
    rw [hlen]
    exact_mod_cast h.length_pos
  rw [h.average_eq, Int.fdiv_eq_ediv_of_nonneg _ hpos.le, ← Int.lt_add_one_iff,
    Int.ediv_lt_iff_lt_mul hpos, hlen]
  have hsum := sum_le_mul h.le_max
  have hlen' : (0 : Int) < samples.length := by rwa [← hlen]
  linarith

end Summary.Describes

end RenderBench
