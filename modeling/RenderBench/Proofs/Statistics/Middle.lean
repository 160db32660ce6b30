import RenderBench.Proofs.Number.Exact
import RenderBench.Proofs.Statistics.Shift
import RenderBench.Proofs.Statistics.Spread

/-!
# `Proofs.Statistics.Middle` — the middle of samples

The middle of an odd number of samples is a sample. The middle of an even number is half the sum of two samples, and
the half of a whole number below `2^53` is itself a number, so nothing is rounded.

## Contents
- `Figure.exact`: the exact value of a figure.
- `sortSamples_eq`: the increasing order of samples.
- `Figure.Middles`, `median_middles`: what the middle is.
- `Figure.Middles.between`, `Figure.Middles.shift`: it lies between the samples, and goes with them.
-/

namespace RenderBench

/-- The exact value of a figure that is not infinite. -/
def Figure.exact : Figure → ℚ
  | .whole i => i
  | .real x => x.exact

variable {samples sorted : List Int} {f : Figure} {c : Int}

/-! ## The increasing order -/

theorem sortSamples_perm (samples : List Int) : (sortSamples samples).Perm samples :=
  List.mergeSort_perm _ _

theorem sortSamples_pairwise (samples : List Int) : (sortSamples samples).Pairwise (· ≤ ·) := by
  have htrans (a b c : Int) : decide (a ≤ b) → decide (b ≤ c) → decide (a ≤ c) := by simpa using le_trans
  have htotal (a b : Int) : decide (a ≤ b) || decide (b ≤ a) := by simpa using le_total a b
  have hsorted := List.pairwise_mergeSort htrans htotal samples
  simp only [decide_eq_true_eq] at hsorted
  exact hsorted

/-- Samples have one increasing order. -/
theorem sortSamples_eq (hperm : sorted.Perm samples) (hsorted : sorted.Pairwise (· ≤ ·)) :
    sortSamples samples = sorted :=
  List.Perm.eq_of_pairwise (fun _ _ _ _ => le_antisymm) (sortSamples_pairwise samples) hsorted
    ((sortSamples_perm samples).trans hperm.symm)

theorem sortSamples_map_add (samples : List Int) (c : Int) :
    sortSamples (samples.map (· + c)) = (sortSamples samples).map (· + c) := by
  refine sortSamples_eq ((sortSamples_perm samples).map _) ?_
  exact (sortSamples_pairwise samples).map _ fun a b hab => Int.add_le_add_right hab c

theorem exists_least_greatest {samples : List Int} (hne : samples ≠ []) :
    ∃ least ∈ samples, ∃ greatest ∈ samples, ∀ a ∈ samples, least ≤ a ∧ a ≤ greatest := by
  obtain ⟨first, rest, rfl⟩ := List.exists_cons_of_ne_nil hne
  obtain ⟨hmin, hle⟩ := foldl_min_isLeast first rest
  obtain ⟨hmax, hge⟩ := foldl_max_isGreatest first rest
  exact ⟨_, hmin, _, hmax, fun a ha => ⟨hle a ha, hge a ha⟩⟩

/-! ## Halves -/

/-- The half of a whole number is a number. -/
theorem exact_half {i : Int} (h : i.natAbs < 2 ^ 53) :
    ∃ x, ((Figure.whole i).divNat 2).bounded = .ok x ∧ x.isFinite ∧ x.exact = i / 2 ∧
      x.isNegative = decide (i < 0) := by
  obtain ⟨m, e, hcanonical, hround, hvalue⟩ := Binary64.exact_ofRatio (decide (i < 0)) (j := 1) h (by decide)
  have hhalf : (Figure.whole i).divNat 2 = .finite (decide (i < 0)) m e hcanonical := hround
  rw [hhalf]
  refine ⟨_, bounded_of_isFinite rfl, rfl, ?_, rfl⟩
  simp only [Binary64.exact, hvalue, decide_eq_true_eq]
  by_cases hneg : i < 0
  · rw [if_pos hneg, Nat.cast_natAbs, abs_of_neg hneg]
    push_cast
    ring
  · rw [if_neg hneg, Nat.cast_natAbs, abs_of_nonneg (not_lt.mp hneg), pow_one]

/-! ## The middle -/

/-- A figure is the middle of a list: the middle element of an odd number of elements, and exactly half the sum of the
    two middle ones of an even number. -/
def Figure.Middles (f : Figure) (sorted : List Int) : Prop :=
  (sorted.length % 2 = 1 → ∃ a, sorted[sorted.length / 2]? = some a ∧ f = .whole a) ∧
    (sorted.length % 2 = 0 → ∃ a b x, sorted[sorted.length / 2 - 1]? = some a ∧
      sorted[sorted.length / 2]? = some b ∧ f = .real x ∧ x.isFinite ∧ x.exact = ((a + b : Int) : ℚ) / 2 ∧
        x.isNegative = decide (a + b < 0))

/-- **The middle of samples** that are not too large is that of their increasing order. -/
theorem median_middles (hne : samples ≠ []) (h : Within 51 samples) :
    ∃ f, median samples = .ok f ∧ f.Middles (sortSamples samples) := by
  have hsorted := within_sortSamples h
  have hlength : 0 < (sortSamples samples).length := by
    rw [length_sortSamples]
    exact List.length_pos_iff.mpr hne
  have hhalf : (sortSamples samples).length / 2 < (sortSamples samples).length := by omega
  have hbefore : (sortSamples samples).length / 2 - 1 < (sortSamples samples).length := by omega
  have hmiddle := List.getElem?_eq_getElem hhalf
  have hprevious := List.getElem?_eq_getElem hbefore
  have hbound := hsorted _ (List.getElem_mem hhalf)
  have hbound' := hsorted _ (List.getElem_mem hbefore)
  unfold median
  simp only [hmiddle, hprevious]
  generalize (sortSamples samples)[(sortSamples samples).length / 2] = b at hmiddle hbound ⊢
  generalize (sortSamples samples)[(sortSamples samples).length / 2 - 1] = a at hprevious hbound' ⊢
  by_cases hodd : (sortSamples samples).length % 2 = 1
  · rw [if_pos hodd]
    exact ⟨_, rfl, fun _ => ⟨b, hmiddle, rfl⟩, fun heven => by omega⟩
  · rw [if_neg hodd]
    -- the sum of the two middles has at most 52 bits, so that its half is exact
    have hsum := Int.natAbs_add_le a b
    obtain ⟨x, hok, hfinite, hvalue, hsign⟩ := exact_half (i := a + b) (by omega)
    rw [hok]
    exact ⟨_, rfl, fun h => absurd h hodd, fun _ => ⟨a, b, x, hprevious, hmiddle, rfl, hfinite, hvalue, hsign⟩⟩

/-- No samples have no middle. -/
theorem median_nil : median [] = .error .noData := by
  have hsorted : sortSamples [] = [] := sortSamples_eq (List.Perm.refl _) List.Pairwise.nil
  unfold median
  rw [hsorted]
  rfl

theorem median_perm {samples' : List Int} (hperm : samples'.Perm samples) : median samples' = median samples := by
  have hsorted : sortSamples samples' = sortSamples samples :=
    sortSamples_eq ((sortSamples_perm samples).trans hperm.symm) (sortSamples_pairwise samples)
  unfold median
  rw [hsorted]

namespace Figure.Middles

/-- The middle lies between any bounds of the elements. -/
theorem between (h : f.Middles sorted) {low high : Int} (hlow : ∀ a ∈ sorted, low ≤ a) (hhigh : ∀ a ∈ sorted, a ≤ high) :
    (low : ℚ) ≤ f.exact ∧ f.exact ≤ high := by
  rcases Nat.mod_two_eq_zero_or_one sorted.length with heven | hodd
  · obtain ⟨a, b, x, ha, hb, rfl, -, hvalue, -⟩ := h.2 heven
    have ha' := List.mem_of_getElem? ha
    have hb' := List.mem_of_getElem? hb
    have hlow' : ((low + low : Int) : ℚ) ≤ (a + b : Int) := by exact_mod_cast add_le_add (hlow a ha') (hlow b hb')
    have hhigh' : ((a + b : Int) : ℚ) ≤ (high + high : Int) := by
      exact_mod_cast add_le_add (hhigh a ha') (hhigh b hb')
    simp only [Figure.exact, hvalue]
    push_cast at hlow' hhigh' ⊢
    constructor <;> linarith
  · obtain ⟨a, ha, rfl⟩ := h.1 hodd
    have ha' := List.mem_of_getElem? ha
    exact ⟨Int.cast_le.mpr (hlow a ha'), Int.cast_le.mpr (hhigh a ha')⟩

/-- The middle goes with the elements. -/
theorem shift {f' : Figure} (h : f.Middles sorted) (h' : f'.Middles (sorted.map (· + c))) : f'.exact = f.exact + c := by
  unfold Figure.Middles at h'
  rw [List.length_map] at h'
  rcases Nat.mod_two_eq_zero_or_one sorted.length with heven | hodd
  · obtain ⟨a, b, x, ha, hb, rfl, -, hvalue, -⟩ := h.2 heven
    obtain ⟨a', b', x', ha', hb', rfl, -, hvalue', -⟩ := h'.2 heven
    rw [List.getElem?_map, ha] at ha'
    rw [List.getElem?_map, hb] at hb'
    obtain rfl := Option.some.inj ha'
    obtain rfl := Option.some.inj hb'
    simp only [Figure.exact, hvalue, hvalue']
    push_cast
    ring
  · obtain ⟨a, ha, rfl⟩ := h.1 hodd
    obtain ⟨a', ha', rfl⟩ := h'.1 hodd
    rw [List.getElem?_map, ha] at ha'
    obtain rfl := Option.some.inj ha'
    simp only [Figure.exact]
    push_cast
    ring

end Figure.Middles

end RenderBench
