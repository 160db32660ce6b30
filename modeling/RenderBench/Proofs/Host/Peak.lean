import RenderBench.Proofs.Host.Block
import RenderBench.Proofs.Statistics.Summary

/-!
# `Proofs.Host.Peak` — the greatest memory reading of a block

The memory is read before and after the body of a block, and on request by a sampling thread as well, which
ends at the first reading that fails. The two of them share one running maximum. `samplePeak` is what the
thread makes of it; its laws say which readings count, and the peak that a block reports is the greatest
of those, if that is positive.

## Contents
- `Sees`, `samplePeak_of_sees`: the readings that the thread sees, and their maximum.
- `samplePeak_append_failure`, `samplePeak_perm`, `samplePeak_le_insert`: the laws of the thread.
- `reportedPeak`, `reportedPeak_eq`: the peak of a block under some readings of the thread.
- `profileAround_peak`: what that peak is.
-/

namespace RenderBench

/-! ## The sampling thread -/

/-- The thread sees the readings before its first failure, or all of them if none fails. -/
def Sees (samples : List MemorySample) (seen : List Int) : Prop :=
  samples = seen.map .bytes ∨ ∃ later, samples = seen.map .bytes ++ .failure :: later

theorem exists_sees (samples : List MemorySample) : ∃ seen, Sees samples seen := by
  induction samples with
  | nil => exact ⟨[], .inl rfl⟩
  | cons sample samples ih =>
    cases sample with
    | bytes n =>
      obtain ⟨seen, rfl | ⟨later, rfl⟩⟩ := ih
      · exact ⟨n :: seen, .inl rfl⟩
      · exact ⟨n :: seen, .inr ⟨later, rfl⟩⟩
    | failure => exact ⟨[], .inr ⟨samples, rfl⟩⟩

/-- Nothing counts that comes after a failure. -/
theorem samplePeak_append_failure (samples later : List MemorySample) (peak : Int) :
    samplePeak peak (samples ++ .failure :: later) = samplePeak peak samples := by
  induction samples generalizing peak with
  | nil => rfl
  | cons sample samples ih =>
    cases sample with
    | bytes n => exact ih (max peak n)
    | failure => rfl

/-- The thread makes the maximum of the readings that it sees. -/
theorem samplePeak_of_sees {samples : List MemorySample} {seen : List Int} (h : Sees samples seen) (peak : Int) :
    samplePeak peak samples = seen.foldl max peak := by
  have hall : samplePeak peak (seen.map .bytes) = seen.foldl max peak := by
    clear h
    induction seen generalizing peak with
    | nil => rfl
    | cons n seen ih => exact ih (max peak n)
  rcases h with rfl | ⟨later, rfl⟩
  · exact hall
  · rw [samplePeak_append_failure, hall]

/-- Without a failure the order of the readings makes no difference. -/
theorem samplePeak_perm {samples samples' : List MemorySample} (h : samples.Perm samples')
    (hgood : .failure ∉ samples) (peak : Int) :
    samplePeak peak samples = samplePeak peak samples' := by
  induction h generalizing peak with
  | nil => rfl
  | @cons sample samples samples' _ ih =>
    cases sample with
    | bytes n => exact ih (fun hmem => hgood (List.mem_cons_of_mem _ hmem)) (max peak n)
    | failure => exact absurd List.mem_cons_self hgood
  | swap sample sample' samples =>
    cases sample with
    | failure => exact absurd (List.mem_cons_of_mem _ List.mem_cons_self) hgood
    | bytes n =>
      cases sample' with
      | failure => exact absurd List.mem_cons_self hgood
      | bytes n' =>
        -- both readings are numbers, and the greatest of three has no order
        show samplePeak (max (max peak n') n) samples = samplePeak (max (max peak n) n') samples
        rw [max_right_comm]
  | trans h _ ih ih' =>
    have hgood' := fun hmem => hgood (h.mem_iff.mpr hmem)
    exact (ih hgood peak).trans (ih' hgood' peak)

/-- The greater the maximum so far, the greater it stays. -/
theorem samplePeak_mono (samples : List MemorySample) {peak peak' : Int} (h : peak ≤ peak') :
    samplePeak peak samples ≤ samplePeak peak' samples := by
  induction samples generalizing peak peak' with
  | nil => exact h
  | cons sample samples ih =>
    cases sample with
    | bytes n => exact ih (max_le_max_right n h)
    | failure => exact h

/-- One more reading lowers nothing, wherever it is made. -/
theorem samplePeak_le_insert (samples samples' : List MemorySample) (n peak : Int) :
    samplePeak peak (samples ++ samples') ≤ samplePeak peak (samples ++ .bytes n :: samples') := by
  induction samples generalizing peak with
  | nil => exact samplePeak_mono samples' (le_max_left peak n)
  | cons sample samples ih =>
    cases sample with
    | bytes m => exact ih (max peak m)
    | failure => exact le_refl peak

/-! ## The peak -/

/-- The peak is the greatest of the readings before and after and of those that the thread sees. -/
theorem peakOf_isGreatest (before after : Int) {samples : List MemorySample} {seen : List Int}
    (h : Sees samples seen) :
    peakOf before samples after ∈ before :: after :: seen ∧
      ∀ r ∈ before :: after :: seen, r ≤ peakOf before samples after := by
  obtain ⟨hmem, hle⟩ := foldl_max_isGreatest before seen
  rw [peakOf, samplePeak_of_sees h]
  constructor
  · rcases max_choice (seen.foldl max before) after with hmax | hmax
    · rw [hmax]
      rcases List.mem_cons.mp hmem with hbefore | hseen
      · rw [hbefore]
        exact List.mem_cons_self
      · exact List.mem_cons_of_mem _ (List.mem_cons_of_mem _ hseen)
    · rw [hmax]
      exact List.mem_cons_of_mem _ List.mem_cons_self
  · intro r hr
    rcases List.mem_cons.mp hr with rfl | hr
    · exact le_max_of_le_left (hle r List.mem_cons_self)
    rcases List.mem_cons.mp hr with rfl | hr
    · exact le_max_right _ r
    · exact le_max_of_le_left (hle r (List.mem_cons_of_mem _ hr))

theorem positivePeak_of_pos {peak : Int} (h : 0 < peak) : positivePeak peak = some peak := if_pos h

theorem positivePeak_eq_none_iff (peak : Int) : positivePeak peak = none ↔ peak ≤ 0 := by
  constructor
  · intro hnone
    by_contra hpos
    rw [positivePeak_of_pos (not_le.mp hpos)] at hnone
    cases hnone
  · intro h
    exact if_neg (not_lt.mpr h)

theorem positivePeak_mono {peak peak' p : Int} (hle : peak ≤ peak') (h : positivePeak peak = some p) :
    ∃ p', positivePeak peak' = some p' ∧ p ≤ p' := by
  have hpos : 0 < peak := by
    by_contra hnot
    rw [(positivePeak_eq_none_iff peak).mpr (not_lt.mp hnot)] at h
    cases h
  rw [positivePeak_of_pos hpos] at h
  obtain rfl := Option.some.inj h
  exact ⟨peak', positivePeak_of_pos (lt_of_lt_of_le hpos hle), hle⟩

/-! ## Blocks -/

/-- The machine with other readings of its sampling thread. -/
def HostState.sampling (s : HostState) (samples : List MemorySample) : HostState :=
  { s with host := { s.host with sampler := samples } }

section

variable {β : Type}

/-- Work that the readings of the sampling thread make no difference to. -/
def IgnoresSampler (p : OnHost β) : Prop :=
  ∀ s samples, p.run (s.sampling samples) = ((p.run s).1, (p.run s).2.sampling samples)

theorem ignoresSampler_pure (b : β) : IgnoresSampler (pure b) := fun _ _ => rfl

/-- The machine as the body of a block leaves it. -/
def HostState.afterBody (s : HostState) (label : String) (o : ProfileOptions) (body : ProfileStats → OnHost β) :
    HostState :=
  ((body { label, startTime := s.host.secondsAt s.secondsCalls }).run (s.opened label o)).2

/-- The readings of the memory that count for a block: the two around its body, and those that the sampling
    thread sees if there is one. -/
def HostState.observed (s : HostState) (label : String) (o : ProfileOptions) (body : ProfileStats → OnHost β)
    (seen : List Int) : List Int :=
  s.host.memoryAt s.memoryCalls ::
    (s.afterBody label o body).host.memoryAt (s.afterBody label o body).memoryCalls ::
    if o.sampleMemory = true then seen else []

/-- The peak that a block reports when the sampling thread makes such readings. -/
def reportedPeak (label : String) (o : ProfileOptions) (body : ProfileStats → OnHost β) (s : HostState)
    (samples : List MemorySample) : Option Int :=
  ((profileAround label o body).run (s.sampling samples)).1.2.peakMemory

variable {label : String} {o : ProfileOptions} {body : ProfileStats → OnHost β}

theorem reportedPeak_eq (hbody : ∀ stats, IgnoresSampler (body stats)) (s : HostState)
    (samples : List MemorySample) :
    reportedPeak label o body s samples =
      positivePeak (peakOf (s.host.memoryAt s.memoryCalls) (if o.sampleMemory = true then samples else [])
        ((s.afterBody label o body).host.memoryAt (s.afterBody label o body).memoryCalls)) := by
  have hrun := hbody { label, startTime := s.host.secondsAt s.secondsCalls } (s.opened label o) samples
  rw [reportedPeak, run_profileAround (s := s.sampling samples) hrun]
  rfl

/-- Readings of which the thread makes the same give the same peak. -/
theorem reportedPeak_congr (hbody : ∀ stats, IgnoresSampler (body stats)) (s : HostState)
    {samples samples' : List MemorySample} (h : ∀ peak, samplePeak peak samples = samplePeak peak samples') :
    reportedPeak label o body s samples = reportedPeak label o body s samples' := by
  rw [reportedPeak_eq hbody, reportedPeak_eq hbody]
  split
  · rw [peakOf, peakOf, h]
  · rfl

/-- **The peak of a block.** It is the greatest of the readings before and after the body and, if the memory is
    sampled, of those that the sampling thread made before its first failure; there is none if that one is not
    positive. So what the thread would read after a failure makes no difference, nor does anything it reads if
    the memory is not sampled, nor the order of its readings if none fails, and one more reading lowers no
    peak. -/
theorem profileAround_peak (label : String) (o : ProfileOptions) (body : ProfileStats → OnHost β)
    (hbody : ∀ stats, IgnoresSampler (body stats)) (s : HostState) :
    (∀ samples, ∃ seen, Sees samples seen ∧
      ∃ peak ∈ s.observed label o body seen, (∀ r ∈ s.observed label o body seen, r ≤ peak) ∧
        (reportedPeak label o body s samples = none ↔ peak ≤ 0) ∧
        (0 < peak → reportedPeak label o body s samples = some peak)) ∧
    (∀ samples later, reportedPeak label o body s (samples ++ .failure :: later) =
      reportedPeak label o body s samples) ∧
    (o.sampleMemory = false → ∀ samples samples', reportedPeak label o body s samples =
      reportedPeak label o body s samples') ∧
    (∀ samples samples', samples.Perm samples' → .failure ∉ samples →
      reportedPeak label o body s samples = reportedPeak label o body s samples') ∧
    ∀ samples samples' n p, reportedPeak label o body s (samples ++ samples') = some p →
      ∃ p', reportedPeak label o body s (samples ++ .bytes n :: samples') = some p' ∧ p ≤ p' := by
  refine ⟨?_, ?_, ?_, ?_, ?_⟩
  · intro samples
    obtain ⟨seen, hsees⟩ := exists_sees samples
    have htaken : Sees (if o.sampleMemory = true then samples else [])
        (if o.sampleMemory = true then seen else []) := by
      split
      · exact hsees
      · exact .inl rfl
    obtain ⟨hmem, hle⟩ := peakOf_isGreatest (s.host.memoryAt s.memoryCalls)
      ((s.afterBody label o body).host.memoryAt (s.afterBody label o body).memoryCalls) htaken
    refine ⟨seen, hsees, _, hmem, hle, ?_, ?_⟩
    · rw [reportedPeak_eq hbody]
      exact positivePeak_eq_none_iff _
    · intro hpos
      rw [reportedPeak_eq hbody]
      exact positivePeak_of_pos hpos
  · intro samples later
    exact reportedPeak_congr hbody s (samplePeak_append_failure samples later)
  · intro hoff samples samples'
    rw [reportedPeak_eq hbody, reportedPeak_eq hbody, hoff]
    rfl
  · intro samples samples' hperm hgood
    exact reportedPeak_congr hbody s (samplePeak_perm hperm hgood)
  · intro samples samples' n p hp
    rw [reportedPeak_eq hbody] at hp
    rw [reportedPeak_eq hbody]
    refine positivePeak_mono ?_ hp
    split
    · exact max_le_max_right _ (samplePeak_le_insert samples samples' n _)
    · exact le_refl _

end

/-- A sampled block around nothing: the reading after the failure does not count, and neither does any if the
    memory is not sampled. -/
theorem profileAround_peak_sampled :
    (∀ _ : ProfileStats, IgnoresSampler (pure ())) ∧
    reportedPeak "block" { sampleMemory := true } (fun _ => pure ()) (Host.fresh { memory := [3, 5] })
      [.bytes 9, .bytes 4, .failure, .bytes 100] = some 9 ∧
    reportedPeak "block" {} (fun _ => pure ()) (Host.fresh { memory := [3, 5] })
      [.bytes 9, .bytes 4] = some 5 := by
  have hpure (_ : ProfileStats) : IgnoresSampler (pure ()) := ignoresSampler_pure ()
  obtain ⟨-, hlater, -⟩ := profileAround_peak "block" { sampleMemory := true } (fun _ => pure ()) hpure
    (Host.fresh { memory := [3, 5] })
  obtain ⟨-, -, hoff, -⟩ := profileAround_peak "block" {} (fun _ => pure ()) hpure
    (Host.fresh { memory := [3, 5] })
  refine ⟨hpure, ?_, ?_⟩
  · exact (hlater [.bytes 9, .bytes 4] [.bytes 100]).trans rfl
  · exact (hoff rfl _ []).trans rfl

end RenderBench
