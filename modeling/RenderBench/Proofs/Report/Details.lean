import RenderBench.Proofs.Json.Cut
import RenderBench.Proofs.Statistics.Spread
import RenderBench.Report.Details

/-!
# `Proofs.Report.Details` — when a result has a table and a document

Apart from the markup in a label, only figures beyond the largest real number stand against the table of a
session and its document: the spread of its samples and its amounts of memory. A result in range has
both.

## Contents
- `SessionResult.InRange`: results whose figures are not too large.
- `exists_bytesText`, `exists_detailsRows`: the parts of the table.
- `exists_detailsText`, `exists_toJson`: the table and the document.
-/

namespace RenderBench

open Terminal (readMarkup)

/-- A result with samples and amounts of memory that are not too large for a real number. -/
structure SessionResult.InRange (r : SessionResult) (k : Nat) : Prop where
  range : k + 2 ≤ rangeBits
  samples_ne : r.samples ≠ []
  samples : Within k r.samples
  memory : ∀ p n, r.profile = some p → p.peakMemory = some n ∨ p.peakTraced = some n →
    n.natAbs < 2 ^ rangeBits

variable {r : SessionResult} {k : Nat}

/-! ## Figures -/

theorem exists_groupedFigure {f : Figure} (hk : k ≤ rangeBits) (h : ∀ i, f = .whole i → i.natAbs < 2 ^ k) :
    ∃ text, groupedFigure f = .ok text := by
  cases f with
  | real x => exact ⟨_, rfl⟩
  | whole i =>
    rw [groupedFigure]
    exact ⟨_, if_pos (Binary64.isFinite_ofInt hk (h i rfl))⟩

theorem isFinite_units {n : Int} (h : n.natAbs < 2 ^ rangeBits) :
    ((Figure.whole n).divNat bytesPerUnit).isFinite := by
  refine Binary64.isFinite_ofRatio _ (le_refl rangeBits) (h.trans_le ?_)
  exact Nat.le_mul_of_pos_left _ (by decide)

theorem exists_bytesText {amount : Option Int} (h : ∀ n, amount = some n → n.natAbs < 2 ^ rangeBits) :
    ∃ text, bytesText (amount.map .whole) = .ok text := by
  cases amount with
  | none => exact ⟨_, rfl⟩
  | some n =>
    rw [Option.map_some, bytesText]
    by_cases hzero : (Figure.whole n).isZero
    · exact ⟨_, if_pos hzero⟩
    · rw [if_neg hzero]
      show ∃ text, (((Figure.whole n).divNat bytesPerUnit).bounded >>= _) = .ok text
      rw [bounded_of_isFinite (isFinite_units (h n rfl))]
      exact ⟨_, rfl⟩

/-! ## Rows -/

theorem exists_profileRows {p : ProfileStats}
    (h : ∀ n, p.peakMemory = some n ∨ p.peakTraced = some n → n.natAbs < 2 ^ rangeBits) :
    ∃ rows, profileRows p = .ok rows := by
  obtain ⟨peak, hpeak⟩ := exists_bytesText fun n hn => h n (.inl hn)
  unfold profileRows
  simp only
  rw [hpeak]
  cases htraced : p.peakTraced with
  | none => exact ⟨_, rfl⟩
  | some n =>
    obtain ⟨traced, hbytes⟩ := exists_bytesText fun n hn => h n (.inr hn)
    rw [htraced] at hbytes
    simp only
    rw [hbytes]
    exact ⟨_, rfl⟩

theorem exists_detailsRows (h : r.InRange k) : ∃ rows, detailsRows r = .ok rows := by
  have hrange := h.range
  obtain ⟨middle, hmedian, hwhole⟩ := exists_median h.samples_ne (by omega) h.samples
  obtain ⟨figure, hfigure⟩ := exists_groupedFigure (by omega : k ≤ rangeBits) hwhole
  obtain ⟨deviation, hstddev⟩ := exists_stddev hrange h.samples
  unfold detailsRows
  rw [SessionResult.median, SessionResult.stddev, hmedian, hstddev]
  show ∃ rows, (groupedFigure middle >>= _) = .ok rows
  rw [hfigure]
  cases hprofile : r.profile with
  | none => exact ⟨_, rfl⟩
  | some p =>
    obtain ⟨rows, hrows⟩ := exists_profileRows fun n hn => h.memory p n hprofile hn
    show ∃ rows, (profileRows p >>= _) = .ok rows
    rw [hrows]
    exact ⟨_, rfl⟩

/-! ## The table and the document -/

/-- **A result in range has a table**, if its label can be read as markup. -/
theorem exists_detailsText (h : r.InRange k)
    (hlabel : (readMarkup ("tablebench: " ++ r.label)).isOk) (terminal : Nat) (escapes : Bool) :
    ∃ text, detailsText terminal escapes r = .ok text := by
  obtain ⟨rows, hrows⟩ := exists_detailsRows h
  unfold detailsText
  rw [hrows]
  cases htitle : readMarkup ("tablebench: " ++ r.label) with
  | error e =>
    rw [htitle] at hlabel
    cases hlabel
  | ok title => exact ⟨_, rfl⟩

/-- A size within the range of real numbers has few digits. -/
theorem lt_digits_of_lt {n : Nat} (h : n < 2 ^ rangeBits) : n < 10 ^ digitLimit := by
  have hpow : 2 ^ rangeBits ≤ 10 ^ digitLimit :=
    (Nat.pow_le_pow_left (by decide) _).trans (Nat.pow_le_pow_right (by decide) (by decide))
  exact h.trans_le hpow

theorem allShort_ofOption_int {amount : Option Int} (h : ∀ n, amount = some n → n.natAbs < 2 ^ rangeBits) :
    (Json.ofOption .int amount).AllShort := by
  cases amount with
  | none => rfl
  | some n => exact Json.isLong_of_lt (lt_digits_of_lt (h n rfl))

theorem allShort_ofOption_real (amount : Option Binary64) : (Json.ofOption .real amount).AllShort := by
  cases amount <;> rfl

theorem allShort_profile {p : ProfileStats}
    (h : ∀ n, p.peakMemory = some n ∨ p.peakTraced = some n → n.natAbs < 2 ^ rangeBits) : p.toJson.AllShort := by
  refine Json.allShortMembers_iff.mpr ?_
  simp only [List.forall_mem_cons]
  exact ⟨rfl, rfl, rfl, rfl, allShort_ofOption_int fun n hn => h n (.inl hn),
    allShort_ofOption_int fun n hn => h n (.inr hn), allShort_ofOption_real p.processor, nofun⟩

theorem allShort_figure {f : Figure} (h : ∀ i, f = .whole i → i.natAbs < 2 ^ rangeBits) : f.toJson.AllShort := by
  cases f with
  | real x => rfl
  | whole i => exact Json.isLong_of_lt (lt_digits_of_lt (h i rfl))

/-- **A result in range has a document** of short integers, if its counts and its summary are as small. -/
theorem exists_toJson (h : r.InRange k)
    (hfigures : ∀ i ∈ [r.itemCount, r.runCount, r.min, r.max, r.average, r.renderErrors, r.warmupRuns],
      i.natAbs < 2 ^ rangeBits) (withSamples : Bool) :
    ∃ json, r.toJson withSamples = .ok json ∧ json.AllShort := by
  have hrange := h.range
  obtain ⟨middle, hmedian, hwhole⟩ := exists_median h.samples_ne (by omega) h.samples
  obtain ⟨deviation, hstddev⟩ := exists_stddev hrange h.samples
  rw [SessionResult.toJson, SessionResult.median, SessionResult.stddev, hmedian, hstddev]
  have hle : 2 ^ k ≤ 2 ^ rangeBits := Nat.pow_le_pow_right (by decide) (by omega)
  have hshort := fun i hi => Json.isLong_of_lt (lt_digits_of_lt (hfigures i hi))
  have hsamples : (Json.list (r.samples.map .int)).AllShort :=
    Json.allShortElements_ints fun i hi => Json.isLong_of_lt (lt_digits_of_lt ((h.samples i hi).trans_le hle))
  have hprofile : (Json.ofOption ProfileStats.toJson r.profile).AllShort := by
    cases hp : r.profile with
    | none => rfl
    | some p => exact allShort_profile fun n hn => h.memory p n hp hn
  have hmiddle : middle.toJson.AllShort := allShort_figure fun i hi => (hwhole i hi).trans_le hle
  simp only [List.forall_mem_cons] at hshort
  obtain ⟨hitems, hruns, hmin, hmax, haverage, herrors, hwarmup, -⟩ := hshort
  refine ⟨_, rfl, Json.allShortMembers_iff.mpr (List.forall_mem_append.mpr ⟨?_, ?_⟩)⟩
  · simp only [List.forall_mem_cons]
    exact ⟨rfl, hitems, hruns, hmin, hmax, haverage, hmiddle, rfl, herrors, hwarmup, hprofile, nofun⟩
  · cases withSamples with
    | false => exact nofun
    | true => exact List.forall_mem_singleton.mpr hsamples

end RenderBench
