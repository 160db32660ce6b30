import Mathlib.Data.List.Basic
import Mathlib.Data.Nat.Bitwise
import RenderBench.Log.Level
import RenderBench.Proofs.Lookup
import RenderBench.Proofs.Text.Utf8

/-!
# `Proofs.Text.Capitals` — capitals of capitals

Mapping a text to capitals a second time changes nothing: no character that the mapping gives is one that it
changes. Both sets of characters are read off the tables, and packed into numbers, bit by bit, they are seen
to be disjoint.

## Contents
- `SteppedRange.points`, `pointSet`: the members of a range, and code points as the bits of a number.
- `smallPoints`, `capitalPoints`: what the mapping changes, and what it gives.
- `upper_upper`: a text of capitals stays as it is.
- `Log.Level.ofName?_upper`: names of levels.
-/

namespace RenderBench

/-! ## Sets of code points -/

/-- The members of a stepped range. -/
def SteppedRange.points (r : SteppedRange) : List Nat :=
  (List.range ((r.last - r.first) / r.step + 1)).map fun k => r.first + k * r.step

theorem SteppedRange.mem_points {r : SteppedRange} {n : Nat} (h : r.contains n = true) : n ∈ r.points := by
  simp only [contains, Bool.and_eq_true, decide_eq_true_eq, beq_iff_eq] at h
  obtain ⟨⟨hfirst, hlast⟩, hstep⟩ := h
  have hsteps : (n - r.first) / r.step * r.step = n - r.first :=
    Nat.div_mul_cancel (Nat.dvd_of_mod_eq_zero hstep)
  have hcount : (n - r.first) / r.step ≤ (r.last - r.first) / r.step := Nat.div_le_div_right (by omega)
  refine List.mem_map.mpr ⟨(n - r.first) / r.step, List.mem_range.mpr (by omega), ?_⟩
  rw [hsteps]
  omega

/-- Code points as the bits of a number. -/
def pointSet (ns : List Nat) : Nat := ns.foldr (fun n s => 1 <<< n ||| s) 0

theorem testBit_pointSet {ns : List Nat} {n : Nat} : (pointSet ns).testBit n = true ↔ n ∈ ns := by
  induction ns with
  | nil => simp [pointSet]
  | cons m ns ih =>
    have hcons : pointSet (m :: ns) = 1 <<< m ||| pointSet ns := rfl
    rw [hcons, Nat.testBit_or, Bool.or_eq_true, ih, Nat.one_shiftLeft, Nat.testBit_two_pow, decide_eq_true_eq,
      List.mem_cons, eq_comm]

theorem not_mem_of_pointSet_and {ms ns : List Nat} (h : pointSet ms &&& pointSet ns = 0) {n : Nat} (hn : n ∈ ns) :
    n ∉ ms := by
  intro hm
  have hbit : (pointSet ms &&& pointSet ns).testBit n = true := by
    rw [Nat.testBit_and, testBit_pointSet.mpr hm, testBit_pointSet.mpr hn, Bool.and_self]
  rw [h, Nat.zero_testBit] at hbit
  cases hbit

/-! ## The mapping to capitals -/

/-- What the mapping to capitals changes. -/
def smallPoints : List Nat :=
  SteppedRange.points ⟨0x61, 0x7a, 1⟩ ++ upperSpecials.map Prod.fst ++
    upperShifts.flatMap fun (first, last, step, _) => SteppedRange.points ⟨first, last, step⟩

/-- What the mapping to capitals makes of it. -/
def capitalPoints : List Nat :=
  SteppedRange.points ⟨0x41, 0x5a, 1⟩ ++ upperSpecials.flatMap Prod.snd ++
    upperShifts.flatMap fun (first, last, step, d) =>
      (SteppedRange.points ⟨first, last, step⟩).map fun n : Nat => (n + d).toNat

theorem not_mem_smallPoints {n : Nat} (h : n ∈ capitalPoints) : n ∉ smallPoints := by
  have hdisjoint : pointSet smallPoints &&& pointSet capitalPoints = 0 := by decide +kernel
  exact not_mem_of_pointSet_and hdisjoint h

theorem toUpper_of_not_small {c : Char} (h : ¬ (0x61 ≤ c.toNat ∧ c.toNat ≤ 0x7a)) : c.toUpper = c := by
  unfold Char.toUpper
  exact dif_neg h

/-- A character stays as it is, or is mapped to capital code points. -/
theorem upperChar_cases (c : Char) :
    upperChar c = [c] ∨ ∀ d ∈ upperChar c, ∃ n ∈ capitalPoints, d = Char.ofNat n := by
  simp only [capitalPoints, List.mem_append, List.mem_flatMap]
  unfold upperChar
  split
  · -- below the tables only the alphabet has small letters
    by_cases hsmall : 0x61 ≤ c.toNat ∧ c.toNat ≤ 0x7a
    · right
      intro d hd
      have hletters : ∀ n, n ≤ 0x7a → 0x61 ≤ n →
          n - 0x20 ∈ SteppedRange.points ⟨0x41, 0x5a, 1⟩ ∧ (Char.ofNat n).toUpper = Char.ofNat (n - 0x20) := by
        decide
      obtain ⟨hmem, hupper⟩ := hletters c.toNat hsmall.2 hsmall.1
      rw [Char.ofNat_toNat] at hupper
      exact ⟨_, .inl (.inl hmem), (List.mem_singleton.mp hd).trans hupper⟩
    · left
      rw [toUpper_of_not_small hsmall]
  · unfold mapCase
    split
    · next cs hspecial =>
      right
      intro d hd
      obtain ⟨n, hn, rfl⟩ := List.mem_map.mp hd
      exact ⟨n, .inl (.inr ⟨_, mem_of_lookup hspecial, hn⟩), rfl⟩
    · unfold shifted
      split
      · next first last step d hfind =>
        right
        intro e he
        have hcontains := List.find?_some hfind
        refine ⟨_, .inr ⟨_, List.mem_of_find?_eq_some hfind, ?_⟩, List.mem_singleton.mp he⟩
        exact List.mem_map.mpr ⟨_, SteppedRange.mem_points hcontains, rfl⟩
      · left
        rw [Char.ofNat_toNat]

theorem upperChar_of_not_small {c : Char} (h : c.toNat ∉ smallPoints) : upperChar c = [c] := by
  simp only [smallPoints, List.mem_append, not_or, List.mem_flatMap, not_exists, not_and] at h
  obtain ⟨⟨hletter, hspecial⟩, hrow⟩ := h
  unfold upperChar
  split
  · rw [toUpper_of_not_small]
    rintro ⟨hfirst, hlast⟩
    have hcontains : SteppedRange.contains ⟨0x61, 0x7a, 1⟩ c.toNat = true := by
      simp [SteppedRange.contains, hfirst, hlast, Nat.mod_one]
    exact hletter (SteppedRange.mem_points hcontains)
  · have hlookup : upperSpecials.lookup c.toNat = none := by
      refine List.lookup_eq_none_iff.mpr fun row hmem => bne_iff_ne.mpr ?_
      intro heq
      exact hspecial (List.mem_map.mpr ⟨row, hmem, heq.symm⟩)
    have hfind : (upperShifts.find? fun (first, last, step, _) =>
        SteppedRange.contains ⟨first, last, step⟩ c.toNat) = none := by
      refine List.find?_eq_none.mpr ?_
      intro row hmem hcontains
      exact hrow row hmem (SteppedRange.mem_points hcontains)
    rw [mapCase, hlookup, shifted, hfind, Char.ofNat_toNat]

theorem upperChar_of_mem {c d : Char} (h : d ∈ upperChar c) : upperChar d = [d] := by
  rcases upperChar_cases c with hsame | hcapital
  · rw [hsame, List.mem_singleton] at h
    rw [h, hsame]
  · obtain ⟨n, hn, rfl⟩ := hcapital d h
    by_cases hvalid : n.isValidChar
    · apply upperChar_of_not_small
      rw [toNat_ofNat hvalid]
      exact not_mem_smallPoints hn
    · -- a number that is no code point stands for the null character, which has no capital
      rw [Char.ofNat, dif_neg hvalid]
      rfl

/-- **Capitals stay as they are.** -/
theorem upper_upper (s : String) : upper (upper s) = upper s := by
  have hagain : (s.toList.flatMap upperChar).flatMap upperChar = s.toList.flatMap upperChar := by
    rw [List.flatMap_assoc]
    refine List.flatMap_congr fun c _ => ?_
    calc (upperChar c).flatMap upperChar
        = (upperChar c).flatMap fun d => [d] := List.flatMap_congr fun d hd => upperChar_of_mem hd
      _ = upperChar c := List.flatMap_singleton' _
  rw [upper, upper, String.toList_ofList, hagain]

/-- Levels are named in any letter case. -/
theorem Log.Level.ofName?_upper (name : String) : ofName? (upper name) = ofName? name := by
  rw [ofName?, upper_upper, ofName?]

end RenderBench
