import RenderBench.Proofs.Number.Fixed
import RenderBench.Proofs.Statistics.Spread
import RenderBench.Report.Bytes

/-!
# `Proofs.Report.Bytes` — how amounts of memory are written

The unit is a power of two, so the quotient of an amount below `2^53` is a number and the only rounding is that to
hundredths. Rounding keeps the order, and so does what is written.

## Contents
- `hundredths`, `bytesText_eq`: the text of an amount.
- `hundredths_nearest`: how far what is written is away from the amount.
- `bytesText_eq_na_iff`: which amounts are not available.
- `bytesText_accurate`: the text of any amount.
-/

namespace RenderBench

variable {n : Nat}

/-- An amount of bytes in hundredths of a unit, which is what is written of it. -/
def hundredths (n : Nat) : Nat := unitsOf 2 n (2 ^ 20)

/-- **The text of an amount** that is not zero: its units, a point, two digits, and the name of the unit. -/
theorem bytesText_eq (hpos : 0 < n) (hn : n < 2 ^ 53) :
    bytesText (some (.whole n)) = .ok (String.ofList (fixedDigits false 2 (hundredths n)) ++ " MB") := by
  have hzero : (Figure.whole n).isZero = false := by
    simp only [Figure.isZero, beq_eq_false_iff_ne]
    omega
  have hsign : decide ((n : Int) < 0) = false := decide_eq_false (by omega)
  obtain ⟨hfinite, htext⟩ := fixed_ofRatio (j := 20) hn (by decide) 2
  have hunits : (Figure.whole n).divNat bytesPerUnit = .ofRatio false n (2 ^ 20) := by
    rw [Figure.divNat, hsign, Int.natAbs_natCast]
    rfl
  simp only [bytesText, hzero, Bool.false_eq_true, if_false, hunits]
  rw [bounded_of_isFinite hfinite]
  show Except.ok _ = _
  rw [htext, hundredths]

/-- The digits of a text of an amount. -/
theorem digits_of_amount (n : Nat) :
    String.ofList (fixedDigits false 2 (hundredths n)) ++ " MB" =
      natText (hundredths n / 100) ++ "." ++ String.ofList (paddedDecimal 2 (hundredths n % 100)) ++ " MB" := by
  apply String.toList_inj.mp
  rw [fixedDigits_eq (by decide)]
  simp only [String.toList_append, String.toList_ofList, natText, List.append_assoc]
  rfl

/-- What is written of an amount is read back as hundredths. -/
theorem printed_of_amount (n : Nat) :
    printedNumber? (String.ofList (fixedDigits false 2 (hundredths n)) ++ " MB") = some ((hundredths n : ℚ) / 100) := by
  have hrest : EndsNumeral [' ', 'M', 'B'] := by
    intro c hc
    cases hc
    decide
  have hprinted := printedNumber?_fixedDigits (by decide : 0 < 2) hrest (hundredths n)
  rw [String.ofList_append] at hprinted
  norm_num at hprinted
  exact hprinted

/-- What is written of an amount is the nearest whole number of hundredths, and of two equally near ones the even
    one. -/
theorem hundredths_nearest (n : Nat) :
    |(hundredths n : ℚ) / 100 - n / 2 ^ 20| ≤ 1 / 200 ∧
      (|(hundredths n : ℚ) / 100 - n / 2 ^ 20| = 1 / 200 → hundredths n % 2 = 0) := by
  obtain ⟨⟨hlow, hhigh⟩, hodd⟩ := roundHalfEven_spec (a := n * pow10 2) (b := 2 ^ 20) (by positivity)
  have hscale : ((n * pow10 2 : Nat) : ℚ) / (2 ^ 20 : Nat) = n / 2 ^ 20 * 100 := by
    simp only [pow10, Nat.pow_eq]
    push_cast
    ring
  rw [hscale] at hlow hhigh hodd
  change (hundredths n : ℚ) - 1 / 2 ≤ _ at hlow
  change _ ≤ (hundredths n : ℚ) + 1 / 2 at hhigh
  change hundredths n % 2 = 1 → (hundredths n : ℚ) - 1 / 2 < _ ∧ _ < (hundredths n : ℚ) + 1 / 2 at hodd
  refine ⟨abs_le.mpr ⟨by linarith, by linarith⟩, fun htie => ?_⟩
  -- an odd number of hundredths is not taken for a tie
  by_contra hne
  obtain ⟨hlow', hhigh'⟩ := hodd (by omega)
  exact absurd htie (abs_lt.mpr ⟨by linarith, by linarith⟩).ne

theorem hundredths_mono {a b : Nat} (hab : a ≤ b) : hundredths a ≤ hundredths b :=
  roundHalfEven_mono (Nat.mul_le_mul_right _ hab)

/-! ## Amounts that are not available -/

/-- No amount that is written has the text for one that is not available. -/
theorem append_unit_ne (s : String) : s ++ " MB" ≠ "N/A" := by
  intro h
  have hlast := congrArg (fun t : String => t.toList.getLast?) h
  rw [String.toList_append] at hlast
  simp at hlast

theorem isZero_of_bytesText {f : Figure} (h : bytesText (some f) = .ok "N/A") : f.isZero = true := by
  by_contra hne
  unfold bytesText at h
  simp only [if_neg hne] at h
  cases f with
  | whole i =>
    cases hunits : ((Figure.whole i).divNat bytesPerUnit).bounded with
    | ok units =>
      simp only [hunits] at h
      exact append_unit_ne _ (Except.ok.inj h)
    | error e =>
      simp only [hunits] at h
      cases h
  | real x => exact append_unit_ne _ (Except.ok.inj h)

/-- The zeros of either sign are the only numbers that are zero. -/
theorem eq_zero_of_isZero {x : Binary64} (h : x.isZero = true) : ∃ negative, x = .zero negative := by
  cases x with
  | nan => cases h
  | infinite s => cases h
  | finite s m e hcanonical =>
    obtain rfl : m = 0 := beq_iff_eq.mp h
    obtain rfl : e = -1074 := hcanonical.2.2.2.resolve_left (by decide)
    exact ⟨s, rfl⟩

/-- **Not available** are nothing and the zeros. -/
theorem bytesText_eq_na_iff (amount : Option Figure) :
    bytesText amount = .ok "N/A" ↔
      amount = none ∨ amount = some (.whole 0) ∨ ∃ negative, amount = some (.real (.zero negative)) := by
  constructor
  · intro h
    match amount with
    | none => exact .inl rfl
    | some (.whole i) =>
      obtain rfl : i = 0 := beq_iff_eq.mp (isZero_of_bytesText h)
      exact .inr (.inl rfl)
    | some (.real x) =>
      obtain ⟨negative, rfl⟩ := eq_zero_of_isZero (x := x) (isZero_of_bytesText h)
      exact .inr (.inr ⟨negative, rfl⟩)
  · rintro (rfl | rfl | ⟨negative, rfl⟩)
    · rfl
    · rfl
    · rfl

/-! ## The text of any amount -/

/-- **Amounts are written accurately, and in their order.** What is written of a positive amount below `2^53` is its
    number of units with two digits after the point: the number that is printed is the multiple of a hundredth nearest
    to the exact quotient, and the even one of two equally near ones, so it is within half a hundredth of it. Of two
    amounts the larger one has no smaller number. Not available are nothing and the zeros, and nothing else. -/
theorem bytesText_accurate :
    (∀ n : Nat, 0 < n → n < 2 ^ 53 → ∃ units : Nat,
      bytesText (some (.whole n)) =
        .ok (natText (units / 100) ++ "." ++ String.ofList (paddedDecimal 2 (units % 100)) ++ " MB") ∧
      |(units : ℚ) / 100 - n / 2 ^ 20| ≤ 1 / 200 ∧
      (|(units : ℚ) / 100 - n / 2 ^ 20| = 1 / 200 → units % 2 = 0) ∧
      ∀ text, bytesText (some (.whole n)) = .ok text → printedNumber? text = some ((units : ℚ) / 100)) ∧
    (∀ a b : Nat, 0 < a → a ≤ b → b < 2 ^ 53 → ∃ s t x y,
      bytesText (some (.whole a)) = .ok s ∧ bytesText (some (.whole b)) = .ok t ∧
        printedNumber? s = some x ∧ printedNumber? t = some y ∧ x ≤ y) ∧
    ∀ amount, bytesText amount = .ok "N/A" ↔
      amount = none ∨ amount = some (.whole 0) ∨ ∃ negative, amount = some (.real (.zero negative)) := by
  refine ⟨fun n hpos hn => ?_, fun a b hpos hab hb => ?_, bytesText_eq_na_iff⟩
  · obtain ⟨hnear, htie⟩ := hundredths_nearest n
    refine ⟨hundredths n, ?_, hnear, htie, ?_⟩
    · rw [bytesText_eq hpos hn, digits_of_amount]
    · intro text htext
      obtain rfl := Except.ok.inj ((bytesText_eq hpos hn).symm.trans htext)
      exact printed_of_amount n
  · refine ⟨_, _, _, _, bytesText_eq hpos (hab.trans_lt hb), bytesText_eq (hpos.trans_le hab) hb,
      printed_of_amount a, printed_of_amount b, ?_⟩
    have hmono : (hundredths a : ℚ) ≤ hundredths b := by exact_mod_cast hundredths_mono hab
    linarith

/-- An eighth of a unit lies halfway between two hundredths, and a byte more does not. -/
theorem bytesText_accurate_eighth :
    (∃ units : Nat, bytesText (some (.whole (2 ^ 17 : Nat))) =
        .ok (natText (units / 100) ++ "." ++ String.ofList (paddedDecimal 2 (units % 100)) ++ " MB") ∧
      |(units : ℚ) / 100 - (2 ^ 17 : Nat) / 2 ^ 20| ≤ 1 / 200) ∧
    (∃ s t x y, bytesText (some (.whole (2 ^ 17 : Nat))) = .ok s ∧
      bytesText (some (.whole (2 ^ 17 + 1 : Nat))) = .ok t ∧
        printedNumber? s = some x ∧ printedNumber? t = some y ∧ x ≤ y) ∧
    bytesText (some (.whole 0)) = .ok "N/A" := by
  obtain ⟨htext, horder, hmissing⟩ := bytesText_accurate
  obtain ⟨units, hok, hnear, -⟩ := htext (2 ^ 17) (by decide) (by decide)
  exact ⟨⟨units, hok, hnear⟩, horder (2 ^ 17) (2 ^ 17 + 1) (by decide) (by decide) (by decide),
    (hmissing _).mpr (.inr (.inl rfl))⟩

example : bytesText (some (.whole (2 ^ 17))) = .ok "0.12 MB" := by decide +kernel

end RenderBench
