import RenderBench.Json.Writer
import RenderBench.Proofs.Number.Shortest

/-!
# `Proofs.Number.Layout` — a written real number is read back

The shortest digits of a number are set out positionally or with an exponent. Either way the text is a numeral whose
value is the decimal they were taken from, so that it is read as the number. It always has a point or an exponent, by
which it is told from a whole number.

## Contents
- `WrittenNumeral.exact`: the exact value of a written numeral.
- `SetsOut`: what a layout of digits has to be.
- `setsOut_positional`, `setsOut_scientific`: the two layouts.
- `exists_numeral`: the text of a finite number is read as the number.
-/

namespace RenderBench

open WrittenNumeral

/-- The exact value of a written numeral. -/
def WrittenNumeral.exact (w : WrittenNumeral) : ℚ :=
  natOfDigits (w.whole ++ w.fraction.getD []) *
    10 ^ ((w.exponent.map exponentValue).getD 0 - ((w.fraction.getD []).length : Int))

/-- A numeral with a point or an exponent whose value is that of the digits with the decimal point after the first
    `point` of them. -/
structure SetsOut (digits : List Char) (point : Int) (w : WrittenNumeral) : Prop where
  proper : w.Proper
  notWhole : w.fraction.isSome ∨ w.exponent.isSome
  fraction_ne_nil : w.fraction ≠ some []
  exact : w.exact = natOfDigits digits * 10 ^ (point - digits.length)

variable {digits : List Char} {point : Int}

/-- Before the first digit there are zeros, and one of them before the point. -/
theorem setsOut_small (hdigits : AllDigits digits) (hne : digits ≠ []) (hpoint : point ≤ 0) :
    SetsOut digits point ⟨['0'], some (List.replicate (-point).toNat '0' ++ digits), none⟩ where
  proper := ⟨AllDigits.zeros 1, List.cons_ne_nil _ _, (AllDigits.zeros _).append hdigits,
    fun _ h => absurd h (Option.not_mem_none _)⟩
  notWhole := .inl rfl
  fraction_ne_nil := by
    intro h
    exact hne (List.append_eq_nil_iff.mp (Option.some.inj h)).2
  exact := by
    have hvalue : natOfDigits ('0' :: (List.replicate (-point).toNat '0' ++ digits)) = natOfDigits digits := by
      rw [← List.cons_append, ← List.replicate_succ, natOfDigits_append, natOfDigits_zeros, Nat.zero_mul, Nat.zero_add]
    have hexponent : (0 : Int) - ((-point).toNat + digits.length : Nat) = point - digits.length := by omega
    simp only [WrittenNumeral.exact, Option.getD_some, List.singleton_append, hvalue, Option.map_none,
      Option.getD_none, List.length_append, List.length_replicate, hexponent]

/-- After the last digit there are zeros up to the point, and one behind it. -/
theorem setsOut_large (hdigits : AllDigits digits) (hne : digits ≠ []) (hpoint : digits.length ≤ point.toNat) :
    SetsOut digits point ⟨digits ++ List.replicate (point.toNat - digits.length) '0', some ['0'], none⟩ where
  proper := ⟨hdigits.append (AllDigits.zeros _), List.append_ne_nil_of_left_ne_nil hne _, AllDigits.zeros 1,
    fun _ h => absurd h (Option.not_mem_none _)⟩
  notWhole := .inl rfl
  fraction_ne_nil := by simp
  exact := by
    have hpos : 0 < digits.length := List.length_pos_of_ne_nil hne
    obtain ⟨k, hk⟩ : ∃ k : Nat, point = digits.length + k := ⟨point.toNat - digits.length, by omega⟩
    have hzeros : point.toNat - digits.length = k := by omega
    -- each zero behind the digits is a power of ten, that of the fraction included
    have hvalue : natOfDigits (digits ++ List.replicate k '0' ++ ['0']) = natOfDigits digits * 10 ^ (k + 1) := by
      rw [List.append_assoc, ← List.replicate_succ', natOfDigits_append, natOfDigits_zeros, List.length_replicate,
        Nat.add_zero]
    have hexponent : point - digits.length = ((k + 1 : Nat) : Int) + (0 - 1) := by omega
    simp only [WrittenNumeral.exact, Option.getD_some, hzeros, hvalue, Option.map_none, Option.getD_none,
      List.length_singleton]
    rw [hexponent, zpow_add₀ (by norm_num), zpow_natCast]
    push_cast
    ring

/-- The point stands among the digits. -/
theorem setsOut_middle (hdigits : AllDigits digits) (hpos : 0 < point.toNat) (hpoint : point.toNat < digits.length) :
    SetsOut digits point ⟨digits.take point.toNat, some (digits.drop point.toNat), none⟩ where
  proper := by
    refine ⟨hdigits.of_subset (List.take_subset _ _), ?_, hdigits.of_subset (List.drop_subset _ _),
      fun _ h => absurd h (Option.not_mem_none _)⟩
    intro h
    have hlength := congrArg List.length h
    rw [List.length_take, List.length_nil] at hlength
    omega
  notWhole := .inl rfl
  fraction_ne_nil := by
    intro h
    have hlength := congrArg List.length (Option.some.inj h)
    rw [List.length_drop, List.length_nil] at hlength
    omega
  exact := by
    have hexponent : (0 : Int) - ((digits.length - point.toNat : Nat) : Int) = point - digits.length := by omega
    simp only [WrittenNumeral.exact, Option.getD_some, List.take_append_drop, Option.map_none, Option.getD_none,
      List.length_drop, hexponent]

theorem setsOut_positional (hdigits : AllDigits digits) (hne : digits ≠ []) :
    ∃ w, SetsOut digits point w ∧ w.chars = positional digits point := by
  unfold positional
  by_cases hsmall : point ≤ 0
  · refine ⟨_, setsOut_small hdigits hne hsmall, ?_⟩
    rw [if_pos hsmall]
    exact List.append_nil _
  · rw [if_neg hsmall]
    by_cases hlarge : digits.length ≤ point.toNat
    · refine ⟨_, setsOut_large hdigits hne hlarge, ?_⟩
      dsimp only
      rw [if_pos hlarge]
      exact List.append_nil _
    · refine ⟨_, setsOut_middle hdigits (by omega) (not_le.mp hlarge), ?_⟩
      dsimp only
      rw [if_neg hlarge]
      exact List.append_nil _

theorem exponentValue_natAbs (e : Int) (width : Nat) :
    exponentValue (decide (e < 0), paddedDecimal width e.natAbs) = e := by
  unfold exponentValue
  dsimp only
  rw [natOfDigits_paddedDecimal]
  by_cases h : e < 0
  · rw [decide_eq_true h, if_pos rfl]
    omega
  · rw [decide_eq_false h, if_neg Bool.false_ne_true]
    omega

/-- One digit stands before the point. -/
theorem setsOut_scientific {layout : RealLayout} (hmark : layout.exponentMark = 'e') (hdigits : AllDigits digits)
    (hne : digits ≠ []) : ∃ w, SetsOut digits point w ∧ w.chars = layout.scientific digits point := by
  have hproper : ∀ p ∈ some (decide (point - 1 < 0), paddedDecimal layout.exponentWidth (point - 1).natAbs),
      AllDigits p.2 ∧ p.2 ≠ [] := by
    intro p hp
    cases hp
    exact ⟨allDigits_paddedDecimal _ _, paddedDecimal_ne_nil _ _⟩
  have hvalue := exponentValue_natAbs (point - 1) layout.exponentWidth
  have hsign : (if decide (point - 1 < 0) = true then '-' else '+') = if point - 1 < 0 then '-' else '+' := by
    simp only [decide_eq_true_eq]
  cases digits with
  | nil => exact absurd rfl hne
  | cons d ds =>
    cases ds with
    | nil =>
      refine ⟨⟨[d], none, some (decide (point - 1 < 0), paddedDecimal layout.exponentWidth (point - 1).natAbs)⟩,
        ⟨⟨hdigits, hne, AllDigits.nil, hproper⟩, .inr rfl, by simp, ?_⟩, ?_⟩
      · simp only [WrittenNumeral.exact, Option.getD_none, List.append_nil, Option.map_some, Option.getD_some, hvalue,
          List.length_nil, List.length_singleton, Nat.cast_zero, Nat.cast_one, sub_zero]
      · simp only [WrittenNumeral.chars, fractionChars, exponentChars, RealLayout.scientific, hmark, hsign,
          List.append_nil]
    | cons d' ds =>
      refine ⟨⟨[d], some (d' :: ds),
          some (decide (point - 1 < 0), paddedDecimal layout.exponentWidth (point - 1).natAbs)⟩,
        ⟨⟨AllDigits.of_subset hdigits (by simp), List.cons_ne_nil _ _, hdigits.tail, hproper⟩, .inr rfl,
          by simp, ?_⟩, ?_⟩
      · have hexponent : point - 1 - ((d' :: ds).length : Int) = point - ((d :: d' :: ds).length : Int) := by
          simp only [List.length_cons]
          omega
        simp only [WrittenNumeral.exact, Option.getD_some, List.singleton_append, Option.map_some, hvalue, hexponent]
      · simp only [WrittenNumeral.chars, fractionChars, exponentChars, RealLayout.scientific, hmark, hsign,
          List.nil_append, List.cons_append]

/-! ## The text of a number -/

/-- The digits of a positive whole number without the zeros at its end. -/
theorem dropTrailingZeros_decimalDigits {n : Nat} (hn : n ≠ 0) :
    AllDigits (dropTrailingZeros (decimalDigits n)) ∧ dropTrailingZeros (decimalDigits n) ≠ [] ∧
      ∀ g : Int, (natOfDigits (dropTrailingZeros (decimalDigits n)) : ℚ) *
        10 ^ ((decimalDigits n).length + g - (dropTrailingZeros (decimalDigits n)).length) = n * 10 ^ g := by
  obtain ⟨k, hk⟩ := exists_dropTrailingZeros (decimalDigits n)
  have hall := allDigits_decimalDigits n
  have hvalue : n = natOfDigits (dropTrailingZeros (decimalDigits n)) * 10 ^ k := by
    calc n = natOfDigits (decimalDigits n) := (natOfDigits_decimalDigits n).symm
      _ = natOfDigits (dropTrailingZeros (decimalDigits n) ++ List.replicate k '0') := by rw [← hk]
      _ = _ := by rw [natOfDigits_append, natOfDigits_zeros, List.length_replicate, Nat.add_zero]
  have hlength : (decimalDigits n).length = (dropTrailingZeros (decimalDigits n)).length + k := by
    have h := congrArg List.length hk
    rwa [List.length_append, List.length_replicate] at h
  have hsubset : dropTrailingZeros (decimalDigits n) ⊆ decimalDigits n := by
    intro c hc
    rw [hk]
    exact List.mem_append_left _ hc
  refine ⟨hall.of_subset hsubset, ?_, fun g => ?_⟩
  · intro hnil
    rw [hnil] at hvalue
    exact hn (hvalue.trans (Nat.zero_mul _))
  · have hexponent : ((decimalDigits n).length : Int) + g - (dropTrailingZeros (decimalDigits n)).length = k + g := by
      omega
    rw [hexponent, zpow_add₀ (by norm_num), zpow_natCast, ← mul_assoc]
    congr 1
    exact_mod_cast hvalue.symm

variable {m : Nat} {e : Int}

theorem exists_numeral_of_ne_zero {layout : RealLayout} (hmark : layout.exponentMark = 'e') (negative : Bool)
    (h : Canonical m e) (hm : m ≠ 0) :
    ∃ w : WrittenNumeral, w.Proper ∧ (w.fraction.isSome ∨ w.exponent.isSome) ∧ w.fraction ≠ some [] ∧
      w.numeral.value negative = .finite negative m e h ∧
      layout.write (.finite negative m e h) = if negative then '-' :: w.chars else w.chars := by
  obtain ⟨hall, hne, hvalue⟩ := dropTrailingZeros_decimalDigits (digits_shortest_ne_zero h hm)
  have hlayouts (point : Int) : ∃ w, SetsOut (dropTrailingZeros (decimalDigits (shortest m e).digits)) point w ∧
      w.chars = if layout.minPoint ≤ point ∧ point ≤ layout.maxPoint
        then positional (dropTrailingZeros (decimalDigits (shortest m e).digits)) point
        else layout.scientific (dropTrailingZeros (decimalDigits (shortest m e).digits)) point := by
    split
    · exact setsOut_positional hall hne
    · exact setsOut_scientific hmark hall hne
  obtain ⟨w, hw, hchars⟩ := hlayouts ((decimalDigits (shortest m e).digits).length + (shortest m e).exponent)
  refine ⟨w, hw.proper, hw.notWhole, hw.fraction_ne_nil, ?_, ?_⟩
  · have haround := shortest_around h hm
    rw [← hvalue, ← hw.exact] at haround
    exact Binary64.ofDecimal_of_around negative h hm haround
  · rw [hchars]
    unfold RealLayout.write
    dsimp only
    rw [if_neg hm]

/-- **The text of a finite number** is a numeral with a point or an exponent, and is read as the number. -/
theorem exists_numeral {layout : RealLayout} (hmark : layout.exponentMark = 'e') (negative : Bool)
    (h : Canonical m e) :
    ∃ w : WrittenNumeral, w.Proper ∧ (w.fraction.isSome ∨ w.exponent.isSome) ∧ w.fraction ≠ some [] ∧
      w.numeral.value negative = .finite negative m e h ∧
      layout.write (.finite negative m e h) = if negative then '-' :: w.chars else w.chars := by
  by_cases hm : m = 0
  · subst hm
    have he : e = -1074 := h.2.2.2.resolve_left (by decide)
    subst he
    exact ⟨⟨['0'], some ['0'], none⟩, ⟨AllDigits.zeros 1, List.cons_ne_nil _ _, AllDigits.zeros 1,
      fun _ h => absurd h (Option.not_mem_none _)⟩, .inl rfl, by simp, rfl, rfl⟩
  · exact exists_numeral_of_ne_zero hmark negative h hm

end RenderBench
