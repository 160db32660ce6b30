import Mathlib.Tactic.Ring
import RenderBench.Number.Reading
import RenderBench.Number.Shortest

/-!
# `Proofs.Number.Digits` — digits and numerals are read as they were written

The decimal digits of a whole number have that number as their value, also with zeros before them, and zeros after them
are so many powers of ten. A numeral of digits, with or without a point and an exponent, is taken whole from the front
of a text whose rest cannot go on with it.

## Contents
- `AllDigits`: digits only, and the number that digits stand for.
- `EndsNumeral`: a rest that cannot go on with a numeral.
- `WrittenNumeral`, `scanNumeral?_chars`: the scanner takes a written numeral and nothing else.
-/

namespace RenderBench

/-! ## Digits -/

/-- Nothing but decimal digits. -/
def AllDigits (cs : List Char) : Prop := ∀ c ∈ cs, c.isDigit = true

namespace AllDigits

variable {c : Char} {cs ds : List Char}

theorem nil : AllDigits [] := fun _ h => absurd h List.not_mem_nil

theorem head (h : AllDigits (c :: cs)) : c.isDigit = true := h c List.mem_cons_self

theorem tail (h : AllDigits (c :: cs)) : AllDigits cs := fun d hd => h d (List.mem_cons_of_mem c hd)

theorem append (hcs : AllDigits cs) (hds : AllDigits ds) : AllDigits (cs ++ ds) := by
  intro c hc
  exact (List.mem_append.mp hc).elim (hcs c) (hds c)

theorem of_subset (hds : AllDigits ds) (h : cs ⊆ ds) : AllDigits cs := fun c hc => hds c (h hc)

theorem zeros (n : Nat) : AllDigits (List.replicate n '0') := by
  intro c hc
  rw [List.eq_of_mem_replicate hc]
  rfl

end AllDigits

theorem allDigits_decimalDigits (n : Nat) : AllDigits (decimalDigits n) :=
  fun _ hc => Nat.isDigit_of_mem_toDigits (by decide) (by decide) hc

theorem allDigits_paddedDecimal (width n : Nat) : AllDigits (paddedDecimal width n) :=
  (AllDigits.zeros _).append (allDigits_decimalDigits n)

theorem decimalDigits_ne_nil (n : Nat) : decimalDigits n ≠ [] := Nat.toDigits_ne_nil

theorem lt_pow_length_decimalDigits (n : Nat) : n < 10 ^ (decimalDigits n).length :=
  (Nat.length_toDigits_le_iff (by decide) Nat.length_toDigits_pos).mp le_rfl

theorem pow_length_decimalDigits_le {n : Nat} (hn : n ≠ 0) : 10 ^ ((decimalDigits n).length - 1) ≤ n := by
  by_contra hlt
  rcases Nat.eq_zero_or_pos ((decimalDigits n).length - 1) with hzero | hpos
  · rw [hzero, pow_zero] at hlt
    omega
  · have hle := (Nat.length_toDigits_le_iff (by decide) hpos).mpr (not_le.mp hlt)
    have hlength : 0 < (decimalDigits n).length := Nat.length_toDigits_pos
    unfold decimalDigits at hlength hle
    omega

/-! ## The number that digits stand for -/

theorem foldl_digits (cs : List Char) (n : Nat) :
    cs.foldl (fun n c => 10 * n + (digitValue? c).getD 0) n = n * 10 ^ cs.length + natOfDigits cs := by
  unfold natOfDigits
  induction cs generalizing n with
  | nil => simp only [List.foldl_nil, List.length_nil, pow_zero, mul_one, Nat.add_zero]
  | cons c cs ih =>
    rw [List.foldl_cons, List.foldl_cons, ih, ih (10 * 0 + _), List.length_cons]
    ring

theorem natOfDigits_append (cs ds : List Char) :
    natOfDigits (cs ++ ds) = natOfDigits cs * 10 ^ ds.length + natOfDigits ds := by
  rw [← foldl_digits ds (natOfDigits cs)]
  exact List.foldl_append

theorem natOfDigits_zeros (n : Nat) : natOfDigits (List.replicate n '0') = 0 := by
  induction n with
  | zero => rfl
  | succ n ih => exact ih

theorem digitValue?_of_isDigit {c : Char} (h : c.isDigit = true) : digitValue? c = some (c.toNat - '0'.toNat) := by
  unfold digitValue?
  rw [if_pos]
  simp only [Char.isDigit, Bool.and_eq_true, decide_eq_true_eq] at h
  exact h

/-- Digits are read as the library reads them. -/
theorem natOfDigits_eq_ofDigitChars {cs : List Char} (h : AllDigits cs) :
    natOfDigits cs = Nat.ofDigitChars 10 cs 0 := by
  have hfold (n : Nat) : cs.foldl (fun n c => 10 * n + (digitValue? c).getD 0) n = Nat.ofDigitChars 10 cs n := by
    induction cs generalizing n with
    | nil => rfl
    | cons c cs ih =>
      rw [List.foldl_cons, ih h.tail, Nat.ofDigitChars_cons, digitValue?_of_isDigit h.head, Option.getD_some]
  exact hfold 0

@[simp] theorem natOfDigits_decimalDigits (n : Nat) : natOfDigits (decimalDigits n) = n := by
  rw [natOfDigits_eq_ofDigitChars (allDigits_decimalDigits n)]
  exact Nat.ofDigitChars_toDigits (by decide) (by decide)

@[simp] theorem natOfDigits_paddedDecimal (width n : Nat) : natOfDigits (paddedDecimal width n) = n := by
  rw [paddedDecimal, padLeft, natOfDigits_append, natOfDigits_zeros, Nat.zero_mul, Nat.zero_add,
    natOfDigits_decimalDigits]

theorem length_paddedDecimal {width n : Nat} (hwidth : 0 < width) (h : n < 10 ^ width) :
    (paddedDecimal width n).length = width := by
  have hdigits : (decimalDigits n).length ≤ width := by
    by_cases hn : n = 0
    · subst hn
      exact hwidth
    · have hpow := (pow_length_decimalDigits_le hn).trans_lt h
      have hlt := (Nat.pow_lt_pow_iff_right (by decide)).mp hpow
      omega
  unfold paddedDecimal padLeft
  rw [List.length_append, List.length_replicate]
  omega

theorem paddedDecimal_inj {width n n' : Nat} (h : paddedDecimal width n = paddedDecimal width n') : n = n' := by
  have hvalue := congrArg natOfDigits h
  rwa [natOfDigits_paddedDecimal, natOfDigits_paddedDecimal] at hvalue

theorem paddedDecimal_ne_nil (width n : Nat) : paddedDecimal width n ≠ [] :=
  List.append_ne_nil_of_right_ne_nil _ (decimalDigits_ne_nil n)

/-- The zeros that are dropped at the end are so many powers of ten. -/
theorem exists_dropTrailingZeros (cs : List Char) :
    ∃ k, cs = dropTrailingZeros cs ++ List.replicate k '0' := by
  have hzeros : (cs.reverse.takeWhile (· == '0')).reverse =
      List.replicate (cs.reverse.takeWhile (· == '0')).reverse.length '0' := by
    refine List.eq_replicate_of_mem fun c hc => ?_
    exact beq_iff_eq.mp (List.all_eq_true.mp List.all_takeWhile c (List.mem_reverse.mp hc))
  refine ⟨(cs.reverse.takeWhile (· == '0')).reverse.length, ?_⟩
  rw [← hzeros, dropTrailingZeros, ← List.reverse_append, List.takeWhile_append_dropWhile, List.reverse_reverse]

/-! ## Numerals -/

/-- No digit comes next. -/
def EndsDigits (rest : List Char) : Prop := ∀ c ∈ rest.head?, c.isDigit = false

/-- Nothing that comes next could belong to a numeral. -/
def EndsNumeral (rest : List Char) : Prop :=
  ∀ c ∈ rest.head?, c.isDigit = false ∧ c ≠ '.' ∧ c ≠ 'e' ∧ c ≠ 'E'

theorem EndsNumeral.endsDigits {rest : List Char} (h : EndsNumeral rest) : EndsDigits rest := fun c hc => (h c hc).1

theorem endsDigits_cons {c : Char} {rest : List Char} (h : c.isDigit = false) : EndsDigits (c :: rest) := by
  intro d hd
  cases hd
  exact h

/-- The run of digits at the front. -/
theorem digitRun_append {ds rest : List Char} (after : Bool) (hds : AllDigits ds) (hrest : EndsDigits rest) :
    digitRun false after (ds ++ rest) = (ds, rest) := by
  induction ds generalizing after with
  | nil =>
    cases rest with
    | nil => rfl
    | cons c rest =>
      have hc : c.isDigit = false := hrest c rfl
      unfold digitRun
      split
      · next heq => cases heq
      · next heq =>
        cases heq
        rfl
      · next heq =>
        cases heq
        rw [hc]
        rfl
  | cons d ds ih =>
    have hd := hds.head
    rw [List.cons_append, digitRun]
    · rw [if_pos hd, ih true hds.tail]
    · -- the case of an underscore is none: it is no digit
      rintro c cs rfl
      exact absurd hd (by decide)

/-- A numeral as it is written: the digits before the point, those after it, and the sign and the digits of the
    exponent. -/
structure WrittenNumeral where
  whole : List Char
  fraction : Option (List Char) := none
  exponent : Option (Bool × List Char) := none

namespace WrittenNumeral

def fractionChars : Option (List Char) → List Char
  | none => []
  | some ds => '.' :: ds

def exponentChars : Option (Bool × List Char) → List Char
  | none => []
  | some (negative, ds) => 'e' :: (if negative then '-' else '+') :: ds

def chars (w : WrittenNumeral) : List Char := w.whole ++ fractionChars w.fraction ++ exponentChars w.exponent

/-- The number after the exponent mark. -/
def exponentValue : Bool × List Char → Int
  | (negative, ds) => if negative then -(natOfDigits ds : Int) else natOfDigits ds

def numeral (w : WrittenNumeral) : Numeral := ⟨w.whole, w.fraction, w.exponent.map exponentValue⟩

/-- Digits stand before the point and after the exponent mark, and nothing but digits stands anywhere else. -/
structure Proper (w : WrittenNumeral) : Prop where
  whole : AllDigits w.whole
  whole_ne_nil : w.whole ≠ []
  fraction : AllDigits (w.fraction.getD [])
  exponent : ∀ p ∈ w.exponent, AllDigits p.2 ∧ p.2 ≠ []

end WrittenNumeral

open WrittenNumeral

/-- After the mark the digits are read, with or without a sign. -/
theorem scanExponent_mark {body rest ds : List Char} {d : Char}
    (hrun : digitRun false false (splitSign body).2 = (d :: ds, rest)) :
    scanExponent false ('e' :: body) = (some (exponentValue ((splitSign body).1, d :: ds)), rest) := by
  unfold scanExponent
  dsimp only
  rw [if_pos (.inl rfl)]
  split
  · next heq => exact absurd (hrun.symm.trans heq) (by simp)
  · next heq =>
    cases hrun.symm.trans heq
    rfl

theorem scanExponent_chars {exponent : Option (Bool × List Char)} {rest : List Char}
    (h : ∀ p ∈ exponent, AllDigits p.2 ∧ p.2 ≠ []) (hrest : EndsNumeral rest) :
    scanExponent false (exponentChars exponent ++ rest) = (exponent.map exponentValue, rest) := by
  cases exponent with
  | none =>
    cases rest with
    | nil => rfl
    | cons c rest =>
      obtain ⟨-, -, hlower, hupper⟩ := hrest c rfl
      exact if_neg (not_or.mpr ⟨hlower, hupper⟩)
  | some p =>
    obtain ⟨negative, ds⟩ := p
    obtain ⟨hds, hne⟩ := h _ rfl
    have hrun : digitRun false false (ds ++ rest) = (ds, rest) := digitRun_append false hds hrest.endsDigits
    cases ds with
    | nil => exact absurd rfl hne
    | cons d ds =>
      have hmark (sign : Char) (hsign : (splitSign (sign :: (d :: ds ++ rest))).2 = d :: ds ++ rest) :
          scanExponent false ('e' :: sign :: (d :: ds ++ rest)) =
            (some (exponentValue ((splitSign (sign :: (d :: ds ++ rest))).1, d :: ds)), rest) :=
        scanExponent_mark (by rw [hsign, hrun])
      cases negative with
      | true => exact hmark '-' rfl
      | false => exact hmark '+' rfl

theorem endsDigits_exponentChars {exponent : Option (Bool × List Char)} {rest : List Char} (hrest : EndsNumeral rest) :
    EndsDigits (exponentChars exponent ++ rest) := by
  cases exponent with
  | none => exact hrest.endsDigits
  | some p => exact endsDigits_cons rfl

/-- **A written numeral** is taken from the front of a text, and nothing else is. -/
theorem scanNumeral?_chars {w : WrittenNumeral} {rest : List Char} (h : w.Proper) (hrest : EndsNumeral rest) :
    scanNumeral? false (w.chars ++ rest) = some (w.numeral, rest) := by
  obtain ⟨whole, fraction, exponent⟩ := w
  obtain ⟨hwhole, hne, hfraction, hexponent⟩ := h
  have hnotEmpty : whole.isEmpty = false := by
    rw [List.isEmpty_eq_false_iff]
    exact hne
  have hends : EndsDigits (exponentChars exponent ++ rest) := endsDigits_exponentChars hrest
  have hscan : scanExponent false (exponentChars exponent ++ rest) = (exponent.map exponentValue, rest) :=
    scanExponent_chars hexponent hrest
  simp only [WrittenNumeral.chars, WrittenNumeral.numeral, List.append_assoc]
  unfold scanNumeral?
  cases fraction with
  | some ds =>
    have hrun : digitRun false false (ds ++ (exponentChars exponent ++ rest)) = (ds, exponentChars exponent ++ rest) :=
      digitRun_append false hfraction hends
    have hpoint : EndsDigits (fractionChars (some ds) ++ (exponentChars exponent ++ rest)) := endsDigits_cons rfl
    rw [digitRun_append false hwhole hpoint]
    simp only [fractionChars, List.cons_append, hrun, hnotEmpty, Bool.false_and,
      Bool.false_eq_true, if_false, hscan]
  | none =>
    rw [fractionChars, List.nil_append, digitRun_append false hwhole hends]
    -- without a fraction an exponent or the rest follows, and neither begins with a point
    have hnoPoint : ∀ r, exponentChars exponent ++ rest ≠ '.' :: r := by
      rintro r hr
      cases exponent with
      | none => exact (hrest '.' (by rw [show rest = '.' :: r from hr]; rfl)).2.1 rfl
      | some p => cases hr
    dsimp only
    split
    · next hr => exact absurd hr (hnoPoint _)
    · simp only [hnotEmpty, Bool.false_and, Bool.false_eq_true, if_false, hscan]

end RenderBench
