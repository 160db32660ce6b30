import RenderBench.Json.Reader
import RenderBench.Json.Writer

/-!
# `Proofs.Json.Text` — texts in documents

A text is written in printable ASCII, every other character by its number, and is read back character by character.
A character beyond the first 65536 is written as two units, of which the first is kept until the second has been read.

## Contents
- `exists_hexDigits`: four hexadecimal digits.
- `IsPrintable`, `Printable`: printable characters.
- `jsonEscaped_cases`: the four ways to write a character.
- `readString?_jsonEscaped`, `readString?_escaped`: one character, and a whole text up to its closing quote.
- `printable_jsonString`: what a text is written in.
-/

namespace RenderBench

/-! ## Hexadecimal units -/

/-- The digits of a number, its last digit apart. -/
theorem hexDigits_succ {width n d : Nat} (hwidth : 0 < width) (hd : d < 16) :
    hexDigits (width + 1) (16 * n + d) = hexDigits width n ++ [d.digitChar] := by
  unfold hexDigits padLeft
  rcases Nat.eq_zero_or_pos n with rfl | hn
  · obtain ⟨k, rfl⟩ : ∃ k, width = k + 1 := ⟨width - 1, by omega⟩
    rw [Nat.mul_zero, Nat.zero_add, Nat.toDigits_of_lt_base hd, Nat.toDigits_of_lt_base (by decide)]
    simp only [List.length_singleton, Nat.add_sub_cancel]
    exact congrArg (· ++ [d.digitChar]) List.replicate_succ'
  · rw [← Nat.toDigits_append_toDigits (by decide) hn hd, Nat.toDigits_of_lt_base hd, List.length_append,
      List.length_singleton, Nat.add_sub_add_right, List.append_assoc]

/-- Four digits of a unit. -/
theorem hexDigits_four {n : Nat} (hn : n < 0x10000) :
    hexDigits 4 n = [(n / 4096).digitChar, (n / 256 % 16).digitChar, (n / 16 % 16).digitChar, (n % 16).digitChar] := by
  have hsplit : n = 16 * (16 * (16 * (n / 4096) + n / 256 % 16) + n / 16 % 16) + n % 16 := by omega
  have hone : hexDigits 1 (n / 4096) = [(n / 4096).digitChar] := by
    unfold hexDigits
    rw [Nat.toDigits_of_lt_base (by omega)]
    rfl
  have hlast {k : Nat} : k % 16 < 16 := Nat.mod_lt k (by decide)
  calc hexDigits 4 n = hexDigits 4 (16 * (16 * (16 * (n / 4096) + n / 256 % 16) + n / 16 % 16) + n % 16) :=
        congrArg (hexDigits 4) hsplit
    _ = _ := by
      rw [hexDigits_succ (by decide) hlast, hexDigits_succ (by decide) hlast, hexDigits_succ (by decide) hlast, hone]
      rfl

theorem hexValue?_digitChar : ∀ d < 16, hexValue? d.digitChar = some d := by decide

/-- The number of a unit is read from its digits. -/
theorem exists_hexDigits {n : Nat} (hn : n < 0x10000) :
    ∃ a b c d, hexDigits 4 n = [a, b, c, d] ∧ hexUnit? a b c d = some n := by
  refine ⟨_, _, _, _, hexDigits_four hn, ?_⟩
  unfold hexUnit?
  rw [hexValue?_digitChar _ (by omega), hexValue?_digitChar _ (by omega), hexValue?_digitChar _ (by omega),
    hexValue?_digitChar _ (by omega)]
  have hsplit : ((n / 4096 * 16 + n / 256 % 16) * 16 + n / 16 % 16) * 16 + n % 16 = n := by omega
  exact congrArg some hsplit

/-! ## Printable characters -/

/-- The printable characters of ASCII, from the blank to the tilde. -/
def IsPrintable (c : Char) : Prop := ' ' ≤ c ∧ c ≤ '~'

instance (c : Char) : Decidable (IsPrintable c) := inferInstanceAs (Decidable (_ ∧ _))

/-- Nothing but printable ASCII. -/
def Printable (cs : List Char) : Prop := ∀ c ∈ cs, IsPrintable c

namespace Printable

variable {c : Char} {cs ds : List Char}

theorem nil : Printable [] := fun _ h => absurd h List.not_mem_nil

theorem cons (hc : IsPrintable c) (hcs : Printable cs) : Printable (c :: cs) := by
  intro d hd
  rcases List.mem_cons.mp hd with rfl | hd
  · exact hc
  · exact hcs d hd

theorem append (hcs : Printable cs) (hds : Printable ds) : Printable (cs ++ ds) := by
  intro c hc
  exact (List.mem_append.mp hc).elim (hcs c) (hds c)

/-- Whether all characters are printable is decided by looking at them. -/
theorem of_all (h : cs.all (fun c => decide (IsPrintable c)) = true) : Printable cs :=
  fun c hc => of_decide_eq_true (List.all_eq_true.mp h c hc)

theorem flatMap {α : Type} {as : List α} {f : α → List Char} (h : ∀ a ∈ as, Printable (f a)) :
    Printable (as.flatMap f) := by
  intro c hc
  obtain ⟨a, ha, hca⟩ := List.mem_flatMap.mp hc
  exact h a ha c hca

end Printable

/-! ## Characters -/

/-- A character put in front of what is read of a text. -/
def putFront (c : Char) (r : Option (List Char × List Char)) : Option (List Char × List Char) :=
  r.map fun (cs, rest) => (c :: cs, rest)

/-- The units that stand for no character by themselves. -/
def IsSurrogate (n : Nat) : Prop := 0xd800 ≤ n ∧ n < 0xe000

theorem not_isSurrogate (c : Char) : ¬ IsSurrogate c.toNat := by
  rintro ⟨hlow, hhigh⟩
  have hvalid : c.toNat < 0xd800 ∨ 0xdfff < c.toNat ∧ c.toNat < 0x110000 := c.valid
  omega

theorem readString?_unit {n : Nat} (hn : n < 0x10000) (hplain : ¬ IsSurrogate n) (rest : List Char) :
    readString? none (unitEscape n ++ rest) = putFront (Char.ofNat n) (readString? none rest) := by
  obtain ⟨a, b, c, d, hdigits, hunit⟩ := exists_hexDigits hn
  have hlow : ¬ (0xd800 ≤ n ∧ n < 0xdc00) := fun h => hplain ⟨h.1, by omega⟩
  rw [unitEscape, hdigits]
  exact (readString?.eq_5 a b c d rest n hunit).trans (if_neg hlow)

/-- The two units of a character are joined. -/
theorem readString?_pair {n : Nat} (hn : n < 0x100000) (rest : List Char) :
    readString? none (unitEscape (0xd800 + n / 1024) ++ (unitEscape (0xdc00 + n % 1024) ++ rest)) =
      putFront (Char.ofNat (0x10000 + n)) (readString? none rest) := by
  obtain ⟨a, b, c, d, hdigits, hunit⟩ := exists_hexDigits (n := 0xd800 + n / 1024) (by omega)
  obtain ⟨a', b', c', d', hdigits', hunit'⟩ := exists_hexDigits (n := 0xdc00 + n % 1024) (by omega)
  have hjoined : 0x10000 + (0xd800 + n / 1024 - 0xd800) * 1024 + (0xdc00 + n % 1024 - 0xdc00) = 0x10000 + n := by
    omega
  have hhigh : 0xd800 ≤ 0xd800 + n / 1024 ∧ 0xd800 + n / 1024 < 0xdc00 := by omega
  have hlow : 0xdc00 ≤ 0xdc00 + n % 1024 ∧ 0xdc00 + n % 1024 < 0xe000 := by omega
  rw [unitEscape, unitEscape, hdigits, hdigits']
  have hfirst := (readString?.eq_5 a b c d ('\\' :: 'u' :: a' :: b' :: c' :: d' :: rest) _ hunit).trans (if_pos hhigh)
  have hsecond := (readString?.eq_4 a' b' c' d' rest _ (0xd800 + n / 1024) hunit').trans (if_pos hlow)
  rw [hjoined] at hsecond
  exact hfirst.trans hsecond

/-- A letter after the backslash. -/
theorem readString?_simple {letter c : Char} (h : simpleEscape? letter = some c) (rest : List Char) :
    readString? none ('\\' :: letter :: rest) = putFront c (readString? none rest) := by
  have hne : letter ≠ 'u' := by
    rintro rfl
    cases h
  rw [readString?]
  · rw [h]
    rfl
  · intro a b c d r hletter
    exact absurd hletter hne

theorem readString?_plain {c : Char} (hquote : c ≠ '"') (hback : c ≠ '\\') (hprintable : ¬ c < ' ') (rest : List Char) :
    readString? none (c :: rest) = putFront c (readString? none rest) := by
  have hfree : ¬ ((none : Option Nat).isSome = true ∨ c = '\\' ∨ c < ' ') := by
    rintro (h | h | h)
    · cases h
    · exact hback h
    · exact hprintable h
  rw [readString?]
  · rw [if_neg hfree]
    rfl
  · intro h
    exact hquote h
  · intro a b c' d r h
    exact absurd h hback
  · intro c' r h
    exact absurd h hback

/-- A character is written as a letter after a backslash, as itself, as a unit or as a pair of units. -/
theorem jsonEscaped_cases (c : Char) :
    (∃ letter, IsPrintable letter ∧ simpleEscape? letter = some c ∧ jsonEscaped c = ['\\', letter]) ∨
      (c ≠ '"' ∧ c ≠ '\\' ∧ IsPrintable c ∧ jsonEscaped c = [c]) ∨
      (c.toNat < 0x10000 ∧ jsonEscaped c = unitEscape c.toNat) ∨
      ∃ n < 0x100000, c.toNat = 0x10000 + n ∧
        jsonEscaped c = unitEscape (0xd800 + n / 1024) ++ unitEscape (0xdc00 + n % 1024) := by
  unfold jsonEscaped
  by_cases hquote : c = '"'
  · exact .inl ⟨'"', by decide, congrArg some hquote.symm, if_pos hquote⟩
  rw [if_neg hquote]
  by_cases hback : c = '\\'
  · exact .inl ⟨'\\', by decide, congrArg some hback.symm, if_pos hback⟩
  rw [if_neg hback]
  by_cases hline : c = '\n'
  · exact .inl ⟨'n', by decide, congrArg some hline.symm, if_pos hline⟩
  rw [if_neg hline]
  by_cases hreturn : c = '\r'
  · exact .inl ⟨'r', by decide, congrArg some hreturn.symm, if_pos hreturn⟩
  rw [if_neg hreturn]
  by_cases htab : c = '\t'
  · exact .inl ⟨'t', by decide, congrArg some htab.symm, if_pos htab⟩
  rw [if_neg htab]
  by_cases hfeed : c.toNat = 0x0c
  · have hc : Char.ofNat 0x0c = c := by rw [← hfeed, Char.ofNat_toNat]
    exact .inl ⟨'f', by decide, congrArg some hc, if_pos hfeed⟩
  rw [if_neg hfeed]
  by_cases hbackspace : c.toNat = 0x08
  · have hc : Char.ofNat 0x08 = c := by rw [← hbackspace, Char.ofNat_toNat]
    exact .inl ⟨'b', by decide, congrArg some hc, if_pos hbackspace⟩
  rw [if_neg hbackspace]
  by_cases hprintable : ' ' ≤ c ∧ c ≤ '~'
  · exact .inr (.inl ⟨hquote, hback, hprintable, if_pos hprintable⟩)
  rw [if_neg hprintable]
  by_cases hunit : c.toNat < 0x10000
  · exact .inr (.inr (.inl ⟨hunit, if_pos hunit⟩))
  rw [if_neg hunit]
  -- what is left is beyond the units, and is written as a pair of them
  have hvalid : c.toNat < 0xd800 ∨ 0xdfff < c.toNat ∧ c.toNat < 0x110000 := c.valid
  exact .inr (.inr (.inr ⟨c.toNat - 0x10000, by omega, by omega, rfl⟩))

/-- **A character** is read from what it is written as. -/
theorem readString?_jsonEscaped (c : Char) (rest : List Char) :
    readString? none (jsonEscaped c ++ rest) = putFront c (readString? none rest) := by
  rcases jsonEscaped_cases c with ⟨letter, -, hletter, hc⟩ | ⟨hquote, hback, hprintable, hc⟩ | ⟨hunit, hc⟩ |
    ⟨n, hn, hnumber, hc⟩
  · rw [hc]
    exact readString?_simple hletter rest
  · rw [hc]
    exact readString?_plain hquote hback (Char.not_lt.mpr hprintable.1) rest
  · rw [hc, readString?_unit hunit (not_isSurrogate c), Char.ofNat_toNat]
  · rw [hc, List.append_assoc, readString?_pair hn, ← hnumber, Char.ofNat_toNat]

/-- **A text** is read up to its closing quote. -/
theorem readString?_escaped (cs rest : List Char) :
    readString? none (cs.flatMap jsonEscaped ++ '"' :: rest) = some (cs, rest) := by
  induction cs with
  | nil => rfl
  | cons c cs ih =>
    rw [List.flatMap_cons, List.append_assoc, readString?_jsonEscaped, ih]
    rfl

/-! ## What a text is written in -/

theorem printable_unitEscape {n : Nat} (hn : n < 0x10000) : Printable (unitEscape n) := by
  have hdigit : ∀ d < 16, IsPrintable d.digitChar := by decide
  rw [unitEscape, hexDigits_four hn]
  refine .cons (by decide) (.cons (by decide) ?_)
  exact .cons (hdigit _ (by omega)) (.cons (hdigit _ (by omega)) (.cons (hdigit _ (by omega))
    (.cons (hdigit _ (by omega)) .nil)))

theorem printable_jsonEscaped (c : Char) : Printable (jsonEscaped c) := by
  rcases jsonEscaped_cases c with ⟨letter, hletter, -, hc⟩ | ⟨-, -, hprintable, hc⟩ | ⟨hunit, hc⟩ | ⟨n, hn, -, hc⟩
  · rw [hc]
    exact .cons (by decide) (.cons hletter .nil)
  · rw [hc]
    exact .cons hprintable .nil
  · rw [hc]
    exact printable_unitEscape hunit
  · rw [hc]
    exact (printable_unitEscape (by omega)).append (printable_unitEscape (by omega))

theorem printable_jsonString (s : String) : Printable (jsonString s) :=
  .cons (by decide) ((Printable.flatMap fun c _ => printable_jsonEscaped c).append (.cons (by decide) .nil))

end RenderBench
