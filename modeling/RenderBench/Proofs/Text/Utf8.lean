import Mathlib.Tactic.SplitIfs
import RenderBench.Proofs.Stepwise
import RenderBench.Text.Utf8
import RenderBench.Text.Utf8Encode

/-!
# `Proofs.Text.Utf8` — reading what was encoded

The bytes of a text are read back as the text, whatever its characters are, and no other bytes are. The
reader takes the bytes of one character at a time, so this is shown for one character before any other bytes.

## Contents
- `byte_lt_iff`, `isContinuation_continuationByte`, `secondFits_…`: the reader's tests on the bytes of a
  character.
- `decodeUtf8From_encodeChar`: one character.
- `decodeUtf8_encodeUtf8`: a text.
- `encodeUtf8_of_decodeUtf8`: only the bytes of a text are read as it.
-/

namespace RenderBench

/-! ## Bytes -/

theorem toNat_byte {n : Nat} (h : n < 256) : (UInt8.ofNat n).toNat = n := by
  rw [UInt8.toNat_ofNat']
  exact Nat.mod_eq_of_lt h

theorem byte_lt_iff {n : Nat} (h : n < 256) (b : UInt8) : UInt8.ofNat n < b ↔ n < b.toNat := by
  rw [UInt8.lt_iff_toNat_lt, toNat_byte h]

theorem byte_eq_iff {n : Nat} (h : n < 256) (b : UInt8) : UInt8.ofNat n = b ↔ n = b.toNat := by
  rw [← UInt8.toNat_inj, toNat_byte h]

theorem toNat_continuationByte (n : Nat) : (continuationByte n).toNat = 0x80 + n % 64 := by
  rw [continuationByte]
  exact toNat_byte (by omega)

theorem isContinuation_continuationByte (n : Nat) : isContinuation (continuationByte n) = true := by
  have hn := toNat_continuationByte n
  simp only [isContinuation, Bool.and_eq_true, decide_eq_true_eq, UInt8.le_iff_toNat_le,
    UInt8.lt_iff_toNat_lt, hn]
  constructor
  · exact Nat.le_add_right _ _
  · show 0x80 + n % 64 < 0xc0
    omega

/-- The second of three bytes: no shorter form, and no surrogate. -/
theorem secondFits_three {n : Nat} (hlow : 0x800 ≤ n) (hvalid : n < 0xd800 ∨ 0xdfff < n ∧ n < 0x10000) :
    secondFits (UInt8.ofNat (0xe0 + n / 4096)) (continuationByte (n / 64)) = true := by
  have hn := toNat_continuationByte (n / 64)
  have hb : 0xe0 + n / 4096 < 256 := by omega
  rw [secondFits, isContinuation_continuationByte, Bool.true_and]
  simp only [beq_iff_eq, byte_eq_iff hb, UInt8.le_iff_toNat_le, UInt8.lt_iff_toNat_lt, hn,
    UInt8.reduceToNat]
  -- only after the first lead byte and the one of the surrogates are some second bytes refused
  split_ifs <;> simp only [decide_eq_true_eq] <;> omega

/-- The second of four bytes: no shorter form, and nothing beyond the last character. -/
theorem secondFits_four {n : Nat} (hlow : 0x10000 ≤ n) (hvalid : n < 0x110000) :
    secondFits (UInt8.ofNat (0xf0 + n / 262144)) (continuationByte (n / 4096)) = true := by
  have hn := toNat_continuationByte (n / 4096)
  have hb : 0xf0 + n / 262144 < 256 := by omega
  rw [secondFits, isContinuation_continuationByte, Bool.true_and]
  simp only [beq_iff_eq, byte_eq_iff hb, UInt8.le_iff_toNat_le, UInt8.lt_iff_toNat_lt, hn,
    UInt8.reduceToNat]
  split_ifs <;> simp only [decide_eq_true_eq] <;> omega

/-! ## Characters -/

/-- A character's number is no surrogate and below the number of all characters. -/
theorem toNat_valid (c : Char) : c.toNat < 0xd800 ∨ 0xdfff < c.toNat ∧ c.toNat < 0x110000 := c.valid

variable {c : Char}

theorem assembled_two (h : c.toNat < 0x800) :
    assembled ((0xc0 + c.toNat / 64) % 32) [continuationByte c.toNat] = c := by
  rw [assembled, List.foldl_cons, List.foldl_nil, toNat_continuationByte]
  have hn : (0xc0 + c.toNat / 64) % 32 * 64 + (0x80 + c.toNat % 64) % 64 = c.toNat := by omega
  rw [hn, Char.ofNat_toNat]

theorem assembled_three (h : c.toNat < 0x10000) :
    assembled ((0xe0 + c.toNat / 4096) % 16) [continuationByte (c.toNat / 64),
      continuationByte c.toNat] = c := by
  simp only [assembled, List.foldl_cons, List.foldl_nil, toNat_continuationByte]
  have hn : ((0xe0 + c.toNat / 4096) % 16 * 64 + (0x80 + c.toNat / 64 % 64) % 64) * 64 +
      (0x80 + c.toNat % 64) % 64 = c.toNat := by omega
  rw [hn, Char.ofNat_toNat]

theorem assembled_four (h : c.toNat < 0x110000) :
    assembled ((0xf0 + c.toNat / 262144) % 8) [continuationByte (c.toNat / 4096),
      continuationByte (c.toNat / 64), continuationByte c.toNat] = c := by
  simp only [assembled, List.foldl_cons, List.foldl_nil, toNat_continuationByte]
  have hn : (((0xf0 + c.toNat / 262144) % 8 * 64 + (0x80 + c.toNat / 4096 % 64) % 64) * 64 +
      (0x80 + c.toNat / 64 % 64) % 64) * 64 + (0x80 + c.toNat % 64) % 64 = c.toNat := by omega
  rw [hn, Char.ofNat_toNat]

/-- **A character is read from its bytes**, and the reader goes on after them. -/
theorem decodeUtf8From_encodeChar (c : Char) (position : Nat) (rest : List UInt8) :
    decodeUtf8From position (encodeChar c ++ rest) =
      (decodeUtf8From (position + (encodeChar c).length) rest).map (c :: ·) := by
  have hvalid := toNat_valid c
  rw [encodeChar]
  by_cases h1 : c.toNat < 0x80
  · -- one byte
    have hb : c.toNat < 256 := by omega
    simp only [h1, if_true, List.cons_append, List.nil_append, List.length_singleton]
    rw [decodeUtf8From.eq_def]
    simp only [h1, if_true, byte_lt_iff hb, UInt8.reduceToNat, toNat_byte hb, Char.ofNat_toNat]
  by_cases h2 : c.toNat < 0x800
  · -- two bytes
    have hb : 0xc0 + c.toNat / 64 < 256 := by omega
    have hlead : ¬0xc0 + c.toNat / 64 < 0x80 ∧ ¬0xc0 + c.toNat / 64 < 0xc2 ∧
        0xc0 + c.toNat / 64 < 0xe0 := by omega
    simp only [h1, h2, if_true, if_false, List.cons_append, List.nil_append, List.length_cons,
      List.length_nil, Nat.zero_add, Nat.reduceAdd]
    rw [decodeUtf8From.eq_def]
    simp only [if_true, if_false, byte_lt_iff hb, UInt8.reduceToNat, toNat_byte hb, hlead,
      isContinuation_continuationByte, Bool.not_true, Bool.false_eq_true, assembled_two h2]
  by_cases h3 : c.toNat < 0x10000
  · -- three bytes
    have hb : 0xe0 + c.toNat / 4096 < 256 := by omega
    have hlead : ¬0xe0 + c.toNat / 4096 < 0x80 ∧ ¬0xe0 + c.toNat / 4096 < 0xc2 ∧
        ¬0xe0 + c.toNat / 4096 < 0xe0 ∧ 0xe0 + c.toNat / 4096 < 0xf0 := by omega
    have hsecond := secondFits_three (n := c.toNat) (by omega) (by omega)
    simp only [h1, h2, h3, if_true, if_false, List.cons_append, List.nil_append, List.length_cons,
      List.length_nil, Nat.zero_add, Nat.reduceAdd]
    rw [decodeUtf8From.eq_def]
    simp only [if_true, if_false, byte_lt_iff hb, UInt8.reduceToNat, toNat_byte hb, hlead, hsecond,
      isContinuation_continuationByte, Bool.not_true, Bool.false_eq_true, assembled_three h3]
  · -- four bytes
    have hb : 0xf0 + c.toNat / 262144 < 256 := by omega
    have hlead : ¬0xf0 + c.toNat / 262144 < 0x80 ∧ ¬0xf0 + c.toNat / 262144 < 0xc2 ∧
        ¬0xf0 + c.toNat / 262144 < 0xe0 ∧ ¬0xf0 + c.toNat / 262144 < 0xf0 ∧
        0xf0 + c.toNat / 262144 < 0xf5 := by omega
    have hsecond := secondFits_four (n := c.toNat) (by omega) (by omega)
    simp only [h1, h2, h3, if_false, List.cons_append, List.nil_append, List.length_cons,
      List.length_nil, Nat.zero_add, Nat.reduceAdd]
    rw [decodeUtf8From.eq_def]
    simp only [if_true, if_false, byte_lt_iff hb, UInt8.reduceToNat, toNat_byte hb, hlead, hsecond,
      isContinuation_continuationByte, Bool.not_true, Bool.false_eq_true,
      assembled_four (by omega : c.toNat < 0x110000)]

/-! ## Texts -/

theorem decodeUtf8From_encodeUtf8 (cs : List Char) :
    ∀ position, decodeUtf8From position (encodeUtf8 cs) = .ok cs := by
  induction cs with
  | nil => exact fun _ => rfl
  | cons c cs ih =>
    intro position
    have hcons : encodeUtf8 (c :: cs) = encodeChar c ++ encodeUtf8 cs := List.flatMap_cons
    rw [hcons, decodeUtf8From_encodeChar, ih]
    rfl

/-- **A text is read from its bytes.** -/
theorem decodeUtf8_encodeUtf8 (cs : List Char) : decodeUtf8 (encodeUtf8 cs) = .ok cs :=
  decodeUtf8From_encodeUtf8 cs 0

/-! ## What is read is encoded -/

theorem toNat_ofNat {n : Nat} (h : n < 0xd800 ∨ 0xdfff < n ∧ n < 0x110000) : (Char.ofNat n).toNat = n := by
  have hvalid : n.isValidChar := h
  rw [Char.ofNat, dif_pos hvalid]
  rfl

/-- A byte is the one of its number. -/
theorem ofNat_eq_byte {n : Nat} {b : UInt8} (h : n = b.toNat) : UInt8.ofNat n = b := by
  rw [h, UInt8.ofNat_toNat]

theorem continuation_bounds {b : UInt8} (h : isContinuation b = true) : 0x80 ≤ b.toNat ∧ b.toNat < 0xc0 := by
  simp only [isContinuation, Bool.and_eq_true, decide_eq_true_eq, UInt8.le_iff_toNat_le,
    UInt8.lt_iff_toNat_lt, UInt8.reduceToNat] at h
  exact h

theorem encodeChar_one {a : UInt8} (ha : a.toNat < 0x80) : encodeChar (Char.ofNat a.toNat) = [a] := by
  have hn := toNat_ofNat (n := a.toNat) (by omega)
  rw [encodeChar, hn]
  simp only [ha, if_true, UInt8.ofNat_toNat]

theorem continuationByte_eq {n : Nat} {b : UInt8} (hb : isContinuation b = true) (h : n % 64 = b.toNat % 64) :
    continuationByte n = b := by
  obtain ⟨hlow, hhigh⟩ := continuation_bounds hb
  exact ofNat_eq_byte (by omega)

theorem encodeChar_two {a b : UInt8} (ha : 0xc2 ≤ a.toNat ∧ a.toNat < 0xe0) (hb : isContinuation b = true) :
    encodeChar (assembled (a.toNat % 32) [b]) = [a, b] := by
  obtain ⟨hlow, hhigh⟩ := continuation_bounds hb
  have hn := toNat_ofNat (n := a.toNat % 32 * 64 + b.toNat % 64) (by omega)
  rw [encodeChar, assembled, List.foldl_cons, List.foldl_nil, hn]
  have h1 : ¬a.toNat % 32 * 64 + b.toNat % 64 < 0x80 := by omega
  have h2 : a.toNat % 32 * 64 + b.toNat % 64 < 0x800 := by omega
  simp only [h1, h2, if_true, if_false]
  rw [continuationByte_eq hb (by omega), ofNat_eq_byte (b := a) (by omega)]

theorem secondFits_bounds {a b : UInt8} (h : secondFits a b = true) : isContinuation b = true ∧
    (a.toNat = 0xe0 → 0xa0 ≤ b.toNat) ∧ (a.toNat = 0xed → b.toNat < 0xa0) ∧
      (a.toNat = 0xf0 → 0x90 ≤ b.toNat) ∧ (a.toNat = 0xf4 → b.toNat < 0x90) := by
  rw [secondFits, Bool.and_eq_true] at h
  refine ⟨h.1, ?_⟩
  have hrest := h.2
  simp only [beq_iff_eq, ← UInt8.toNat_inj, UInt8.reduceToNat] at hrest
  split_ifs at hrest <;> simp only [decide_eq_true_eq, UInt8.le_iff_toNat_le, UInt8.lt_iff_toNat_lt,
    UInt8.reduceToNat] at hrest <;> omega

theorem encodeChar_three {a b c : UInt8} (ha : 0xe0 ≤ a.toNat ∧ a.toNat < 0xf0) (hb : secondFits a b = true)
    (hc : isContinuation c = true) : encodeChar (assembled (a.toNat % 16) [b, c]) = [a, b, c] := by
  obtain ⟨hbc, hfirst, hsurrogate, -⟩ := secondFits_bounds hb
  obtain ⟨hblow, hbhigh⟩ := continuation_bounds hbc
  obtain ⟨hclow, hchigh⟩ := continuation_bounds hc
  have hn := toNat_ofNat (n := (a.toNat % 16 * 64 + b.toNat % 64) * 64 + c.toNat % 64) (by omega)
  rw [encodeChar, assembled, List.foldl_cons, List.foldl_cons, List.foldl_nil, hn]
  have h1 : ¬(a.toNat % 16 * 64 + b.toNat % 64) * 64 + c.toNat % 64 < 0x80 := by omega
  have h2 : ¬(a.toNat % 16 * 64 + b.toNat % 64) * 64 + c.toNat % 64 < 0x800 := by omega
  have h3 : (a.toNat % 16 * 64 + b.toNat % 64) * 64 + c.toNat % 64 < 0x10000 := by omega
  simp only [h1, h2, h3, if_true, if_false]
  rw [continuationByte_eq hbc (by omega), continuationByte_eq hc (by omega), ofNat_eq_byte (b := a) (by omega)]

theorem encodeChar_four {a b c d : UInt8} (ha : 0xf0 ≤ a.toNat ∧ a.toNat < 0xf5) (hb : secondFits a b = true)
    (hc : isContinuation c = true) (hd : isContinuation d = true) :
    encodeChar (assembled (a.toNat % 8) [b, c, d]) = [a, b, c, d] := by
  obtain ⟨hbc, -, -, hfirst, hlast⟩ := secondFits_bounds hb
  obtain ⟨hblow, hbhigh⟩ := continuation_bounds hbc
  obtain ⟨hclow, hchigh⟩ := continuation_bounds hc
  obtain ⟨hdlow, hdhigh⟩ := continuation_bounds hd
  have hn := toNat_ofNat
    (n := ((a.toNat % 8 * 64 + b.toNat % 64) * 64 + c.toNat % 64) * 64 + d.toNat % 64) (by omega)
  rw [encodeChar, assembled, List.foldl_cons, List.foldl_cons, List.foldl_cons, List.foldl_nil, hn]
  have h1 : ¬((a.toNat % 8 * 64 + b.toNat % 64) * 64 + c.toNat % 64) * 64 + d.toNat % 64 < 0x80 := by omega
  have h2 : ¬((a.toNat % 8 * 64 + b.toNat % 64) * 64 + c.toNat % 64) * 64 + d.toNat % 64 < 0x800 := by omega
  have h3 : ¬((a.toNat % 8 * 64 + b.toNat % 64) * 64 + c.toNat % 64) * 64 + d.toNat % 64 < 0x10000 := by omega
  simp only [h1, h2, h3, if_false]
  rw [continuationByte_eq hbc (by omega), continuationByte_eq hc (by omega), continuationByte_eq hd (by omega),
    ofNat_eq_byte (b := a) (by omega)]

/-- A character before what is read from the bytes after its own. -/
theorem encodeUtf8_of_map {c : Char} {first rest : List UInt8} {position : Nat} {cs : List Char}
    (hfirst : encodeChar c = first) (hrest : ∀ cs, decodeUtf8From position rest = .ok cs → encodeUtf8 cs = rest)
    (h : (decodeUtf8From position rest).map (c :: ·) = .ok cs) : encodeUtf8 cs = first ++ rest := by
  obtain ⟨cs', hcs', rfl⟩ := exists_of_map_ok h
  rw [encodeUtf8, List.flatMap_cons, hfirst, ← encodeUtf8, hrest cs' hcs']

/-- **Only the bytes of a text are read as it.** -/
theorem encodeUtf8_of_decodeUtf8From (position : Nat) (bytes : List UInt8) : ∀ cs,
    decodeUtf8From position bytes = .ok cs → encodeUtf8 cs = bytes := by
  fun_induction decodeUtf8From position bytes with
  | case1 position =>
    intro cs h
    cases h
    rfl
  | case2 position a rest ha ih =>
    exact fun cs h => encodeUtf8_of_map (encodeChar_one ha) ih h
  | case6 position a h1 h2 h3 b rest hb ih =>
    rw [Bool.not_eq_true', Bool.not_eq_false] at hb
    exact fun cs h => encodeUtf8_of_map (encodeChar_two ⟨Nat.not_lt.mp h2, h3⟩ hb) ih h
  | case11 position a h1 h2 h3 h4 b hb c rest hc ih =>
    rw [Bool.not_eq_true', Bool.not_eq_false] at hb hc
    exact fun cs h => encodeUtf8_of_map (encodeChar_three ⟨Nat.not_lt.mp h3, h4⟩ hb hc) ih h
  | case18 position a h1 h2 h3 h4 h5 b hb c hc d rest hd ih =>
    rw [Bool.not_eq_true', Bool.not_eq_false] at hb hc hd
    exact fun cs h => encodeUtf8_of_map (encodeChar_four ⟨Nat.not_lt.mp h4, h5⟩ hb hc hd) ih h
  | _ =>
    -- a fault is no text
    intro cs h
    cases h

theorem encodeUtf8_of_decodeUtf8 {bytes : List UInt8} {cs : List Char} (h : decodeUtf8 bytes = .ok cs) :
    encodeUtf8 cs = bytes :=
  encodeUtf8_of_decodeUtf8From 0 bytes cs h

end RenderBench
