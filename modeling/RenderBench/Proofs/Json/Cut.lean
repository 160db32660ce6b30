import RenderBench.Proofs.Json.Sorting
import RenderBench.Proofs.Number.Digits
import RenderBench.Text.Utf8Encode

/-!
# `Proofs.Json.Cut` — documents that are not written to the end

A document is written to the end if none of its integers has too many digits. Otherwise what is written is a proper
part of its text, from the start.

## Contents
- `AllShort`: documents without long integers; `cut?_eq_none_iff`.
- `allShort_sorted`: sorting makes no integer longer.
- `exists_rest_of_cut?`: what is written of the others.
- `isLong_of_lt`: integers that are short.
-/

namespace RenderBench

namespace Json

/-! ## Short integers -/

mutual

/-- No integer of a document has more digits than are converted. -/
def AllShort : Json → Prop
  | .list elements => AllShortElements elements
  | .object members => AllShortMembers members
  | j => j.isLong = false

def AllShortElements : List Json → Prop
  | [] => True
  | e :: es => AllShort e ∧ AllShortElements es

def AllShortMembers : List (String × Json) → Prop
  | [] => True
  | (_, v) :: ms => AllShort v ∧ AllShortMembers ms

end

theorem allShortMembers_iff {ms : List (String × Json)} : AllShortMembers ms ↔ ∀ n ∈ ms, n.2.AllShort := by
  induction ms with
  | nil => simp [AllShortMembers]
  | cons n ns ih =>
    obtain ⟨k, v⟩ := n
    simp [AllShortMembers, ih]

theorem allShortElements_ints {samples : List Int} (h : ∀ i ∈ samples, (Json.int i).isLong = false) :
    AllShortElements (samples.map .int) := by
  induction samples with
  | nil => trivial
  | cons i samples ih =>
    exact ⟨h i List.mem_cons_self, ih fun j hj => h j (List.mem_cons_of_mem i hj)⟩

theorem isLong_of_lt {i : Int} (h : i.natAbs < 10 ^ digitLimit) : (Json.int i).isLong = false := by
  have hlength : (decimalDigits i.natAbs).length ≤ digitLimit := by
    by_cases hzero : i.natAbs = 0
    · rw [hzero]
      decide
    · by_contra hlong
      have hpow := pow_length_decimalDigits_le hzero
      have hle : 10 ^ digitLimit ≤ 10 ^ ((decimalDigits i.natAbs).length - 1) :=
        Nat.pow_le_pow_right (by decide) (by omega)
      omega
  rw [isLong, decide_eq_false (by omega)]

mutual

/-- **A document is written to the end** exactly if all its integers are short. -/
theorem cut?_eq_none_iff {depth : Nat} (j : Json) : j.cut? depth = none ↔ j.AllShort := by
  cases j with
  | list es =>
    rw [cut?, AllShort]
    exact cutElements?_eq_none_iff es
  | object ms =>
    rw [cut?, AllShort]
    exact cutMembers?_eq_none_iff ms
  | null | bool b | int i | real x | text s => simp [cut?, AllShort]

theorem cutElements?_eq_none_iff {depth : Nat} {lead : List Char} (es : List Json) :
    cutElements? depth lead es = none ↔ AllShortElements es := by
  cases es with
  | nil => simp [cutElements?, AllShortElements]
  | cons e es =>
    have he : cut? depth e = none ↔ e.AllShort := cut?_eq_none_iff e
    have hes : cutElements? depth (',' :: newLine depth) es = none ↔ AllShortElements es :=
      cutElements?_eq_none_iff es
    rw [cutElements?, AllShortElements, ← he, ← hes]
    cases cut? depth e <;> simp

theorem cutMembers?_eq_none_iff {depth : Nat} {lead : List Char} (ms : List (String × Json)) :
    cutMembers? depth lead ms = none ↔ AllShortMembers ms := by
  cases ms with
  | nil => simp [cutMembers?, AllShortMembers]
  | cons m ms =>
    obtain ⟨k, v⟩ := m
    have hv : cut? depth v = none ↔ v.AllShort := cut?_eq_none_iff v
    have hms : cutMembers? depth (',' :: newLine depth) ms = none ↔ AllShortMembers ms :=
      cutMembers?_eq_none_iff ms
    rw [cutMembers?, AllShortMembers, ← hv, ← hms]
    cases cut? depth v <;> simp

end

/-! ## Sorting -/

mutual

theorem allShort_sorted {j : Json} (h : j.AllShort) : j.sorted.AllShort := by
  cases j with
  | list es => exact allShortElements_sorted h
  | object ms => exact allShortMembers_sorted h
  | null | bool b | int i | real x | text s => exact h

theorem allShortElements_sorted {es : List Json} (h : AllShortElements es) : AllShortElements (sortedElements es) := by
  cases es with
  | nil => trivial
  | cons e es => exact ⟨allShort_sorted h.1, allShortElements_sorted h.2⟩

theorem allShortMembers_sorted {ms : List (String × Json)} (h : AllShortMembers ms) :
    AllShortMembers (sortedMembers ms) := by
  cases ms with
  | nil => trivial
  | cons m ms =>
    obtain ⟨k, v⟩ := m
    -- the member is put among the others, which are short as well
    rw [sortedMembers, allShortMembers_iff]
    intro n hn
    rcases List.mem_cons.mp ((insertMember_perm (k, v.sorted) (sortedMembers ms)).mem_iff.mp hn) with rfl | hn
    · exact allShort_sorted h.1
    · exact allShortMembers_iff.mp (allShortMembers_sorted h.2) n hn

end

/-! ## What is written of a document -/

/-- An element that is written with what follows it. -/
theorem exists_indentedElements (depth : Nat) (e : Json) (es : List Json) :
    ∃ tail, indentedElements depth (e :: es) = newLine depth ++ indentedChars depth e ++ tail ∧
      (es ≠ [] → tail = ',' :: indentedElements depth es) := by
  cases es with
  | nil => exact ⟨newLine (depth - 1) ++ [']'], by simp only [indentedElements, List.append_assoc], fun h => absurd rfl h⟩
  | cons e' es => exact ⟨_, by rw [indentedElements]; exact List.cons_ne_nil _ _, fun _ => rfl⟩

theorem exists_indentedMembers (depth : Nat) (k : String) (v : Json) (ms : List (String × Json)) :
    ∃ tail, indentedMembers depth ((k, v) :: ms) =
        newLine depth ++ jsonString k ++ ':' :: ' ' :: indentedChars depth v ++ tail ∧
      (ms ≠ [] → tail = ',' :: indentedMembers depth ms) := by
  cases ms with
  | nil => exact ⟨newLine (depth - 1) ++ ['\x7d'], by simp only [indentedMembers, List.append_assoc], fun h => absurd rfl h⟩
  | cons m ms => exact ⟨_, by rw [indentedMembers]; exact List.cons_ne_nil _ _, fun _ => rfl⟩

theorem indentedChars_ne_nil_of_isLong {depth : Nat} {j : Json} (h : j.isLong = true) : j.indentedChars depth ≠ [] := by
  cases j with
  | int i =>
    rw [indentedChars, decimalInt]
    split
    · exact List.cons_ne_nil _ _
    · exact decimalDigits_ne_nil _
  | null | bool b | real x | text s | list es | object ms => cases h

mutual

/-- **What is written of a document that is not written to the end** is a proper part of its text, from the start. -/
theorem exists_rest_of_cut? {depth : Nat} {j : Json} {cut : List Char} (h : j.cut? depth = some cut) :
    ∃ rest, rest ≠ [] ∧ j.indentedChars depth = cut ++ rest := by
  cases j with
  | list es =>
    rw [cut?] at h
    cases es with
    | nil => cases h
    | cons e es =>
      obtain ⟨rest, hrest, hchars⟩ := exists_rest_of_cutElements? '[' h
      exact ⟨rest, hrest, by rw [indentedChars, hchars]; exact nofun⟩
  | object ms =>
    rw [cut?] at h
    cases ms with
    | nil => cases h
    | cons m ms =>
      obtain ⟨rest, hrest, hchars⟩ := exists_rest_of_cutMembers? '\x7b' h
      exact ⟨rest, hrest, by rw [indentedChars, hchars]; exact nofun⟩
  | int i =>
    have hcut : (if (Json.int i).isLong then some [] else none) = some cut := h
    split at hcut
    · next hlong =>
      obtain rfl := Option.some.inj hcut
      exact ⟨indentedChars depth (.int i), indentedChars_ne_nil_of_isLong hlong, rfl⟩
    · cases hcut
  | null | bool b | real x | text s => cases h

theorem exists_rest_of_cutElements? {depth : Nat} {es : List Json} {cut : List Char} (opening : Char)
    (h : cutElements? depth (opening :: newLine depth) es = some cut) :
    ∃ rest, rest ≠ [] ∧ opening :: indentedElements depth es = cut ++ rest := by
  cases es with
  | nil => cases h
  | cons e es =>
    obtain ⟨tail, htext, htail⟩ := exists_indentedElements depth e es
    rw [cutElements?] at h
    cases he : cut? depth e with
    | some inner =>
      -- the integer is this element, or it stands inside of it
      simp only [he] at h
      obtain rfl := Option.some.inj h
      obtain ⟨rest, hrest, hchars⟩ := exists_rest_of_cut? he
      split
      · exact ⟨_, List.cons_ne_nil _ _, rfl⟩
      · refine ⟨rest ++ tail, List.append_ne_nil_of_left_ne_nil hrest _, ?_⟩
        rw [htext, hchars]
        simp only [List.cons_append, List.append_assoc]
    | none =>
      simp only [he] at h
      obtain ⟨later, hlater, rfl⟩ := Option.map_eq_some_iff.mp h
      obtain ⟨rest, hrest, hchars⟩ := exists_rest_of_cutElements? ',' hlater
      have hne : es ≠ [] := by
        rintro rfl
        cases hlater
      refine ⟨rest, hrest, ?_⟩
      rw [htext, htail hne, hchars]
      simp only [List.cons_append, List.append_assoc]

theorem exists_rest_of_cutMembers? {depth : Nat} {ms : List (String × Json)} {cut : List Char} (opening : Char)
    (h : cutMembers? depth (opening :: newLine depth) ms = some cut) :
    ∃ rest, rest ≠ [] ∧ opening :: indentedMembers depth ms = cut ++ rest := by
  cases ms with
  | nil => cases h
  | cons m ms =>
    obtain ⟨k, v⟩ := m
    obtain ⟨tail, htext, htail⟩ := exists_indentedMembers depth k v ms
    rw [cutMembers?] at h
    cases hv : cut? depth v with
    | some inner =>
      simp only [hv] at h
      obtain rfl := Option.some.inj h
      obtain ⟨rest, hrest, hchars⟩ := exists_rest_of_cut? hv
      refine ⟨rest ++ tail, List.append_ne_nil_of_left_ne_nil hrest _, ?_⟩
      rw [htext, hchars]
      simp only [List.cons_append, List.append_assoc]
    | none =>
      simp only [hv] at h
      obtain ⟨later, hlater, rfl⟩ := Option.map_eq_some_iff.mp h
      obtain ⟨rest, hrest, hchars⟩ := exists_rest_of_cutMembers? ',' hlater
      have hne : ms ≠ [] := by
        rintro rfl
        cases hlater
      refine ⟨rest, hrest, ?_⟩
      rw [htext, htail hne, hchars]
      simp only [List.cons_append, List.append_assoc]

end

end Json

end RenderBench
