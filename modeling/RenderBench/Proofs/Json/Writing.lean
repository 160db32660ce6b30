import RenderBench.Proofs.Json.Form

/-!
# `Proofs.Json.Writing` — written documents are read back

Both layouts are texts of a document, so that reading gives back what was written. The compact one holds nothing but
printable ASCII, and is therefore one line whatever texts stand in the document.

## Contents
- `read?_write`, `read?_writeIndented`: reading gives the document back.
- `printable_writeChars`, `not_mem_write`: the characters of the compact layout, which is a single line.
-/

namespace RenderBench

namespace Json

/-! ## One of the texts -/

theorem ElementsForm.blanks {es : List Json} {b cs : List Char} (hb : Blanks b) (h : ElementsForm es cs) :
    ElementsForm es (b ++ cs) := by
  cases h with
  | last hb' he hb'' =>
    rw [← List.append_assoc]
    exact .last (hb.append hb') he hb''
  | more hb' he hes =>
    rw [← List.append_assoc]
    exact .more (hb.append hb') he hes

theorem MembersForm.blanks {ms : List (String × Json)} {b cs : List Char} (hb : Blanks b) (h : MembersForm ms cs) :
    MembersForm ms (b ++ cs) := by
  cases h with
  | last hb' hv hb'' =>
    rw [← List.append_assoc]
    exact .last (hb.append hb') hv hb''
  | more hb' hv hms =>
    rw [← List.append_assoc]
    exact .more (hb.append hb') hv hms

mutual

theorem form_writeChars (j : Json) : Form j (writeChars j) := by
  cases j with
  | null => exact .null
  | bool b =>
    cases b with
    | true => exact .true
    | false => exact .false
  | int i => exact .int i
  | real x => exact .real x
  | text s => exact .text s
  | list es =>
    rw [writeChars]
    by_cases hes : es = []
    · rw [hes]
      exact .noElements
    · exact .list (form_writeElements es hes)
  | object ms =>
    rw [writeChars]
    by_cases hms : ms = []
    · rw [hms]
      exact .noMembers
    · exact .object (form_writeMembers ms hms)

theorem form_writeElements (es : List Json) (hes : es ≠ []) : ElementsForm es (writeElements es) := by
  cases es with
  | nil => exact absurd rfl hes
  | cons e es =>
    by_cases hes : es = []
    · rw [hes, writeElements]
      exact .last blanks_nil (form_writeChars e) blanks_nil
    · rw [writeElements]
      · exact .more blanks_nil (form_writeChars e) ((form_writeElements es hes).blanks blanks_one)
      · exact hes

theorem form_writeMembers (ms : List (String × Json)) (hms : ms ≠ []) : MembersForm ms (writeMembers ms) := by
  cases ms with
  | nil => exact absurd rfl hms
  | cons m ms =>
    obtain ⟨k, v⟩ := m
    by_cases hms : ms = []
    · rw [hms, writeMembers]
      have h := MembersForm.last (k := k) blanks_nil (form_writeChars v) blanks_nil
      simpa only [List.nil_append, List.append_assoc, List.cons_append] using h
    · rw [writeMembers]
      · have h := MembersForm.more (k := k) blanks_nil (form_writeChars v)
          ((form_writeMembers ms hms).blanks blanks_one)
        simpa only [List.nil_append, List.append_assoc, List.cons_append] using h
      · exact hms

end

/-- **What was written is read back**, and nothing is left. -/
theorem read?_write (j : Json) : read? j.write = some j := by
  have hread := read?_of_form blanks_nil (form_writeChars j) blanks_nil
  rwa [List.nil_append, List.append_nil] at hread

/-! ## The indented layout -/

theorem blanks_newLine (depth : Nat) : Blanks (newLine depth) := by
  intro c hc
  rcases List.mem_cons.mp hc with rfl | hc
  · rfl
  · rw [List.eq_of_mem_replicate hc]
    rfl

mutual

/-- An indented document is a text of it as well: its lines are blanks between the parts. -/
theorem form_indentedChars (depth : Nat) (j : Json) : Form j (indentedChars depth j) := by
  cases j with
  | null => exact .null
  | bool b =>
    cases b with
    | true => exact .true
    | false => exact .false
  | int i => exact .int i
  | real x => exact .real x
  | text s => exact .text s
  | list es =>
    by_cases hes : es = []
    · rw [hes]
      exact .noElements
    · rw [indentedChars]
      · exact .list (form_indentedElements (depth + 1) es hes)
      · exact hes
  | object ms =>
    by_cases hms : ms = []
    · rw [hms]
      exact .noMembers
    · rw [indentedChars]
      · exact .object (form_indentedMembers (depth + 1) ms hms)
      · exact hms

theorem form_indentedElements (depth : Nat) (es : List Json) (hes : es ≠ []) :
    ElementsForm es (indentedElements depth es) := by
  cases es with
  | nil => exact absurd rfl hes
  | cons e es =>
    by_cases hes : es = []
    · rw [hes, indentedElements]
      have h := ElementsForm.last (blanks_newLine depth) (form_indentedChars depth e) (blanks_newLine (depth - 1))
      simpa only [List.append_assoc] using h
    · rw [indentedElements]
      · have h := ElementsForm.more (blanks_newLine depth) (form_indentedChars depth e)
          (form_indentedElements depth es hes)
        simpa only [List.append_assoc] using h
      · exact hes

theorem form_indentedMembers (depth : Nat) (ms : List (String × Json)) (hms : ms ≠ []) :
    MembersForm ms (indentedMembers depth ms) := by
  cases ms with
  | nil => exact absurd rfl hms
  | cons m ms =>
    obtain ⟨k, v⟩ := m
    by_cases hms : ms = []
    · rw [hms, indentedMembers]
      have h := MembersForm.last (k := k) (blanks_newLine depth) (form_indentedChars depth v)
        (blanks_newLine (depth - 1))
      simpa only [List.append_assoc, List.cons_append] using h
    · rw [indentedMembers]
      · have h := MembersForm.more (k := k) (blanks_newLine depth) (form_indentedChars depth v)
          (form_indentedMembers depth ms hms)
        simpa only [List.append_assoc, List.cons_append] using h
      · exact hms

end

theorem read?_writeIndented (j : Json) : read? j.writeIndented = some j := by
  have hread := read?_of_form blanks_nil (form_indentedChars 0 j) blanks_nil
  rwa [List.nil_append, List.append_nil] at hread

/-! ## The characters of the compact layout -/

theorem printable_digits {ds : List Char} (h : AllDigits ds) : Printable ds := by
  intro c hc
  have hdigit := h c hc
  simp only [Char.isDigit, Bool.and_eq_true, decide_eq_true_eq] at hdigit
  exact ⟨UInt32.le_trans (by decide) hdigit.1, UInt32.le_trans hdigit.2 (by decide)⟩

theorem printable_decimalInt (i : Int) : Printable (decimalInt i) := by
  have hdigits := printable_digits (allDigits_decimalDigits i.natAbs)
  unfold decimalInt
  split
  · exact .cons (by decide) hdigits
  · exact hdigits

theorem printable_numeral {w : WrittenNumeral} (h : w.Proper) : Printable w.chars := by
  have hfraction : Printable (WrittenNumeral.fractionChars w.fraction) := by
    have hdigits := printable_digits h.fraction
    cases hw : w.fraction with
    | none => exact .nil
    | some ds =>
      rw [hw] at hdigits
      exact .cons (by decide) hdigits
  have hexponent : Printable (WrittenNumeral.exponentChars w.exponent) := by
    cases hw : w.exponent with
    | none => exact .nil
    | some p =>
      have hdigits := printable_digits (h.exponent p hw).1
      obtain ⟨negative, ds⟩ := p
      cases negative with
      | true => exact .cons (by decide) (.cons (by decide) hdigits)
      | false => exact .cons (by decide) (.cons (by decide) hdigits)
  exact ((printable_digits h.whole).append hfraction).append hexponent

theorem printable_real (x : Binary64) : Printable (RealLayout.json.write x) := by
  cases x with
  | nan => exact .of_all rfl
  | infinite negative =>
    cases negative with
    | true => exact .of_all rfl
    | false => exact .of_all rfl
  | finite negative m e h =>
    have hmark : RealLayout.json.exponentMark = 'e' := rfl
    obtain ⟨w, hproper, -, -, -, hwrite⟩ := exists_numeral hmark negative h
    rw [hwrite]
    cases negative with
    | true => exact .cons (by decide) (printable_numeral hproper)
    | false => exact printable_numeral hproper

mutual

/-- The compact layout holds nothing but printable ASCII. -/
theorem printable_writeChars (j : Json) : Printable (writeChars j) := by
  cases j with
  | null => exact .of_all rfl
  | bool b =>
    cases b with
    | true => exact .of_all rfl
    | false => exact .of_all rfl
  | int i => exact printable_decimalInt i
  | real x => exact printable_real x
  | text s => exact printable_jsonString s
  | list es =>
    rw [writeChars]
    exact .cons (by decide) (printable_writeElements es)
  | object ms =>
    rw [writeChars]
    exact .cons (by decide) (printable_writeMembers ms)

theorem printable_writeElements (es : List Json) : Printable (writeElements es) := by
  cases es with
  | nil =>
    rw [writeElements]
    exact .cons (by decide) .nil
  | cons e es =>
    by_cases hes : es = []
    · rw [hes, writeElements]
      exact (printable_writeChars e).append (.cons (by decide) .nil)
    · rw [writeElements]
      · exact (printable_writeChars e).append (.cons (by decide) (.cons (by decide) (printable_writeElements es)))
      · exact hes

theorem printable_writeMembers (ms : List (String × Json)) : Printable (writeMembers ms) := by
  cases ms with
  | nil =>
    rw [writeMembers]
    exact .cons (by decide) .nil
  | cons m ms =>
    obtain ⟨k, v⟩ := m
    have hkey : Printable (jsonString k ++ ':' :: ' ' :: writeChars v) :=
      (printable_jsonString k).append (.cons (by decide) (.cons (by decide) (printable_writeChars v)))
    by_cases hms : ms = []
    · rw [hms, writeMembers]
      exact hkey.append (.cons (by decide) .nil)
    · rw [writeMembers]
      · exact hkey.append (.cons (by decide) (.cons (by decide) (printable_writeMembers ms)))
      · exact hms

end

theorem printable_write (j : Json) : Printable j.write.toList := by
  rw [write, String.toList_ofList]
  exact printable_writeChars j

/-- A document in the compact layout is a single line. -/
theorem not_mem_write {c : Char} (hc : ¬ IsPrintable c) (j : Json) : c ∉ j.write.toList :=
  fun h => hc (printable_write j c h)

end Json

end RenderBench
