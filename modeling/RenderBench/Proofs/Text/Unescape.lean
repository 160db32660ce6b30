import RenderBench.Proofs.Text.Occurrences

/-!
# `Proofs.Text.Unescape` — escaped text, and back

An escaped text has no character that could be taken for markup, but for ampersands, and each of these begins an
escape. Replacing the escapes by what they stand for gives the text back.

## Contents
- `unescapeText`: escapes replaced by what they stand for; `unescapeText_escapeText`.
- `Harmless`: text that could not be taken for markup; `harmless_escapeText`.
-/

namespace RenderBench.Template

/-! ## Back to the text -/

def unescapeChars : List Char → List Char
  | '&' :: 'a' :: 'm' :: 'p' :: ';' :: cs => '&' :: unescapeChars cs
  | '&' :: 'g' :: 't' :: ';' :: cs => '>' :: unescapeChars cs
  | '&' :: 'l' :: 't' :: ';' :: cs => '<' :: unescapeChars cs
  | '&' :: '#' :: '3' :: '9' :: ';' :: cs => '\'' :: unescapeChars cs
  | '&' :: '#' :: '3' :: '4' :: ';' :: cs => '"' :: unescapeChars cs
  | c :: cs => c :: unescapeChars cs
  | [] => []

/-- A text with every escape replaced by the character that it stands for. -/
def unescapeText (s : String) : String := String.ofList (unescapeChars s.toList)

theorem unescapeChars_cons {c : Char} (h : c ≠ '&') (cs : List Char) :
    unescapeChars (c :: cs) = c :: unescapeChars cs := by
  rw [unescapeChars]
  all_goals exact fun _ hc => absurd hc h

/-- What stands for a character: one of the five escapes, or the character itself, which is none of the five then. -/
theorem escapeChar_cases (c : Char) :
    c = '&' ∧ escapeChar c = ['&', 'a', 'm', 'p', ';'] ∨ c = '>' ∧ escapeChar c = ['&', 'g', 't', ';'] ∨
      c = '<' ∧ escapeChar c = ['&', 'l', 't', ';'] ∨ c = '\'' ∧ escapeChar c = ['&', '#', '3', '9', ';'] ∨
      c = '"' ∧ escapeChar c = ['&', '#', '3', '4', ';'] ∨
      (c ≠ '&' ∧ c ≠ '>' ∧ c ≠ '<' ∧ c ≠ '\'' ∧ c ≠ '"') ∧ escapeChar c = [c] := by
  unfold escapeChar
  split
  · exact .inl ⟨‹_›, rfl⟩
  · split
    · exact .inr (.inl ⟨‹_›, rfl⟩)
    · split
      · exact .inr (.inr (.inl ⟨‹_›, rfl⟩))
      · split
        · exact .inr (.inr (.inr (.inl ⟨‹_›, rfl⟩)))
        · split
          · exact .inr (.inr (.inr (.inr (.inl ⟨‹_›, rfl⟩))))
          · exact .inr (.inr (.inr (.inr (.inr ⟨⟨‹_›, ‹_›, ‹_›, ‹_›, ‹_›⟩, rfl⟩))))

theorem unescapeChars_escape (cs : List Char) : unescapeChars (cs.flatMap escapeChar) = cs := by
  induction cs with
  | nil => rfl
  | cons c cs ih =>
    rw [List.flatMap_cons]
    obtain ⟨rfl, h⟩ | ⟨rfl, h⟩ | ⟨rfl, h⟩ | ⟨rfl, h⟩ | ⟨rfl, h⟩ | ⟨⟨hamp, -⟩, h⟩ := escapeChar_cases c
    case inr.inr.inr.inr.inr =>
      rw [h, List.singleton_append, unescapeChars_cons hamp, ih]
    all_goals
      rw [h]
      exact congrArg (_ :: ·) ih

/-- **Unescaping an escaped text** gives the text back. -/
theorem unescapeText_escapeText (s : String) : unescapeText (escapeText s) = s := by
  rw [unescapeText, escapeText, String.toList_ofList, unescapeChars_escape, String.ofList_toList]

/-! ## Text that is no markup -/

/-- What the escapes are after the ampersand. -/
def escapeEnds : List String := ["amp;", "gt;", "lt;", "#39;", "#34;"]

/-- A text that could not be taken for markup: it has none of four characters, and each ampersand in it begins an
    escape. -/
structure Harmless (s : String) : Prop where
  absent : ∀ c ∈ ['<', '>', '\'', '"'], c ∉ s.toList
  escapes : ∀ rest, '&' :: rest <:+ s.toList → ∃ e ∈ escapeEnds, e.toList <+: rest

/-- An ampersand in an escaped text begins the escape of the character that it is from. -/
theorem escape_of_ampersand (cs : List Char) : ∀ rest, '&' :: rest <:+ cs.flatMap escapeChar →
    ∃ e ∈ escapeEnds, e.toList <+: rest := by
  induction cs with
  | nil => exact fun rest h => nomatch List.suffix_nil.mp h
  | cons c cs ih =>
    intro rest h
    have hhere {tail : List Char} (e : String) (he : e ∈ escapeEnds) (hrest : rest = e.toList ++ tail) :
        ∃ e ∈ escapeEnds, e.toList <+: rest := ⟨e, he, tail, hrest.symm⟩
    rw [List.flatMap_cons] at h
    obtain ⟨-, hc⟩ | ⟨-, hc⟩ | ⟨-, hc⟩ | ⟨-, hc⟩ | ⟨-, hc⟩ | ⟨⟨hamp, -⟩, hc⟩ := escapeChar_cases c
    -- of each escape only the first character is an ampersand
    all_goals
      rw [hc] at h
      simp only [List.cons_append, List.nil_append, List.suffix_cons_iff, List.cons.injEq, Char.reduceEq, false_and,
        false_or, true_and] at h
    · exact h.elim (hhere "amp;" (by decide)) (ih rest)
    · exact h.elim (hhere "gt;" (by decide)) (ih rest)
    · exact h.elim (hhere "lt;" (by decide)) (ih rest)
    · exact h.elim (hhere "#39;" (by decide)) (ih rest)
    · exact h.elim (hhere "#34;" (by decide)) (ih rest)
    · exact h.elim (fun heq => absurd heq.1.symm hamp) (ih rest)

/-- **An escaped text** could not be taken for markup. -/
theorem harmless_escapeText (s : String) : Harmless (escapeText s) where
  absent c hc h := by
    have hdelimiter : ∀ c ∈ ['<', '>', '\'', '"'], isDelimiter c = true := by simp [isDelimiter]
    exact absurd (plain_escapeText s c h) (by rw [hdelimiter c hc]; exact Bool.noConfusion)
  escapes rest h := by
    rw [escapeText, String.toList_ofList] at h
    exact escape_of_ampersand s.toList rest h

end RenderBench.Template
