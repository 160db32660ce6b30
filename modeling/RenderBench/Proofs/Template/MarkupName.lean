import Mathlib.Data.List.Infix
import RenderBench.Proofs.Text.Utf8
import RenderBench.Template.Store

/-!
# `Proofs.Template.MarkupName` — the ends of the names of markup files

The name of a file is put into small letters before its end is looked at. The letters that such ends are made of are
small forms of themselves and of one capital each, so that nothing but these can stand at the end of the name.

## Contents
- `endLetters`, `not_endLetter_of_lowerChar`: what only itself and its capital are put into.
- `suffix_lowerFrom_iff`: the end of a text in small letters.
- `EndsAsMarkup`, `isMarkupName_iff`: the names of markup files.
-/

namespace RenderBench

/-- The characters that ends of names are made of. -/
def endLetters : List Char := ['.', 'h', 't', 'm', 'l', 'x']

theorem isAscii_of_toLower {c : Char} (h : c.toLower ∈ endLetters) : c.toNat < 0x80 := by
  have hascii : ∀ d ∈ endLetters, d.toNat < 0x80 := by simp [endLetters]
  unfold Char.toLower at h
  split at h
  · rename_i hcapital
    exact Nat.lt_of_le_of_lt (show c.toNat ≤ 90 from hcapital.2) (by decide)
  · exact hascii c h

/-- No row of the table leads to one of these characters. -/
theorem shifted_not_endLetter {n : Nat} (hn : 0x80 ≤ n) : shifted lowerShifts n ∉ endLetters.map Char.toNat := by
  -- no row holds the character that its step would lead from to such a letter
  have hrows : ∀ row ∈ lowerShifts, ∀ m ∈ endLetters.map Char.toNat,
      ¬((row.1 : Int) ≤ (m : Int) - row.2.2.2 ∧ (m : Int) - row.2.2.2 ≤ row.2.1) := by decide +kernel
  have hascii : ∀ m ∈ endLetters.map Char.toNat, 0 < m ∧ m < 0x80 := by decide
  intro hmem
  obtain ⟨hpos, hlt⟩ := hascii _ hmem
  unfold shifted at hmem hpos hlt
  split at hmem
  · rename_i first last step d hfind
    rw [hfind] at hpos
    have hcontains := List.find?_some hfind
    simp only [SteppedRange.contains, Bool.and_eq_true, decide_eq_true_eq] at hcontains
    refine hrows _ (List.mem_of_find?_eq_some hfind) _ hmem ?_
    dsimp only at hpos ⊢
    omega
  · rename_i hfind
    rw [hfind] at hlt
    exact absurd hlt (Nat.not_lt.mpr hn)

theorem not_endLetter_of_lowerChar {c d : Char} (hc : 0x80 ≤ c.toNat) (hd : d ∈ lowerChar c) : d ∉ endLetters := by
  unfold lowerChar at hd
  rw [if_neg (Nat.not_lt.mpr hc)] at hd
  split at hd
  · simp only [List.mem_cons, List.not_mem_nil, or_false] at hd
    rcases hd with rfl | rfl <;> decide
  · rw [List.mem_singleton.mp hd]
    intro hmem
    have hshifted := shifted_not_endLetter hc
    by_cases hvalid : (shifted lowerShifts c.toNat).isValidChar
    · refine hshifted (List.mem_map.mpr ⟨_, hmem, ?_⟩)
      exact toNat_ofNat hvalid
    · rw [Char.ofNat, dif_neg hvalid] at hmem
      revert hmem
      decide

/-- What a character becomes, and then the rest. -/
theorem exists_lowerFrom_cons (before : Bool) (c : Char) (cs : List Char) :
    ∃ piece, lowerFrom before (c :: cs) = piece ++ lowerFrom (isCased c) cs ∧ piece ≠ [] ∧
      (c.toNat < 0x80 → piece = [c.toLower]) ∧ (0x80 ≤ c.toNat → ∀ d ∈ piece, d ∉ endLetters) := by
  by_cases hsigma : c = capitalSigma
  · refine ⟨[Char.ofNat (if before && !(cs.head?.map isCased).getD false then 0x3c2 else 0x3c3)], ?_, ?_, ?_, ?_⟩
    · rw [lowerFrom, if_pos hsigma]
    · exact List.cons_ne_nil _ _
    · rw [hsigma]
      exact fun h => absurd h (by decide)
    · intro _ d hd
      -- of the two small sigmas neither is such a letter
      rw [List.mem_singleton.mp hd]
      split <;> decide
  · refine ⟨lowerChar c, by rw [lowerFrom, if_neg hsigma], ?_, ?_, fun hc d hd => not_endLetter_of_lowerChar hc hd⟩
    · unfold lowerChar
      split
      · exact List.cons_ne_nil _ _
      · split <;> exact List.cons_ne_nil _ _
    · intro hc
      rw [lowerChar, if_pos hc]

/-- A text that becomes nothing but these characters becomes its letters in their small forms. -/
theorem lowerFrom_eq_map {cs : List Char} : ∀ before : Bool, (∀ d ∈ lowerFrom before cs, d ∈ endLetters) →
    lowerFrom before cs = cs.map Char.toLower := by
  induction cs with
  | nil => exact fun _ _ => rfl
  | cons c cs ih =>
    intro before h
    obtain ⟨piece, hpiece, hne, hascii, hother⟩ := exists_lowerFrom_cons before c cs
    rw [hpiece] at h ⊢
    obtain ⟨hhere, hrest⟩ := List.forall_mem_append.mp h
    have hc : c.toNat < 0x80 := by
      obtain ⟨d, hd⟩ := List.exists_mem_of_ne_nil piece hne
      exact Nat.lt_of_not_le fun hc => hother hc d hd (hhere d hd)
    rw [ih _ hrest, hascii hc]
    rfl

theorem lowerFrom_of_ascii {cs : List Char} (h : ∀ c ∈ cs, c.toNat < 0x80) (before : Bool) :
    lowerFrom before cs = cs.map Char.toLower := by
  induction cs generalizing before with
  | nil => rfl
  | cons c cs ih =>
    obtain ⟨piece, hpiece, -, hascii, -⟩ := exists_lowerFrom_cons before c cs
    rw [hpiece, hascii (h c List.mem_cons_self), ih fun d hd => h d (List.mem_cons_of_mem c hd)]
    rfl

/-- **The end of a text in small letters** is an end of the text, put into small letters by itself. -/
theorem suffix_lowerFrom_iff {e cs : List Char} (he : ∀ d ∈ e, d ∈ endLetters) (before : Bool) :
    e <:+ lowerFrom before cs ↔ ∃ e', e' <:+ cs ∧ e'.map Char.toLower = e := by
  constructor
  · induction cs generalizing before with
    | nil =>
      intro h
      exact ⟨[], List.suffix_refl [], (List.suffix_nil.mp h).symm⟩
    | cons c cs ih =>
      intro h
      obtain ⟨piece, hpiece, -, hascii, hother⟩ := exists_lowerFrom_cons before c cs
      rw [hpiece] at h
      rcases List.suffix_or_suffix_of_suffix h (List.suffix_append piece _) with hrest | ⟨s, rfl⟩
      · obtain ⟨e', hsuffix, hmap⟩ := ih _ hrest
        exact ⟨e', hsuffix.trans (List.suffix_cons c cs), hmap⟩
      · cases s with
        | nil =>
          obtain ⟨e', hsuffix, hmap⟩ := ih _ (List.suffix_refl _)
          exact ⟨e', hsuffix.trans (List.suffix_cons c cs), hmap⟩
        | cons d s =>
          -- the end reaches into what the first character becomes, and then that is an end by itself
          obtain ⟨hs, hrest⟩ := List.forall_mem_append.mp he
          have hsuffix : d :: s <:+ piece := (List.suffix_append_self_iff).mp h
          have hd : d ∈ piece := hsuffix.subset List.mem_cons_self
          have hc : c.toNat < 0x80 := Nat.lt_of_not_le fun hc => hother hc d hd (hs d List.mem_cons_self)
          rw [hascii hc] at hsuffix
          have hall : d :: s = [c.toLower] := hsuffix.eq_of_length_le (Nat.succ_le_succ (Nat.zero_le _))
          refine ⟨c :: cs, List.suffix_refl _, ?_⟩
          rw [hall, lowerFrom_eq_map _ hrest]
          rfl
  · rintro ⟨e', ⟨stem, rfl⟩, rfl⟩
    have hascii : ∀ c ∈ e', c.toNat < 0x80 := fun c hc => isAscii_of_toLower (he _ (List.mem_map_of_mem hc))
    induction stem generalizing before with
    | nil =>
      rw [List.nil_append, lowerFrom_of_ascii hascii]
    | cons c stem ih =>
      obtain ⟨piece, hpiece, -⟩ := exists_lowerFrom_cons before c (stem ++ e')
      rw [List.cons_append, hpiece]
      exact (ih _).trans (List.suffix_append piece _)

namespace Template

/-- Whether a name ends with one of three endings, in any letter case. -/
def EndsAsMarkup (name : String) : Prop :=
  ∃ e ∈ [".html", ".htm", ".xml"], ∃ e', e' <:+ name.toList ∧ e'.map Char.toLower = e.toList

/-- **The names of markup files** are those that end as such, in any letter case. -/
theorem isMarkupName_iff (name : String) : isMarkupName name = true ↔ EndsAsMarkup name := by
  have hends : ∀ e ∈ [".html", ".htm", ".xml"], ∀ d ∈ String.toList e, d ∈ endLetters := by
    simp [endLetters]
  rw [isMarkupName, List.any_eq_true]
  refine exists_congr fun e => and_congr_right fun he => ?_
  rw [List.isSuffixOf_iff_suffix, lower, String.toList_ofList]
  exact suffix_lowerFrom_iff (hends e he) false

end Template

end RenderBench
