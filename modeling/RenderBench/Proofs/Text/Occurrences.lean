import Mathlib.Algebra.GroupWithZero.Nat
import RenderBench.Template.Escaping

/-!
# `Proofs.Text.Occurrences` — how often a text is found in markup with data

A page is markup with data between: the markup is known, the data is any text, escaped. A needle that has
a character of markup is found in such a page exactly where it is found in the markup, if no part of the
markup could complete a needle that begins in another part or in the data. Whether a part of the markup
stands alone in this sense is decided by looking at it, and no data can change it.

## Contents
- `occurrences`: how often a text is found.
- `Seam`, `occurrencesIn_append`: a text of two parts.
- `Segment`, `pageText`, `markups`: markup and data.
- `StandsAlone`: markup that no needle reaches across.
- `found`, `occurrences_pageText`: what is found is found in the markup.
-/

namespace RenderBench

open RenderBench.Template (escapeChar escapeText)

/-- The number of positions at which a needle starts. -/
def occurrencesIn (needle : List Char) : List Char → Nat
  | [] => 0
  | c :: cs => (if needle.isPrefixOf (c :: cs) then 1 else 0) + occurrencesIn needle cs

/-- How often a text is found in another one. -/
def occurrences (needle text : String) : Nat := occurrencesIn needle.toList text.toList

variable {needle a b : List Char}

/-! ## Two parts -/

/-- No needle begins in the first of two texts and ends in the second. -/
def Seam (needle a b : List Char) : Prop :=
  ∀ u v, needle = u ++ v → u ≠ [] → v ≠ [] → u <:+ a → ¬v <+: b

theorem Seam.tail {c : Char} (h : Seam needle (c :: a) b) : Seam needle a b :=
  fun u v huv hu hv hsuffix => h u v huv hu hv (hsuffix.trans (List.suffix_cons c a))

/-- A needle found across the end of the first text would begin in it and end in the second. -/
theorem Seam.prefix_of_append {c : Char} (h : Seam needle (c :: a) b)
    (hneedle : needle <+: c :: (a ++ b)) : needle <+: c :: a := by
  rcases List.prefix_or_prefix_of_prefix hneedle (List.prefix_append (c :: a) b) with hle | hge
  · exact hle
  · -- the whole first text begins a needle, which ends where the text ends or goes on after it
    obtain ⟨v, rfl⟩ := hge
    by_cases hv : v = []
    · have hwhole : c :: a ++ v = c :: a := by rw [hv, List.append_nil]
      exact ⟨[], by rw [List.append_nil, hwhole]⟩
    · have hvb : v <+: b := (List.prefix_append_right_inj (c :: a)).mp hneedle
      exact absurd hvb (h (c :: a) v rfl (List.cons_ne_nil c a) hv (List.suffix_refl _))

theorem occurrencesIn_append (h : Seam needle a b) :
    occurrencesIn needle (a ++ b) = occurrencesIn needle a + occurrencesIn needle b := by
  induction a with
  | nil => rw [List.nil_append, occurrencesIn, Nat.zero_add]
  | cons c a ih =>
    have hhere : needle.isPrefixOf (c :: (a ++ b)) = needle.isPrefixOf (c :: a) := by
      rw [Bool.eq_iff_iff, List.isPrefixOf_iff_prefix, List.isPrefixOf_iff_prefix]
      exact ⟨h.prefix_of_append, fun hp => hp.trans (List.prefix_append (c :: a) b)⟩
    rw [List.cons_append, occurrencesIn, occurrencesIn, hhere, ih h.tail, Nat.add_assoc]

/-! ## Markup and data -/

/-- A part of a page: markup as it is, or data. -/
inductive Segment where
  | markup (s : String)
  | data (s : String)

def Segment.text : Segment → String
  | .markup s => s
  | .data s => escapeText s

/-- The text of a page. -/
def pageText (page : List Segment) : String := String.join (page.map Segment.text)

/-- The markup of a page, part by part. -/
def markups : List Segment → List String
  | [] => []
  | .markup s :: page => s :: markups page
  | .data _ :: page => markups page

/-- Characters that begin or end markup; there are none of them in data. -/
def isDelimiter (c : Char) : Bool := c == '<' || c == '>' || c == '"' || c == '\''

/-- A text without delimiters. -/
def Plain (cs : List Char) : Prop := ∀ c ∈ cs, isDelimiter c = false

/-- The characters of the text are looked at, and not all characters that there are. -/
instance (cs : List Char) : Decidable (Plain cs) :=
  List.decidableBAll (fun c => isDelimiter c = false) cs

theorem Plain.append (ha : Plain a) (hb : Plain b) : Plain (a ++ b) := by
  intro c hc
  rcases List.mem_append.mp hc with hc | hc
  · exact ha c hc
  · exact hb c hc

theorem plain_escapeChar (c : Char) : Plain (escapeChar c) := by
  unfold escapeChar
  split
  · decide
  split
  · decide
  split
  · decide
  split
  · decide
  split
  · decide
  -- the character is none of the five
  · intro d hd
    obtain rfl := List.mem_singleton.mp hd
    simp_all [isDelimiter]

/-- **Escaped text has no delimiters.** -/
theorem plain_escapeText (s : String) : Plain (escapeText s).toList := by
  intro c hc
  rw [escapeText, String.toList_ofList] at hc
  obtain ⟨d, _, hd⟩ := List.mem_flatMap.mp hc
  exact plain_escapeChar d c hd

/-! ## What is found -/

/-- A part of the markup that keeps to itself: no needle begins in it and goes on after it, and none begins in
    data before it and goes on in it. -/
def StandsAlone (needle markup : List Char) : Prop :=
  ∀ k < needle.length, k ≠ 0 → ¬needle.take k <:+ markup ∧
    (Plain (needle.take k) → ¬needle.drop k <+: markup ∧ ¬markup <+: needle.drop k)

instance (needle markup : List Char) : Decidable (StandsAlone needle markup) :=
  inferInstanceAs (Decidable (∀ k < needle.length, k ≠ 0 → ¬needle.take k <:+ markup ∧
    (Plain (needle.take k) → ¬needle.drop k <+: markup ∧ ¬markup <+: needle.drop k)))

variable {markup : List Char}

theorem StandsAlone.at_split (h : StandsAlone needle markup) {u v : List Char} (huv : needle = u ++ v)
    (hu : u ≠ []) (hv : v ≠ []) :
    ¬u <:+ markup ∧ (Plain u → ¬v <+: markup ∧ ¬markup <+: v) := by
  have hlt : u.length < needle.length := by
    rw [huv, List.length_append]
    exact Nat.lt_add_of_pos_right (List.length_pos_iff.mpr hv)
  have hsplit := h u.length hlt (fun h0 => hu (List.length_eq_zero_iff.mp h0))
  rwa [huv, List.take_left, List.drop_left] at hsplit

/-- Nothing begins in such a part and goes on after it. -/
theorem StandsAlone.seam (h : StandsAlone needle markup) (b : List Char) : Seam needle markup b :=
  fun _ _ huv hu hv hsuffix => absurd hsuffix (h.at_split huv hu hv).1

/-- Nothing begins in data and goes on in such a part. -/
theorem StandsAlone.seam_of_plain (h : StandsAlone needle markup) (ha : Plain a) (b : List Char) :
    Seam needle a (markup ++ b) := by
  intro u v huv hu hv hsuffix hprefix
  have hplain : Plain u := fun c hc => ha c (hsuffix.subset hc)
  obtain ⟨hnotIn, hnotOver⟩ := (h.at_split huv hu hv).2 hplain
  -- the needle may end in the markup or go on over all of it
  rcases List.prefix_or_prefix_of_prefix hprefix (List.prefix_append markup b) with hin | hover
  · exact hnotIn hin
  · exact hnotOver hover

theorem occurrencesIn_of_plain (hneedle : ¬Plain needle) (ha : Plain a) : occurrencesIn needle a = 0 := by
  induction a with
  | nil => rfl
  | cons c a ih =>
    have hhere : needle.isPrefixOf (c :: a) = false := by
      rw [Bool.eq_false_iff, ne_eq, List.isPrefixOf_iff_prefix]
      exact fun hp => hneedle fun d hd => ha d (hp.subset hd)
    rw [occurrencesIn, hhere, ih fun d hd => ha d (List.mem_cons_of_mem c hd)]
    rfl

/-- **What is found in a page is found in its markup.** The needle has a delimiter, and every part of the
    markup stands alone; then the data, whatever it is, neither adds to what is found nor takes from it. -/
theorem occurrencesIn_segments (hneedle : ¬Plain needle) (page : List Segment)
    (h : ∀ m ∈ markups page, StandsAlone needle m.toList) :
    ∀ d, Plain d → occurrencesIn needle (d ++ (pageText page).toList) =
      ((markups page).map fun m => occurrencesIn needle m.toList).sum := by
  -- `d` is the data that stands directly before the page
  induction page with
  | nil =>
    intro d hd
    rw [pageText, List.map_nil, String.join_nil, String.toList_empty, List.append_nil]
    exact occurrencesIn_of_plain hneedle hd
  | cons segment page ih =>
    intro d hd
    rw [pageText, List.map_cons, String.join_cons, String.toList_append, ← pageText]
    cases segment with
    | data s =>
      rw [← List.append_assoc]
      exact ih h _ (hd.append (plain_escapeText s))
    | markup s =>
      have halone : StandsAlone needle s.toList := h s (List.mem_cons_self ..)
      have hrest := ih (fun m hm => h m (List.mem_cons_of_mem s hm)) [] fun _ hc => nomatch hc
      rw [List.nil_append] at hrest
      show occurrencesIn needle (d ++ (s.toList ++ _)) = _
      rw [occurrencesIn_append (halone.seam_of_plain hd _), occurrencesIn_append (halone.seam _),
        occurrencesIn_of_plain hneedle hd, hrest, Nat.zero_add]
      rfl

/-- How often a text is found in the parts of a page's markup. -/
def found (needle : String) (page : List Segment) : Nat :=
  ((markups page).map fun m => occurrences needle m).sum

theorem occurrences_pageText {needle : String} (hneedle : ¬Plain needle.toList) {page : List Segment}
    (h : ∀ m ∈ markups page, StandsAlone needle.toList m.toList) :
    occurrences needle (pageText page) = found needle page :=
  occurrencesIn_segments hneedle page h [] fun _ hc => nomatch hc

/-! ## Pages one after the other -/

theorem pageText_markup (s : String) : pageText [.markup s] = s := by
  rw [pageText, List.map_singleton, String.join_cons, String.join_nil, String.append_empty, Segment.text]

theorem pageText_append (page page' : List Segment) :
    pageText (page ++ page') = pageText page ++ pageText page' := by
  rw [pageText, List.map_append, String.join_append, ← pageText, ← pageText]

theorem pageText_flatMap {α : Type} (segments : α → List Segment) (xs : List α) :
    pageText (xs.flatMap segments) = String.join (xs.map fun x => pageText (segments x)) := by
  induction xs with
  | nil => rfl
  | cons x xs ih => rw [List.flatMap_cons, pageText_append, ih, List.map_cons, String.join_cons]

theorem markups_append (page page' : List Segment) :
    markups (page ++ page') = markups page ++ markups page' := by
  induction page with
  | nil => rfl
  | cons segment page ih =>
    cases segment with
    | markup s => exact congrArg (s :: ·) ih
    | data s => exact ih

theorem markups_flatMap {α : Type} (segments : α → List Segment) (xs : List α) :
    markups (xs.flatMap segments) = xs.flatMap fun x => markups (segments x) := by
  induction xs with
  | nil => rfl
  | cons x xs ih => rw [List.flatMap_cons, markups_append, ih, List.flatMap_cons]

theorem found_markup (needle s : String) : found needle [.markup s] = occurrences needle s := by
  rw [found, markups, markups, List.map_singleton, List.sum_singleton]

theorem found_append (needle : String) (page page' : List Segment) :
    found needle (page ++ page') = found needle page + found needle page' := by
  rw [found, markups_append, List.map_append, List.sum_append_nat, ← found, ← found]

theorem found_flatMap {α : Type} (needle : String) (segments : α → List Segment) (xs : List α) :
    found needle (xs.flatMap segments) = (xs.map fun x => found needle (segments x)).sum := by
  induction xs with
  | nil => rfl
  | cons x xs ih => rw [List.flatMap_cons, found_append, ih, List.map_cons, List.sum_cons]

end RenderBench
