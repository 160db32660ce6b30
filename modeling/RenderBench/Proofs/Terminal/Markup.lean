import Mathlib.Data.List.TakeDrop
import RenderBench.Proofs.Lookup
import RenderBench.Proofs.Stepwise
import RenderBench.Terminal.Markup

/-!
# `Proofs.Terminal.Markup` — what a text with tags shows

Whatever a text shows stands in its source or belongs to an emoji: reading markup makes no other characters. A text in
which nothing is a tag, no backslash stands before a bracket and no name between colons is an emoji shows itself.

## Contents
- `Everywhere`: a property that all characters have.
- `everywhere_readMarkup`: what a property of the source says of what is shown.
- `ShownAsIs`, `readMarkup_of_shownAsIs`: texts that show themselves.
- `isPlain`, `shownAsIs_of_plain`: characters that markup makes nothing of, and texts of them.
-/

namespace RenderBench.Terminal

/-! ## Properties of characters -/

/-- A property that all characters have. -/
def Everywhere (P : Char → Prop) (cs : List Char) : Prop := ∀ c ∈ cs, P c

instance (P : Char → Prop) [DecidablePred P] (cs : List Char) : Decidable (Everywhere P cs) :=
  List.decidableBAll P cs

section Everywhere

variable {P : Char → Prop} {c : Char} {cs ds : List Char}

theorem Everywhere.nil : Everywhere P [] := fun _ h => absurd h List.not_mem_nil

theorem everywhere_cons : Everywhere P (c :: cs) ↔ P c ∧ Everywhere P cs := List.forall_mem_cons

theorem everywhere_append : Everywhere P (cs ++ ds) ↔ Everywhere P cs ∧ Everywhere P ds := List.forall_mem_append

theorem Everywhere.reverse (h : Everywhere P cs) : Everywhere P cs.reverse := fun c hc => h c (List.mem_reverse.mp hc)

theorem Everywhere.of_subset (h : Everywhere P ds) (hsub : cs ⊆ ds) : Everywhere P cs := fun c hc => h c (hsub hc)

theorem everywhere_replicate (n : Nat) (h : P c) : Everywhere P (List.replicate n c) :=
  fun _ hd => List.eq_of_mem_replicate hd ▸ h

end Everywhere

/-- A property that brackets, backslashes and colons have, and the characters of all emoji. -/
structure Neutral (P : Char → Prop) : Prop where
  opening : P '['
  closing : P ']'
  backslash : P '\\'
  colon : P ':'
  emoji : ∀ entry ∈ emojiNames, Everywhere P entry.2.toList
  variants : ∀ entry ∈ emojiVariants, Everywhere P entry.1 ∧ Everywhere P entry.2

variable {P : Char → Prop} {cs : List Char}

/-! ## Tags -/

theorem everywhere_tagAt? {content rest : List Char} (h : Everywhere P cs) (htag : tagAt? cs = some (content, rest)) :
    Everywhere P content ∧ Everywhere P rest := by
  unfold tagAt? at htag
  split at htag
  · cases htag
  · split at htag
    · split at htag
      · next content' rest' hspan =>
        cases htag
        rw [List.span_eq_takeWhile_dropWhile] at hspan
        obtain ⟨hcontent, hrest⟩ := Prod.mk.inj hspan
        have hafter : Everywhere P (']' :: rest) := hrest ▸ h.of_subset (List.dropWhile_subset _)
        exact ⟨hcontent ▸ h.of_subset (List.takeWhile_subset _), (everywhere_cons.mp hafter).2⟩
      · cases htag
    · cases htag

theorem everywhere_nextTag? (hP : Neutral P) {text before content rest : List Char} {backslashes count : Nat}
    (htext : Everywhere P text) (h : Everywhere P cs)
    (htag : nextTag? text backslashes cs = some (before, count, content, rest)) :
    Everywhere P before ∧ Everywhere P content ∧ Everywhere P rest := by
  fun_induction nextTag? text backslashes cs with
  | case1 => cases htag
  | case2 text backslashes cs ih => exact ih htext (everywhere_cons.mp h).2 htag
  | case3 text backslashes cs content' rest' hat =>
    cases htag
    exact ⟨htext.reverse, everywhere_tagAt? (everywhere_cons.mp h).2 hat⟩
  | case4 text backslashes cs hat ih =>
    refine ih (everywhere_cons.mpr ⟨hP.opening, everywhere_append.mpr ⟨?_, htext⟩⟩) (everywhere_cons.mp h).2 htag
    exact everywhere_replicate _ hP.backslash
  | case5 text backslashes c cs hne hne' ih =>
    obtain ⟨hc, hcs⟩ := everywhere_cons.mp h
    refine ih (everywhere_cons.mpr ⟨hc, everywhere_append.mpr ⟨?_, htext⟩⟩) hcs htag
    exact everywhere_replicate _ hP.backslash

theorem everywhere_unescapeBrackets (h : Everywhere P cs) : Everywhere P (unescapeBrackets cs) := by
  fun_induction unescapeBrackets cs with
  | case1 cs ih =>
    obtain ⟨hbracket, hcs⟩ := everywhere_cons.mp (everywhere_cons.mp h).2
    exact everywhere_cons.mpr ⟨hbracket, ih hcs⟩
  | case2 c cs hne ih =>
    obtain ⟨hc, hcs⟩ := everywhere_cons.mp h
    exact everywhere_cons.mpr ⟨hc, ih hcs⟩
  | case3 => exact .nil

/-- A text part whose characters all have a property; a tag shows nothing. -/
def MarkupPart.Shows (P : Char → Prop) : MarkupPart → Prop
  | .text cs => Everywhere P cs
  | .tag _ _ => True

theorem shows_partsFrom (hP : Neutral P) {fuel position : Nat} (h : Everywhere P cs) :
    ∀ part ∈ partsFrom fuel position cs, part.Shows P := by
  induction fuel generalizing position cs with
  | zero =>
    intro part hpart
    rw [List.mem_singleton.mp hpart]
    exact everywhere_unescapeBrackets h
  | succ fuel ih =>
    intro part hpart
    unfold partsFrom at hpart
    split at hpart
    · rw [List.mem_singleton.mp hpart]
      exact everywhere_unescapeBrackets h
    · next before count content rest htag =>
      obtain ⟨hbefore, hcontent, hrest⟩ := everywhere_nextTag? hP .nil h htag
      have hbackslashes : Everywhere P (List.replicate (count / 2) '\\') := everywhere_replicate _ hP.backslash
      have hescaped : Everywhere P ('[' :: content ++ [']']) :=
        everywhere_cons.mpr ⟨hP.opening, everywhere_append.mpr ⟨hcontent, everywhere_cons.mpr ⟨hP.closing, .nil⟩⟩⟩
      -- the text before the tag and its backslashes, the tag or its text, and the parts after it
      have hparts (tag : MarkupPart) (htag : tag.Shows P) (start : Nat) :
          ∀ part ∈ [MarkupPart.text (unescapeBrackets before),
            .text (unescapeBrackets (List.replicate (count / 2) '\\'))] ++ tag :: partsFrom fuel start rest,
            part.Shows P := by
        refine List.forall_mem_append.mpr ⟨?_, List.forall_mem_cons.mpr ⟨htag, ih hrest⟩⟩
        exact List.forall_mem_cons.mpr ⟨everywhere_unescapeBrackets hbefore,
          List.forall_mem_singleton.mpr (everywhere_unescapeBrackets hbackslashes)⟩
      dsimp only at hpart
      split at hpart
      · exact hparts (.text _) hescaped _ part hpart
      · exact hparts (.tag _ _) trivial _ part hpart

/-! ## Emoji -/

theorem emojiEnd?_cases {variant mark rest : List Char} (h : emojiEnd? cs = some (variant, mark, rest)) :
    (mark, variant) ∈ emojiVariants ∧ rest ⊆ cs := by
  obtain ⟨⟨mark', variant'⟩, hmem, hend⟩ := List.exists_of_findSome?_eq_some h
  dsimp only at hend
  split at hend
  · cases hend
    exact ⟨hmem, List.drop_subset _ _⟩
  · cases hend

theorem everywhere_emojiCode? (hP : Neutral P) {name : List Char} {e : EmojiCode} (hname : Everywhere P name)
    (h : Everywhere P cs) (hcode : emojiCode? name cs = some e) :
    Everywhere P e.replacement ∧ Everywhere P e.rest := by
  fun_induction emojiCode? name cs with
  | case1 => cases hcode
  | case2 name c cs variant mark rest hend =>
    cases hcode
    obtain ⟨hmem, hrest⟩ := emojiEnd?_cases hend
    obtain ⟨hmark, hvariant⟩ := hP.variants _ hmem
    refine ⟨?_, h.of_subset hrest⟩
    unfold EmojiCode.replacement
    split
    · next emoji hlookup =>
      exact everywhere_append.mpr ⟨hP.emoji _ (mem_of_lookup hlookup), hvariant⟩
    · exact everywhere_cons.mpr ⟨hP.colon, everywhere_append.mpr ⟨hname.reverse, hmark⟩⟩
  | case3 => cases hcode
  | case4 name c cs hend hblank ih =>
    obtain ⟨hc, hcs⟩ := everywhere_cons.mp h
    exact ih (everywhere_cons.mpr ⟨hc, hname⟩) hcs hcode

theorem everywhere_replaceEmojiWithin (hP : Neutral P) {fuel : Nat} (h : Everywhere P cs) :
    Everywhere P (replaceEmojiWithin fuel cs) := by
  fun_induction replaceEmojiWithin fuel cs with
  | case1 => exact h
  | case2 => exact .nil
  | case3 fuel cs e hcode ih =>
    obtain ⟨hreplacement, hrest⟩ := everywhere_emojiCode? hP .nil (everywhere_cons.mp h).2 hcode
    exact everywhere_append.mpr ⟨hreplacement, ih hrest⟩
  | case4 fuel cs hcode ih =>
    obtain ⟨hc, hcs⟩ := everywhere_cons.mp h
    exact everywhere_cons.mpr ⟨hc, ih hcs⟩
  | case5 fuel c cs hc' ih =>
    obtain ⟨hc, hcs⟩ := everywhere_cons.mp h
    exact everywhere_cons.mpr ⟨hc, ih hcs⟩

theorem everywhere_replaceEmoji (hP : Neutral P) (h : Everywhere P cs) : Everywhere P (replaceEmoji cs) :=
  everywhere_replaceEmojiWithin hP h

/-! ## Reading -/

theorem everywhere_readParts (hP : Neutral P) {number : Nat} {opened : List OpenTag} {parts : List MarkupPart}
    {shown : List StyledChar} (h : ∀ part ∈ parts, part.Shows P) (hread : readParts number opened parts = .ok shown) :
    ∀ c ∈ shown, P c.char := by
  induction parts generalizing number opened shown with
  | nil =>
    cases hread
    nofun
  | cons part parts ih =>
    obtain ⟨hpart, hparts⟩ := List.forall_mem_cons.mp h
    cases part with
    | text cs =>
      unfold readParts at hread
      obtain ⟨rest, hrest, hshown⟩ := exists_of_bind_ok hread
      cases hshown
      refine List.forall_mem_append.mpr ⟨fun c hc => ?_, ih hparts hrest⟩
      obtain ⟨d, hd, rfl⟩ := List.mem_map.mp hc
      exact everywhere_replaceEmoji hP hpart d (List.mem_filter.mp hd).1
    | tag content position =>
      -- whatever the tag does to the open ones, the rest shows what its parts show
      unfold readParts at hread
      dsimp only at hread
      split at hread
      · split at hread
        · split at hread
          · cases hread
          · exact ih hparts hread
        · split at hread
          · cases hread
          · exact ih hparts hread
      · exact ih hparts hread

/-- **What is shown has every property that the source and all emoji have.** -/
theorem everywhere_readMarkup (hP : Neutral P) {source : String} {shown : List StyledChar}
    (h : Everywhere P source.toList) (hread : readMarkup source = .ok shown) :
    Everywhere P (shown.map StyledChar.char) := by
  have hshown := everywhere_readParts hP (shows_partsFrom hP h) hread
  intro c hc
  obtain ⟨d, hd, rfl⟩ := List.mem_map.mp hc
  exact hshown d hd

/-! ## Texts that show themselves -/

/-- A text without controls in which nothing is a tag, no backslash stands before a bracket and no name between colons
    is an emoji. -/
structure ShownAsIs (cs : List Char) : Prop where
  noTag : nextTag? [] 0 cs = none
  noEscape : ¬ ['\\', '['] <:+: cs
  noEmoji : replaceEmoji cs = cs
  noControl : cs.all (fun c => !isDroppedControl c) = true

/-- Where the next tag is does not depend on the text before it. -/
theorem nextTag?_eq_none_iff (text text' : List Char) (n n' : Nat) (cs : List Char) :
    nextTag? text n cs = none ↔ nextTag? text' n' cs = none := by
  fun_induction nextTag? text n cs generalizing text' n' with
  | case1 => exact Iff.rfl
  | case2 text n cs ih => exact ih text' (n' + 1)
  | case3 text n cs content rest hat => simp only [nextTag?, hat, reduceCtorEq]
  | case4 text n cs hat ih =>
    simp only [nextTag?, hat]
    exact ih _ _
  | case5 text n c cs hbackslash hbracket ih =>
    rw [nextTag?.eq_4 _ _ _ _ hbackslash hbracket]
    exact ih _ _

theorem unescapeBrackets_eq_self {cs : List Char} (h : ¬ ['\\', '['] <:+: cs) : unescapeBrackets cs = cs := by
  fun_induction unescapeBrackets cs with
  | case1 cs ih => exact absurd ⟨[], cs, rfl⟩ h
  | case2 c cs hne ih => rw [ih fun hin => h (hin.trans (List.suffix_cons c cs).isInfix)]
  | case3 => rfl

theorem partsFrom_of_noTag {cs : List Char} (h : nextTag? [] 0 cs = none) (fuel position : Nat) :
    partsFrom fuel position cs = [.text (unescapeBrackets cs)] := by
  cases fuel with
  | zero => rfl
  | succ fuel => rw [partsFrom, h]

/-- **A text shows itself.** -/
theorem readMarkup_of_shownAsIs {source : String} (h : ShownAsIs source.toList) :
    readMarkup source = .ok (plainChars source.toList) := by
  have hcontrols : source.toList.filter (fun c => !isDroppedControl c) = source.toList :=
    List.filter_eq_self.mpr (List.all_eq_true.mp h.noControl)
  rw [readMarkup, markupParts, partsFrom_of_noTag h.noTag, unescapeBrackets_eq_self h.noEscape]
  unfold readParts
  rw [h.noEmoji, hcontrols]
  exact congrArg Except.ok (List.append_nil _)

/-- A text that shows itself still does so after the heading of a table. -/
theorem ShownAsIs.heading {cs : List Char} (h : ShownAsIs cs) : ShownAsIs ("tablebench: ".toList ++ cs) := by
  constructor
  case noTag => exact (nextTag?_eq_none_iff _ _ _ _ cs).mp h.noTag
  case noEscape =>
    have hnoEscape := h.noEscape
    simp [List.infix_cons_iff, List.cons_prefix_cons, hnoEscape]
  case noEmoji =>
    have hcode : emojiCode? [] (' ' :: cs) = none := rfl
    have hreplace := h.noEmoji
    unfold replaceEmoji at hreplace ⊢
    show replaceEmojiWithin (cs.length + 12) ("tablebench: ".toList ++ cs) = _
    simp [replaceEmojiWithin, hcode, hreplace]
  case noControl =>
    rw [List.all_append, h.noControl]
    rfl

/-! ## Plain texts -/

/-- Printable ASCII without what begins a tag, an escape or the name of an emoji. -/
def isPlain (c : Char) : Bool := ' ' ≤ c && c ≤ '~' && !([':', '[', '\\'].contains c)

theorem isPlain_iff {c : Char} : isPlain c = true ↔ (' ' ≤ c ∧ c ≤ '~') ∧ c ≠ ':' ∧ c ≠ '[' ∧ c ≠ '\\' := by
  simp [isPlain]

theorem nextTag?_of_plain (h : ∀ c ∈ cs, isPlain c = true) (text : List Char) : nextTag? text 0 cs = none := by
  induction cs generalizing text with
  | nil => rfl
  | cons c cs ih =>
    obtain ⟨hc, hcs⟩ := List.forall_mem_cons.mp h
    obtain ⟨-, -, hbracket, hbackslash⟩ := isPlain_iff.mp hc
    rw [nextTag?.eq_4 _ _ _ _ hbackslash hbracket]
    exact ih hcs _

theorem replaceEmojiWithin_of_plain (h : ∀ c ∈ cs, isPlain c = true) (fuel : Nat) :
    replaceEmojiWithin fuel cs = cs := by
  induction cs generalizing fuel with
  | nil => cases fuel <;> rfl
  | cons c cs ih =>
    obtain ⟨hc, hcs⟩ := List.forall_mem_cons.mp h
    cases fuel with
    | zero => rfl
    | succ fuel => rw [replaceEmojiWithin, if_neg (isPlain_iff.mp hc).2.1, ih hcs]

/-- **A plain text shows itself**, whatever the names of emoji and of colors are. -/
theorem shownAsIs_of_plain (h : ∀ c ∈ cs, isPlain c = true) : ShownAsIs cs where
  noTag := nextTag?_of_plain h []
  noEscape := by
    rintro ⟨before, after, rfl⟩
    exact (isPlain_iff.mp (h '[' (by simp))).2.2.1 rfl
  noEmoji := replaceEmojiWithin_of_plain h _
  noControl := by
    refine List.all_eq_true.mpr fun c hc => ?_
    have hprintable : 32 ≤ c.toNat := (isPlain_iff.mp (h c hc)).1.1
    simp [isDroppedControl]
    omega

end RenderBench.Terminal
