import Mathlib.Data.List.TakeDrop
import Mathlib.Data.List.TakeWhile
import RenderBench.Terminal.Wrap

/-!
# `Proofs.Terminal.Wrap` — broken lines keep what they show

Breaking a text into lines cuts it between its characters, and aligning a line puts blanks around it and takes blanks
off its end. Where a line has room for two columns no character is too wide for it, so that nothing has to be cut off:
the characters that are not blank come out of the lines as they stood in the text.

## Contents
- `inked`: the characters that are not blank.
- `flatten_wordsWithin`, `flatten_breakWord`: words and pieces of words.
- `Lines.Added`, `Lines.all_add`, `Lines.fits_add`: what one more word does to the lines so far.
- `wrapLine_spec`: the lines of a line.
- `inked_wrapText`: a text in centred lines.
-/

namespace RenderBench.Terminal

variable {limit : Nat} {cs ds : List StyledChar}

/-! ## What is shown -/

/-- The characters that are not blank. -/
def inked (cs : List StyledChar) : List StyledChar := cs.filter fun c => !isBlankChar c

@[simp] theorem inked_nil : inked [] = [] := rfl

@[simp] theorem inked_append (cs ds : List StyledChar) : inked (cs ++ ds) = inked cs ++ inked ds :=
  List.filter_append ..

theorem inked_cons (c : StyledChar) (cs : List StyledChar) : inked (c :: cs) = inked [c] ++ inked cs :=
  inked_append [c] cs

theorem inked_eq_nil_iff : inked cs = [] ↔ ∀ c ∈ cs, isBlankChar c = true := by
  simp only [inked, List.filter_eq_nil_iff, Bool.not_eq_true', Bool.not_eq_false]

@[simp] theorem inked_blanks (n : Nat) : inked (blanks n) = [] := by
  rw [inked_eq_nil_iff]
  intro c hc
  obtain ⟨d, hd, rfl⟩ := List.mem_map.mp hc
  rw [List.eq_of_mem_replicate hd]
  rfl

/-- The blanks at the end show nothing. -/
theorem inked_dropBlankEnd (cs : List StyledChar) : inked (dropBlankEnd cs) = inked cs := by
  have hsplit : dropBlankEnd cs ++ (cs.reverse.takeWhile isBlankChar).reverse = cs := by
    rw [dropBlankEnd, ← List.reverse_append, List.takeWhile_append_dropWhile, List.reverse_reverse]
  have hblank : inked (cs.reverse.takeWhile isBlankChar).reverse = [] := by
    rw [inked_eq_nil_iff]
    intro c hc
    exact List.all_eq_true.mp List.all_takeWhile c (List.mem_reverse.mp hc)
  have hinked := congrArg inked hsplit
  rwa [inked_append, hblank, List.append_nil] at hinked

theorem inked_expandTabs (column : Nat) (cs : List StyledChar) : inked (expandTabs column cs) = inked cs := by
  induction cs generalizing column with
  | nil => rfl
  | cons c cs ih =>
    unfold expandTabs
    dsimp only
    split
    · next htab =>
      have hblank : inked (List.replicate (8 - column % 8) { c with char := ' ' }) = [] := by
        rw [inked_eq_nil_iff]
        intro d hd
        rw [List.eq_of_mem_replicate hd]
        rfl
      have hc : inked [c] = [] := by
        rw [inked_eq_nil_iff]
        intro d hd
        rw [List.mem_singleton.mp hd, isBlankChar, htab]
        rfl
      rw [inked_append, hblank, ih, inked_cons c, hc]
    · rw [inked_cons c, inked_cons c cs, ih]

theorem inked_splitLines (cs : List StyledChar) : inked (splitLines cs).flatten = inked cs := by
  induction cs with
  | nil => rfl
  | cons c cs ih =>
    unfold splitLines at ih ⊢
    rw [List.splitOnP_cons_eq_if_modifyHead]
    split
    · next hend =>
      have hc : inked [c] = [] := by
        rw [inked_eq_nil_iff]
        intro d hd
        rw [List.mem_singleton.mp hd, isBlankChar, beq_iff_eq.mp hend]
        rfl
      rw [List.flatten_cons, List.nil_append, ih, inked_cons c, hc, List.nil_append]
    · obtain ⟨line, lines, hlines⟩ := List.exists_cons_of_ne_nil (List.splitOnP_ne_nil (fun c => c.char == '\n') cs)
      rw [hlines] at ih ⊢
      rw [List.modifyHead_cons, List.flatten_cons, List.cons_append, inked_cons c, ← List.flatten_cons, ih,
        ← inked_cons]

/-! ## Widths -/

theorem cellWidth_le (c : Char) : cellWidth c ≤ 2 := by
  unfold cellWidth
  dsimp only
  split
  · omega
  · split
    · omega
    · split
      · omega
      · split
        · omega
        · split <;> omega

theorem width_append (cs ds : List StyledChar) : width (cs ++ ds) = width cs + width ds := by
  have hfold (es : List Char) (n : Nat) : es.foldl (fun n c => n + cellWidth c) n = n + cellLength es := by
    unfold cellLength
    induction es generalizing n with
    | nil => rfl
    | cons e es ih => rw [List.foldl_cons, List.foldl_cons, ih, ih (0 + cellWidth e), Nat.zero_add, Nat.add_assoc]
  unfold width
  rw [List.map_append, cellLength, List.foldl_append, hfold]
  rfl

theorem width_singleton (c : StyledChar) : width [c] = cellWidth c.char := Nat.zero_add _

theorem width_reverse (cs : List StyledChar) : width cs.reverse = width cs := by
  induction cs with
  | nil => rfl
  | cons c cs ih => rw [List.reverse_cons, width_append, ih, Nat.add_comm, ← width_append, List.singleton_append]

/-- Of what is joined, only the blanks at the end of the second part are off the end. -/
theorem width_dropBlankEnd_append_le (cs ds : List StyledChar) :
    width (dropBlankEnd (cs ++ ds)) ≤ width cs + width (dropBlankEnd ds) := by
  have hle (es : List StyledChar) : width (dropBlankEnd es) ≤ width es := by
    have hsplit : width (es.reverse.takeWhile isBlankChar ++ es.reverse.dropWhile isBlankChar) = width es := by
      rw [List.takeWhile_append_dropWhile, width_reverse]
    rw [dropBlankEnd, width_reverse, ← hsplit, width_append]
    exact Nat.le_add_left ..
  unfold dropBlankEnd
  rw [List.reverse_append, List.dropWhile_append]
  split
  · exact Nat.le_trans (hle cs) (Nat.le_add_right ..)
  · rw [List.reverse_append, List.reverse_reverse, width_append]

/-! ## Words -/

theorem takeWord_append (cs : List StyledChar) : (takeWord cs).1 ++ (takeWord cs).2 = cs := by
  unfold takeWord
  simp only [List.span_eq_takeWhile_dropWhile, List.append_assoc, List.takeWhile_append_dropWhile]

/-- A word takes at least one character. -/
theorem takeWord_ne_nil (h : cs ≠ []) : (takeWord cs).1 ≠ [] := by
  obtain ⟨c, cs, rfl⟩ := List.exists_cons_of_ne_nil h
  unfold takeWord
  simp only [List.span_eq_takeWhile_dropWhile]
  cases hc : isBlankChar c <;> simp [hc]

theorem flatten_wordsWithin {fuel : Nat} (h : cs.length < fuel) : (wordsWithin fuel cs).flatten = cs := by
  induction fuel generalizing cs with
  | zero => exact absurd h (Nat.not_lt_zero _)
  | succ fuel ih =>
    unfold wordsWithin
    split
    · next hempty => rw [List.isEmpty_iff.mp hempty, List.flatten_nil]
    · next hne =>
      have hword := takeWord_append cs
      have hpos := List.length_pos_iff.mpr (takeWord_ne_nil (mt List.isEmpty_iff.mpr hne))
      have hlength := congrArg List.length hword
      rw [List.length_append] at hlength
      rw [List.flatten_cons, ih (by omega), hword]

theorem inked_wordsOf (cs : List StyledChar) : inked (wordsOf cs).flatten = inked cs := by
  have hsplit : cs.takeWhile isBlankChar ++ cs.dropWhile isBlankChar = cs := List.takeWhile_append_dropWhile
  -- the blanks at the front are put before the first word, or left out
  have hindent : inked (cs.takeWhile isBlankChar) = [] :=
    inked_eq_nil_iff.mpr fun c hc => List.all_eq_true.mp List.all_takeWhile c hc
  have hwords := flatten_wordsWithin (Nat.lt_succ_self (cs.dropWhile isBlankChar).length)
  have hinked : inked (cs.dropWhile isBlankChar) = inked cs := by
    rw [← congrArg inked hsplit, inked_append, hindent, List.nil_append]
  unfold wordsOf
  simp only [List.span_eq_takeWhile_dropWhile]
  split
  · next hnone =>
    rw [hnone] at hwords
    rw [← hinked, ← hwords]
  · next w ws hsome =>
    rw [hsome] at hwords
    rw [List.flatten_cons, List.append_assoc, ← List.flatten_cons, hwords, inked_append, hindent, hinked,
      List.nil_append]

/-! ## Pieces of a word -/

theorem breakWord_ne_nil (limit : Nat) (piece cs : List StyledChar) : breakWord limit piece cs ≠ [] := by
  induction cs generalizing piece with
  | nil => exact List.cons_ne_nil _ _
  | cons c cs ih =>
    unfold breakWord
    split
    · exact List.cons_ne_nil _ _
    · exact ih _

theorem flatten_breakWord (limit : Nat) (piece cs : List StyledChar) :
    (breakWord limit piece cs).flatten = piece.reverse ++ cs := by
  induction cs generalizing piece with
  | nil => simp only [breakWord, List.flatten_cons, List.flatten_nil, List.append_nil]
  | cons c cs ih =>
    unfold breakWord
    split
    · rw [List.flatten_cons, ih, List.reverse_singleton, List.singleton_append]
    · rw [ih, List.reverse_cons, List.append_assoc, List.singleton_append]

theorem width_breakWord_le (hlimit : 2 ≤ limit) {piece line : List StyledChar} (hpiece : width piece ≤ limit)
    (h : line ∈ breakWord limit piece cs) : width line ≤ limit := by
  induction cs generalizing piece with
  | nil =>
    rw [List.mem_singleton.mp h, width_reverse]
    exact hpiece
  | cons c cs ih =>
    have hc := cellWidth_le c.char
    unfold breakWord at h
    split at h
    · rcases List.mem_cons.mp h with rfl | h
      · rwa [width_reverse]
      · -- the next piece begins with one character, which takes two cells at most
        exact ih (by rw [width_singleton]; omega) h
    · next hfits =>
      refine ih ?_ h
      rw [← List.singleton_append, width_append, width_singleton]
      omega

/-! ## Lines -/

/-- The characters of all lines. -/
def Lines.all (ls : Lines) : List StyledChar := ls.done.flatten ++ ls.current

/-- A line that is not too long, but for blanks at its end. -/
def FitsIn (limit : Nat) (line : List StyledChar) : Prop := width (dropBlankEnd line) ≤ limit

theorem fitsIn_of_width_le (h : width cs ≤ limit) : FitsIn limit cs := by
  have hle := width_dropBlankEnd_append_le cs []
  rw [List.append_nil] at hle
  exact Nat.le_trans hle h

/-- Lines none of which is too long. -/
structure Lines.Fits (limit : Nat) (ls : Lines) : Prop where
  done : ∀ line ∈ ls.done, FitsIn limit line
  current : FitsIn limit ls.current

/-- The line that was built is done, unless it is empty. -/
def Lines.close (ls : Lines) : List (List StyledChar) :=
  if ls.current.isEmpty then ls.done else ls.done ++ [ls.current]

theorem Lines.flatten_close (ls : Lines) : ls.close.flatten = ls.all := by
  unfold Lines.close Lines.all
  split
  · next hempty => rw [List.isEmpty_iff.mp hempty, List.append_nil]
  · rw [List.flatten_append, List.flatten_cons, List.flatten_nil, List.append_nil]

theorem Lines.Fits.close {ls : Lines} (h : ls.Fits limit) : ∀ line ∈ ls.close, FitsIn limit line := by
  unfold Lines.close
  split
  · exact h.done
  · intro line hline
    rcases List.mem_append.mp hline with hdone | hcurrent
    · exact h.done line hdone
    · exact List.mem_singleton.mp hcurrent ▸ h.current

/-- What one more word does to the lines. -/
inductive Lines.Added (limit : Nat) (ls : Lines) (word : List StyledChar) : Lines → Prop
  | here (fits : width ls.current + width (dropBlankEnd word) ≤ limit) :
      Added limit ls word { ls with current := ls.current ++ word }
  | next (fits : width (dropBlankEnd word) ≤ limit) : Added limit ls word ⟨ls.close, word⟩
  | broken {pieces : List (List StyledChar)} {last : List StyledChar}
      (split : pieces ++ [last] = breakWord limit [] word) : Added limit ls word ⟨ls.close ++ pieces, last⟩

theorem Lines.added_add (limit : Nat) (ls : Lines) (word : List StyledChar) :
    Lines.Added limit ls word (ls.add limit true word) := by
  unfold Lines.add
  dsimp only
  split
  · next hfits => exact .here hfits
  · split
    · have hne := breakWord_ne_nil limit [] word
      rw [List.getLast?_eq_some_getLast hne]
      exact .broken (List.dropLast_concat_getLast hne)
    · next hbroken => exact .next (by simpa using hbroken)

theorem Lines.all_add (limit : Nat) (ls : Lines) (word : List StyledChar) :
    (ls.add limit true word).all = ls.all ++ word := by
  have hadded := ls.added_add limit word
  generalize ls.add limit true word = after at hadded ⊢
  cases hadded with
  | here fits => exact (List.append_assoc ..).symm
  | next fits => rw [Lines.all, ls.flatten_close]
  | broken hsplit =>
    have hflat := congrArg List.flatten hsplit
    rw [flatten_breakWord, List.flatten_append, List.flatten_singleton] at hflat
    rw [Lines.all, List.flatten_append, ls.flatten_close, List.append_assoc, hflat]
    rfl

theorem Lines.fits_add (hlimit : 2 ≤ limit) {ls : Lines} (h : ls.Fits limit) (word : List StyledChar) :
    (ls.add limit true word).Fits limit := by
  have hadded := ls.added_add limit word
  generalize ls.add limit true word = after at hadded ⊢
  cases hadded with
  | here fits => exact ⟨h.done, Nat.le_trans (width_dropBlankEnd_append_le _ _) fits⟩
  -- the line so far is closed, and the word begins the next one
  | next fits => exact ⟨h.close, fits⟩
  | @broken pieces last hsplit =>
    have hpieces (line : List StyledChar) (hline : line ∈ pieces ++ [last]) : FitsIn limit line :=
      fitsIn_of_width_le (width_breakWord_le hlimit (Nat.zero_le _) (hsplit ▸ hline))
    constructor
    · intro line hline
      rcases List.mem_append.mp hline with hdone | hpiece
      · exact h.close line hdone
      · exact hpieces line (List.mem_append_left _ hpiece)
    · exact hpieces last (List.mem_append_right _ List.mem_cons_self)

theorem Lines.foldl_add (hlimit : 2 ≤ limit) {ls : Lines} (h : ls.Fits limit) (words : List (List StyledChar)) :
    (words.foldl (Lines.add limit true) ls).all = ls.all ++ words.flatten ∧
      (words.foldl (Lines.add limit true) ls).Fits limit := by
  induction words generalizing ls with
  | nil => exact ⟨(List.append_nil _).symm, h⟩
  | cons word words ih =>
    obtain ⟨hall, hfits⟩ := ih (Lines.fits_add hlimit h word)
    rw [Lines.all_add, List.append_assoc, ← List.flatten_cons] at hall
    exact ⟨hall, hfits⟩

/-- **The lines of a line** show what it shows, and none is too long. -/
theorem wrapLine_spec (hlimit : 2 ≤ limit) (cs : List StyledChar) :
    inked (wrapLine limit true cs).flatten = inked cs ∧ ∀ line ∈ wrapLine limit true cs, FitsIn limit line := by
  have hstart : Lines.Fits limit {} := ⟨nofun, Nat.zero_le _⟩
  obtain ⟨hall, hfits⟩ := Lines.foldl_add hlimit hstart (wordsOf cs)
  have hinked := inked_wordsOf cs
  rw [show (wordsOf cs).flatten = _ from hall.symm] at hinked
  unfold wrapLine
  generalize (wordsOf cs).foldl (Lines.add limit true) {} = ls at hfits hinked ⊢
  dsimp only
  split
  · -- nothing but blanks
    next hempty =>
    obtain ⟨hdone, hcurrent⟩ := Bool.and_eq_true_iff.mp hempty
    have hblank : inked cs = [] := by
      rw [← hinked, Lines.all, List.isEmpty_iff.mp hdone, List.isEmpty_iff.mp hcurrent]
      rfl
    refine ⟨by rw [List.flatten_singleton], fun line hline => ?_⟩
    have hall : ∀ c ∈ cs.reverse, isBlankChar c = true := fun c hc =>
      inked_eq_nil_iff.mp hblank c (List.mem_reverse.mp hc)
    have hnone : cs.reverse.dropWhile isBlankChar = [] := List.dropWhile_eq_nil_iff.mpr hall
    rw [List.mem_singleton.mp hline, FitsIn, dropBlankEnd, hnone]
    exact Nat.zero_le _
  · refine ⟨?_, ?_⟩
    · rw [← hinked, Lines.all, List.flatten_append, List.flatten_singleton]
    · intro line hline
      rcases List.mem_append.mp hline with hdone | hcurrent
      · exact hfits.done line hdone
      · exact List.mem_singleton.mp hcurrent ▸ hfits.current

/-! ## Centred lines -/

/-- Nothing is cut off a line that is not too long. -/
theorem inked_aligned_center (h : FitsIn limit cs) (dotted : Bool) :
    inked (aligned limit .center dotted cs) = inked cs := by
  have hcut : cut limit dotted (dropBlankEnd cs) = dropBlankEnd cs := if_pos h
  unfold aligned
  simp only [hcut, inked_append, inked_blanks, List.nil_append, List.append_nil, inked_dropBlankEnd]

theorem inked_flatten_map {f : List StyledChar → List StyledChar} {lines : List (List StyledChar)}
    (h : ∀ line ∈ lines, inked (f line) = inked line) : inked (lines.map f).flatten = inked lines.flatten := by
  induction lines with
  | nil => rfl
  | cons line lines ih =>
    rw [List.map_cons, List.flatten_cons, List.flatten_cons, inked_append, inked_append, h line List.mem_cons_self,
      ih fun l hl => h l (List.mem_cons_of_mem _ hl)]

/-- **A text in centred lines shows what it shows in one.** -/
theorem inked_wrapText (hlimit : 2 ≤ limit) (dotted : Bool) (cs : List StyledChar) :
    inked (wrapText limit .center true dotted cs).flatten = inked cs := by
  rw [← inked_splitLines cs, wrapText]
  induction splitLines cs with
  | nil => rfl
  | cons line lines ih =>
    obtain ⟨hinked, hfits⟩ := wrapLine_spec hlimit (expandTabs 0 line)
    have haligned := inked_flatten_map fun l hl => inked_aligned_center (hfits l hl) dotted
    rw [List.flatMap_cons, List.flatten_append, inked_append, ih, haligned, hinked, inked_expandTabs, List.flatten_cons,
      inked_append]

end RenderBench.Terminal
