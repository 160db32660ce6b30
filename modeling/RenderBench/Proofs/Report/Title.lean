import Mathlib.Data.String.Basic
import RenderBench.Proofs.Report.Details
import RenderBench.Proofs.Terminal.Markup
import RenderBench.Proofs.Terminal.Wrap

/-!
# `Proofs.Report.Title` — the title above the table of a session

The title is read as markup. If that fails, so does the table, and nothing else keeps a result in range from having one.
Otherwise what stands above the frame shows the characters that reading the title gives, in as many lines as it takes; a
label of plain characters is shown as it is.

## Contents
- `titleChars`, `visible`: what stands above the frame, and what can be seen of it.
- `detailsText_of_error`, `visible_titleChars`: the table for a title that fails and for one that is read.
- `detailsText_title`: the title for every plain label; `label_refused`: a label that is not shown.
-/

namespace RenderBench

open Terminal

/-- The corner of the frame, with which it begins. -/
def frameCorner : Char := '╭'

/-- What stands above the frame of a table. -/
def titleChars (text : String) : List Char := text.toList.takeWhile (· != frameCorner)

/-- The characters that are not blank. -/
def visible (cs : List Char) : List Char := cs.filter fun c => !isBlank c

theorem visible_append (cs ds : List Char) : visible (cs ++ ds) = visible cs ++ visible ds := List.filter_append ..

theorem visible_map_char (cs : List StyledChar) : visible (cs.map StyledChar.char) = (inked cs).map StyledChar.char :=
  List.filter_map

/-! ## Lines above the frame -/

/-- Lines without escapes, each with its end. -/
def plainLines (lines : List (List StyledChar)) : List Char :=
  lines.flatMap fun line => line.map StyledChar.char ++ ['\n']

theorem visible_plainLines (lines : List (List StyledChar)) :
    visible (plainLines lines) = (inked lines.flatten).map StyledChar.char := by
  have hend : visible ['\n'] = [] := rfl
  induction lines with
  | nil => rfl
  | cons line lines ih =>
    unfold plainLines at ih ⊢
    rw [List.flatMap_cons, visible_append, visible_append, ih, hend, visible_map_char, List.append_nil,
      List.flatten_cons, inked_append, List.map_append]

theorem titleChars_of_toList {text : String} {lines : List (List StyledChar)} {rest : List Char}
    (hcorner : frameCorner ∉ visible (plainLines lines))
    (htext : text.toList = plainLines lines ++ frameCorner :: rest) :
    titleChars text = plainLines lines := by
  have habove : ∀ c ∈ plainLines lines, (c != frameCorner) = true := by
    intro c hc
    rw [bne_iff_ne]
    rintro rfl
    exact hcorner (List.mem_filter.mpr ⟨hc, rfl⟩)
  rw [titleChars, htext, List.takeWhile_append_of_pos habove, List.takeWhile_cons_of_neg (by simp), List.append_nil]

theorem toList_join_lines (style : Style) {frame : String} {bar : List Char}
    (hframe : frame.toList = frameCorner :: bar) (lines : List (List StyledChar)) (others : List String) :
    (String.join ((lines.map (painted false style) ++ frame :: others).map fun line => line ++ "\n")).toList =
      plainLines lines ++
        frameCorner :: (bar ++ '\n' :: (String.join (others.map fun line => line ++ "\n")).toList) := by
  have hline (line : List StyledChar) :
      (painted false style line ++ "\n").toList = line.map StyledChar.char ++ ['\n'] := by
    rw [String.toList_append, painted, Bool.not_false, if_pos rfl, String.toList_ofList]
    rfl
  induction lines with
  | nil =>
    rw [List.map_nil, List.nil_append, List.map_cons, String.join_cons, String.toList_append, String.toList_append,
      hframe]
    simp [plainLines]
  | cons line lines ih =>
    unfold plainLines at ih ⊢
    rw [List.map_cons, List.cons_append, List.map_cons, String.join_cons, String.toList_append, hline, ih,
      List.flatMap_cons, List.append_assoc (line.map StyledChar.char ++ ['\n'])]

theorem toList_frameLine (middle right : String) (widths : Nat × Nat) :
    ∃ bar, (frameLine "╭" middle right widths).toList = frameCorner :: bar := by
  simp [frameLine, frameCorner]

/-- No emoji is a corner. -/
theorem neutral_corner : Neutral (· ≠ frameCorner) where
  opening := by decide
  closing := by decide
  backslash := by decide
  colon := by decide
  emoji := by decide
  variants := by decide

/-! ## The table -/

variable {r : SessionResult} {k : Nat}

def titleSource (r : SessionResult) : String := "tablebench: " ++ r.label

theorem detailsText_of_error {e : MarkupError} (h : r.InRange k) (htitle : readMarkup (titleSource r) = .error e)
    (terminal : Nat) (escapes : Bool) : detailsText terminal escapes r = .error (.markup e) := by
  obtain ⟨rows, hrows⟩ := exists_detailsRows h
  unfold titleSource at htitle
  unfold detailsText
  rw [hrows, htitle]
  rfl

/-- The title stands above the frame in lines that are as wide as the frame. -/
theorem exists_toList_detailsText {title : List StyledChar} (h : r.InRange k)
    (htitle : readMarkup (titleSource r) = .ok title) (terminal : Nat) :
    ∃ text width rest, detailsText terminal false r = .ok text ∧ 2 ≤ width ∧
      text.toList = plainLines (wrapText width .center true false title) ++ frameCorner :: rest := by
  obtain ⟨rows, hrows⟩ := exists_detailsRows h
  unfold titleSource at htitle
  unfold detailsText
  rw [hrows, htitle]
  let widths := columnWidths terminal (.ofTexts "Metric" "Value" :: rows)
  have hwidth : 2 ≤ widths.1 + widths.2 + 3 := by omega
  obtain ⟨bar, hframe⟩ := toList_frameLine "┬" "╮" widths
  refine ⟨_, widths.1 + widths.2 + 3, ?rest, rfl, hwidth, ?above⟩
  case above =>
    simp only [List.append_assoc, List.singleton_append]
    exact toList_join_lines titleStyle hframe _ _

/-- **The title shows what reading it gives.** -/
theorem visible_titleChars {title : List StyledChar} (h : r.InRange k) (hcorner : frameCorner ∉ r.label.toList)
    (htitle : readMarkup (titleSource r) = .ok title) (terminal : Nat) :
    ∃ text, detailsText terminal false r = .ok text ∧
      visible (titleChars text) = visible (title.map StyledChar.char) := by
  obtain ⟨text, width, rest, htext, hwidth, hlist⟩ := exists_toList_detailsText h htitle terminal
  have hvisible : visible (plainLines (wrapText width .center true false title)) =
      visible (title.map StyledChar.char) := by
    rw [visible_plainLines, inked_wrapText hwidth, visible_map_char]
  have hshown : frameCorner ∉ title.map StyledChar.char := by
    have hsource : Everywhere (· ≠ frameCorner) (titleSource r).toList := by
      rw [titleSource, String.toList_append]
      exact everywhere_append.mpr ⟨by decide, fun c hc hcorner' => hcorner (hcorner' ▸ hc)⟩
    exact fun hmem => everywhere_readMarkup neutral_corner hsource htitle frameCorner hmem rfl
  refine ⟨text, htext, ?_⟩
  rw [titleChars_of_toList (fun hmem => hshown (List.mem_filter.mp (hvisible ▸ hmem)).1) hlist, hvisible]

/-- **The title of a session's table.** A label of plain characters never keeps a result in range from having a table,
    and the characters that can be seen above the frame are, in order, those of the heading and of the label, however
    wide the terminal is. -/
theorem detailsText_title {r : SessionResult} {k : Nat} (h : r.InRange k) (hlabel : ∀ c ∈ r.label.toList, isPlain c = true)
    (terminal : Nat) :
    (∀ escapes, ∃ text, detailsText terminal escapes r = .ok text) ∧
    ∃ text, detailsText terminal false r = .ok text ∧
      visible (titleChars text) = visible ("tablebench: ".toList ++ r.label.toList) := by
  have hsource : (titleSource r).toList = "tablebench: ".toList ++ r.label.toList := String.toList_append ..
  have htitle := readMarkup_of_shownAsIs (hsource ▸ (shownAsIs_of_plain hlabel).heading)
  have hcorner : frameCorner ∉ r.label.toList := fun hmem => absurd (hlabel _ hmem) (by decide)
  constructor
  · intro escapes
    unfold titleSource at htitle
    exact exists_detailsText h (by rw [htitle]; rfl) terminal escapes
  · obtain ⟨text, htext, hvisible⟩ := visible_titleChars h hcorner htitle terminal
    have hchars : (plainChars (titleSource r).toList).map StyledChar.char = (titleSource r).toList := by
      rw [plainChars, List.map_map]
      exact List.map_id _
    exact ⟨text, htext, by rw [hvisible, hchars, hsource]⟩

/-! ## Labels that are not shown -/

/-- A session of one run of a microsecond. -/
def labelledRun (label : String) : SessionResult :=
  { label, itemCount := 0, runCount := 1, samples := [1], min := 1, max := 1, average := 1 }

theorem inRange_labelledRun (label : String) : (labelledRun label).InRange 53 := by
  have hsamples : Within 53 [1] := by
    intro x hx
    rw [List.mem_singleton.mp hx]
    exact Nat.one_lt_two_pow (by decide)
  exact ⟨by decide, List.cons_ne_nil _ _, hsamples, fun p n hprofile => by cases hprofile⟩

/-- A label with a closing bracket, which is no tag by itself. -/
theorem detailsText_title_closing :
    ∃ text, detailsText 80 false (labelledRun "run 1/2 (a=b]") = .ok text ∧
      visible (titleChars text) = visible "tablebench: run 1/2 (a=b]".toList :=
  (detailsText_title (inRange_labelledRun "run 1/2 (a=b]") (List.all_eq_true.mp (by decide)) 80).2

/-- **A label is refused**: the slash in brackets closes a tag that was never opened, and there is no table. -/
theorem label_refused :
    (labelledRun "[/x]").InRange 53 ∧
      detailsText 80 false (labelledRun "[/x]") = .error (.markup ⟨.noOpenTag, "/x", 12⟩) := by
  refine ⟨inRange_labelledRun _, ?_⟩
  exact detailsText_of_error (inRange_labelledRun _) (by decide) 80 false

end RenderBench
