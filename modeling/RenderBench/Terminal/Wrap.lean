import RenderBench.Terminal.Markup
import RenderBench.Text.CellWidth

/-!
# `Terminal.Wrap` — text in lines of a given width

Text is broken into lines between words; a word that is too long for a line is broken itself or cut off.
A line is brought to its full width by blanks on its left, its right, or both.

## Contents
- `width`: the columns of styled text.
- `wrapLine`, `wrapText`: lines.
- `Align`, `aligned`: lines of full width.
- `painted`: a line with its escapes.
-/

namespace RenderBench.Terminal

def width (cs : List StyledChar) : Nat := cellLength (cs.map StyledChar.char)

def isBlankChar (c : StyledChar) : Bool := isBlank c.char

def dropBlankEnd (cs : List StyledChar) : List StyledChar :=
  (cs.reverse.dropWhile isBlankChar).reverse

def blanks (n : Nat) : List StyledChar := plainChars (List.replicate n ' ')

/-! ## Words -/

/-- A word with the blanks after it, and what follows. -/
def takeWord (cs : List StyledChar) : List StyledChar × List StyledChar :=
  let (word, rest) := cs.span fun c => !isBlankChar c
  let (gap, rest) := rest.span isBlankChar
  (word ++ gap, rest)

/-- The words of a line with the blanks after them; `fuel` bounds their number. -/
def wordsWithin : Nat → List StyledChar → List (List StyledChar)
  | 0, _ => []
  | fuel + 1, cs =>
    if cs.isEmpty then []
    else
      let (word, rest) := takeWord cs
      word :: wordsWithin fuel rest

/-- The words of a line; blanks at its beginning belong to the first one. -/
def wordsOf (cs : List StyledChar) : List (List StyledChar) :=
  let (indent, rest) := cs.span isBlankChar
  match wordsWithin (rest.length + 1) rest with
  | [] => []
  | w :: ws => (indent ++ w) :: ws

/-! ## Lines -/

/-- A word broken into pieces that fit. -/
def breakWord (limit : Nat) (piece : List StyledChar) :
    List StyledChar → List (List StyledChar)
  | [] => [piece.reverse]
  | c :: cs =>
    if limit < width piece + cellWidth c.char then piece.reverse :: breakWord limit [c] cs
    else breakWord limit (c :: piece) cs

/-- The lines so far, the current one being built. -/
structure Lines where
  done : List (List StyledChar) := []
  current : List StyledChar := []

/-- One more word: on the current line if it fits there, else on the next one. A word that fits on no line
    is broken, or else stands on a line of its own. -/
def Lines.add (limit : Nat) (breaking : Bool) (ls : Lines) (word : List StyledChar) : Lines :=
  let wordWidth := width (dropBlankEnd word)
  if width ls.current + wordWidth ≤ limit then { ls with current := ls.current ++ word }
  else
    let next (current : List StyledChar) : Lines :=
      ⟨if ls.current.isEmpty then ls.done else ls.done ++ [ls.current], current⟩
    if limit < wordWidth ∧ breaking then
      let pieces := breakWord limit [] word
      let ls := next []
      { ls with
        done := ls.done ++ pieces.dropLast
        current := pieces.getLast?.getD [] }
    else next word

/-- A line broken into lines of limited width. -/
def wrapLine (limit : Nat) (breaking : Bool) (cs : List StyledChar) : List (List StyledChar) :=
  let ls := (wordsOf cs).foldl (Lines.add limit breaking) {}
  if ls.done.isEmpty && ls.current.isEmpty then [cs] else ls.done ++ [ls.current]

/-- The lines of a text between its line ends. -/
def splitLines (cs : List StyledChar) : List (List StyledChar) :=
  cs.splitOnP fun c => c.char == '\n'

/-- Tabs filled up with blanks to the next multiple of eight columns. -/
def expandTabs (column : Nat) : List StyledChar → List StyledChar
  | [] => []
  | c :: cs =>
    if c.char = '\t' then
      let n := 8 - column % 8
      List.replicate n { c with char := ' ' } ++ expandTabs (column + n) cs
    else c :: expandTabs (column + cellWidth c.char) cs

/-! ## Full lines -/

inductive Align where
  | left
  | center
  | right
  deriving DecidableEq

/-- As many characters as fit into so many columns. -/
def fitting (limit : Nat) : List StyledChar → List StyledChar
  | [] => []
  | c :: cs =>
    let w := cellWidth c.char
    if w ≤ limit then c :: fitting (limit - w) cs else []

/-- A text cut to a width; a dotted end tells that something is missing, if there is to be one. -/
def cut (limit : Nat) (dotted : Bool) (cs : List StyledChar) : List StyledChar :=
  if width cs ≤ limit then cs
  else if dotted then
    let kept := fitting (limit - 1) cs
    kept ++ blanks (limit - 1 - width kept) ++ plainChars ['…']
  else
    let kept := fitting limit cs
    kept ++ blanks (limit - width kept)

/-- A line brought to a width. -/
def aligned (limit : Nat) (align : Align) (dotted : Bool) (cs : List StyledChar) :
    List StyledChar :=
  match align with
  | .left =>
    let line := cut limit dotted cs
    line ++ blanks (limit - width line)
  | .right =>
    let line := cut limit dotted (dropBlankEnd cs)
    blanks (limit - width line) ++ line
  | .center =>
    let line := cut limit dotted (dropBlankEnd cs)
    let gap := limit - width line
    blanks (gap / 2) ++ line ++ blanks (gap - gap / 2)

/-- The lines of a text, broken to a width and aligned. -/
def wrapText (limit : Nat) (align : Align) (breaking dotted : Bool) (cs : List StyledChar) :
    List (List StyledChar) :=
  (splitLines cs).flatMap fun line =>
    (wrapLine limit breaking (expandTabs 0 line)).map (aligned limit align dotted)

/-! ## Escapes -/

/-- A line in a style: characters inside the same tags stand together. -/
def painted (escapes : Bool) (base : Style) (cs : List StyledChar) : String :=
  let text (run : List StyledChar) : String := String.ofList (run.map StyledChar.char)
  if !escapes then text cs
  else
    String.join ((cs.splitBy fun a b => a.marks.map Prod.fst == b.marks.map Prod.fst).map
      fun run =>
        let marks := (run.head?.map StyledChar.marks).getD []
        (marks.foldl (fun s m => m.2.onto s) base).paint (text run))

end RenderBench.Terminal
