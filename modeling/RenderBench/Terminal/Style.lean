import RenderBench.Number.Decimal
import RenderBench.Text.Blank
import RenderBench.Text.CaseMap

/-!
# `Terminal.Style` — how text looks on a terminal

A style turns attributes on or off and may set one of sixteen colors for the text and its background. Text
in a style stands between two escape sequences.

## Contents
- `Attribute`, `Style`: styles; `Style.onto`: one on top of another.
- `Style.ofWords?`: a style by the words that describe it.
- `Style.paint`: text in a style.
-/

namespace RenderBench.Terminal

inductive Attribute where
  | bold
  | dim
  | italic
  | underline
  | blink
  | fastBlink
  | reversed
  | concealed
  | strike
  | doubleUnderline
  | framed
  | encircled
  | overline
  deriving DecidableEq

namespace Attribute

/-- All attributes with their codes, in the order the codes are written in. -/
def codes : List (Attribute × Nat) :=
  [(bold, 1), (dim, 2), (italic, 3), (underline, 4), (blink, 5), (fastBlink, 6), (reversed, 7),
   (concealed, 8), (strike, 9), (doubleUnderline, 21), (framed, 51), (encircled, 52),
   (overline, 53)]

/-- The words for attributes. -/
def words : List (String × Attribute) :=
  [("bold", bold), ("b", bold), ("dim", dim), ("d", dim), ("italic", italic), ("i", italic),
   ("underline", underline), ("u", underline), ("blink", blink), ("blink2", fastBlink),
   ("reverse", reversed), ("r", reversed), ("conceal", concealed), ("c", concealed),
   ("strike", strike), ("s", strike), ("underline2", doubleUnderline), ("uu", doubleUnderline),
   ("frame", framed), ("encircle", encircled), ("overline", overline), ("o", overline)]

end Attribute

/-- The names of the first sixteen colors in the order of their numbers; the other 240 have names too, which are not
    in the list. -/
def colorNames : List String :=
  ["black", "red", "green", "yellow", "blue", "magenta", "cyan", "white", "bright_black",
   "bright_red", "bright_green", "bright_yellow", "bright_blue", "bright_magenta", "bright_cyan",
   "bright_white"]

inductive Color where
  | default
  | numbered (n : Nat)
  deriving DecidableEq

def Color.ofName? (name : String) : Option Color :=
  if name = "default" then some .default else (colorNames.idxOf? name).map .numbered

/-- The code of a color, given those of the first dark and bright one and of the default. -/
def Color.code (dark bright default : Nat) : Color → Nat
  | .default => default
  | .numbered n => if n < 8 then dark + n else bright + (n - 8)

structure Style where
  on : List Attribute := []
  off : List Attribute := []
  color : Option Color := none
  background : Option Color := none
  deriving DecidableEq

namespace Style

/-- Attributes in the order of their codes, each once. -/
def ordered (p : Attribute → Bool) : List Attribute := (Attribute.codes.map Prod.fst).filter p

/-- One style on top of another: what the upper one leaves open is as in the lower one. -/
def onto (upper lower : Style) : Style where
  on := ordered fun a => upper.on.contains a || (lower.on.contains a && !upper.off.contains a)
  off := ordered fun a => upper.off.contains a || (lower.off.contains a && !upper.on.contains a)
  color := upper.color.or lower.color
  background := upper.background.or lower.background

/-- A style from words, on top of the one from the words before them. -/
def ofWordsFrom (s : Style) : List String → Option Style
  | [] => some s
  | "not" :: w :: ws => do
    let a ← Attribute.words.lookup w
    ofWordsFrom (onto { off := [a] } s) ws
  | "on" :: w :: ws => do
    let c ← Color.ofName? w
    ofWordsFrom { s with background := some c } ws
  | w :: ws =>
    match Attribute.words.lookup w with
    | some a => ofWordsFrom (onto { on := [a] } s) ws
    | none => do
      let c ← Color.ofName? w
      ofWordsFrom { s with color := some c } ws

/-- The words of a text. -/
def splitWords (s : String) : List String :=
  ((s.toList.splitBy fun a b => isBlank a == isBlank b).filter fun w => !w.all isBlank).map String.ofList

/-- The style that words describe. -/
def ofWords? (s : String) : Option Style :=
  match splitWords s with
  | [] => some {}
  | ["none"] => some {}
  | ws => ofWordsFrom {} (ws.map lower)

/-- The codes of a style. -/
def codes (s : Style) : List Nat :=
  (Attribute.codes.filterMap fun (a, n) => if s.on.contains a then some n else none) ++
    (s.color.map (Color.code 30 90 39)).toList ++ (s.background.map (Color.code 40 100 49)).toList

/-- Text in a style; no text and no style need no escapes. -/
def paint (s : Style) (text : String) : String :=
  if text.isEmpty || s.codes.isEmpty then text
  else
    "\x1b[" ++ String.intercalate ";" (s.codes.map natText) ++ "m" ++ text ++ "\x1b[0m"

end Style

end RenderBench.Terminal
