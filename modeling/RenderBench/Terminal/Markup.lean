import RenderBench.Terminal.Emoji
import RenderBench.Terminal.Style
import RenderBench.Text.Quoted

/-!
# `Terminal.Markup` — tags in text

A text may hold tags in brackets, which give a style to what follows up to the closing tag of the same
name. A bracket after a backslash, and one that no tag begins with, is text. Names between colons stand for
emoji.

## Contents
- `StyledChar`: a character with the tags around it.
- `MarkupPart`, `markupParts`: the text and the tags of a source.
- `readMarkup`: the characters with their styles; `MarkupError`.
-/

namespace RenderBench.Terminal

/-- A character with the numbers of the tags that are open around it, and their styles. -/
structure StyledChar where
  char : Char
  marks : List (Nat × Style) := []
  deriving DecidableEq

/-- Characters without any style of their own. -/
def plainChars (cs : List Char) : List StyledChar := cs.map fun c => { char := c }

inductive MarkupPart where
  | text (cs : List Char)
  /-- A tag with its content and where it begins. -/
  | tag (content : List Char) (position : Nat)

/-- Whether a character may begin a tag. -/
def beginsTag (c : Char) : Bool := ('a' ≤ c && c ≤ 'z') || c == '#' || c == '/' || c == '@'

/-- The content of a tag after its bracket, and what follows it. -/
def tagAt? (cs : List Char) : Option (List Char × List Char) :=
  match cs with
  | [] => none
  | c :: _ =>
    if beginsTag c then
      match cs.span fun d => d != ']' && d != '[' with
      | (content, ']' :: rest) => some (content, rest)
      | _ => none
    else none

/-- Text up to the next tag, with the backslashes right before it, its content and what follows it. -/
def nextTag? (text : List Char) (backslashes : Nat) :
    List Char → Option (List Char × Nat × List Char × List Char)
  | [] => none
  | '\\' :: cs => nextTag? text (backslashes + 1) cs
  | '[' :: cs =>
    match tagAt? cs with
    | some (content, rest) => some (text.reverse, backslashes, content, rest)
    | none => nextTag? ('[' :: List.replicate backslashes '\\' ++ text) 0 cs
  | c :: cs => nextTag? (c :: List.replicate backslashes '\\' ++ text) 0 cs

/-- Text in which no bracket is escaped any more. -/
def unescapeBrackets : List Char → List Char
  | '\\' :: '[' :: cs => '[' :: unescapeBrackets cs
  | c :: cs => c :: unescapeBrackets cs
  | [] => []

/-- The parts of a source from a position on. Two backslashes before a tag are one, and a single one makes
    text of the tag. -/
def partsFrom : Nat → Nat → List Char → List MarkupPart
  | 0, _, cs => [.text (unescapeBrackets cs)]
  | fuel + 1, position, cs =>
    match nextTag? [] 0 cs with
    | none => [.text (unescapeBrackets cs)]
    | some (text, backslashes, content, rest) =>
      let start := position + text.length
      let after := start + backslashes + content.length + 2
      let before := [MarkupPart.text (unescapeBrackets text),
        .text (unescapeBrackets (List.replicate (backslashes / 2) '\\'))]
      if backslashes % 2 = 1 then
        before ++ .text ('[' :: content ++ [']']) :: partsFrom fuel after rest
      else
        before ++ .tag content (start + 2 * (backslashes / 2)) :: partsFrom fuel after rest

def markupParts (source : String) : List MarkupPart :=
  partsFrom source.length 0 source.toList

inductive MarkupCause where
  | noOpenTag
  | nothingToClose
  deriving DecidableEq

/-- A closing tag that closes nothing. -/
structure MarkupError where
  cause : MarkupCause
  tag : String
  position : Nat
  deriving DecidableEq

def MarkupError.message (e : MarkupError) : String :=
  match e.cause with
  | .noOpenTag =>
    "closing tag '[" ++ e.tag ++ "]' at position " ++ natText e.position ++
      " doesn't match any open tag"
  | .nothingToClose =>
    "closing tag '[/]' at position " ++ natText e.position ++ " has nothing to close"

/-- What opening and closing tags are compared by: the style, or the name of one that is none. -/
inductive TagName where
  | style (s : Style)
  | other (name : String)
  deriving DecidableEq

def TagName.ofText (s : String) : TagName :=
  match Style.ofWords? s with
  | some look => .style look
  | none => .other (lower (strip s))

def TagName.toStyle : TagName → Style
  | .style s => s
  | .other _ => {}

/-- A tag that is open, with its number. -/
structure OpenTag where
  number : Nat
  name : TagName

/-- Controls that are left out of text. -/
def isDroppedControl (c : Char) : Bool := [7, 8, 11, 12, 13].contains c.toNat

/-- The characters of several parts with the tags around them; `opened` are the open tags, the latest
    first. -/
def readParts (number : Nat) (opened : List OpenTag) :
    List MarkupPart → Except MarkupError (List StyledChar)
  | [] => .ok []
  | .text cs :: parts => do
    let marks := opened.reverse.map fun t => (t.number, t.name.toStyle)
    let rest ← readParts number opened parts
    return ((replaceEmoji cs).filter fun c => !isDroppedControl c).map (fun c => ⟨c, marks⟩) ++ rest
  | .tag content position :: parts =>
    match content with
    | '/' :: closed =>
      let closed := closed.takeWhile (· != '=')
      if closed.all isBlank then
        match opened with
        | [] => .error ⟨.nothingToClose, String.ofList content, position⟩
        | _ :: outer => readParts number outer parts
      else
        let name := TagName.ofText (String.ofList (stripChars closed))
        match opened.find? fun t => t.name = name with
        | none => .error ⟨.noOpenTag, String.ofList content, position⟩
        | some t => readParts number (opened.filter fun u => u.number != t.number) parts
    | _ =>
      let name := TagName.ofText (String.ofList (content.takeWhile (· != '=')))
      readParts (number + 1) (⟨number, name⟩ :: opened) parts

/-- The characters of a source with their styles. -/
def readMarkup (source : String) : Except MarkupError (List StyledChar) :=
  readParts 0 [] (markupParts source)

end RenderBench.Terminal
