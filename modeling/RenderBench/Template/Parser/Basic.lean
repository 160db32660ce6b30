import RenderBench.Template.Syntax
import RenderBench.Template.Token

/-!
# `Template.Parser.Basic` — reading words one after the other

The parser looks at one current word and goes forward. A fault among the words is met when the parser gets
to it, so an earlier mistake of the document's structure is reported first.

## Contents
- `ParseState`, `Parse`: the state and its monad.
- `advance`, `look`, `skipSign`, `skipName`, `expectSign`, …: going forward.
- `iterate`: loops, bounded by the number of words left.
-/

namespace RenderBench.Template

structure ParseState where
  current : Token
  rest : List Lexeme
  /-- The tags that the open statements wait for, the innermost first. -/
  waiting : List (List String) := []
  /-- The names of the open statements, the innermost first. -/
  opened : List String := []

abbrev Parse := StateT ParseState (Except SyntaxFault)

namespace Parse

def current : Parse Token := return (← get).current

def kind : Parse TokenKind := return (← get).current.kind

def line : Parse Nat := return (← get).current.line

def failAt {α : Type} (line : Nat) (cause : SyntaxCause) : Parse α := throw ⟨line, cause⟩

/-- A fault on the line of the current word. -/
def fail {α : Type} (cause : SyntaxCause) : Parse α := do failAt (← line) cause

/-- Goes to the next word and gives the one that was current. After the last word comes the end, on the
    same line. -/
def advance : Parse Token := do
  let s ← get
  match s.rest with
  | [] => set { s with current := ⟨s.current.line, .finish⟩ }
  | .token t :: rest => set { s with current := t, rest }
  | .fault f :: _ => throw f
  return s.current

/-- The word after the current one. -/
def look : Parse TokenKind := do
  let s ← get
  match s.rest with
  | [] => return .finish
  | .token t :: _ => return t.kind
  | .fault f :: _ => throw f

/-- Whether the current word is a sign. -/
def isSign (s : Sign) : Parse Bool := return (← kind) == .sign s

/-- Whether the current word is a name. -/
def isName (n : String) : Parse Bool := return (← kind) == .name n

/-- Goes past a sign, if it is the current word. -/
def skipSign (s : Sign) : Parse Bool := do
  if ← isSign s then
    discard advance
    return true
  else return false

/-- Goes past a name, if it is the current word. -/
def skipName (n : String) : Parse Bool := do
  if ← isName n then
    discard advance
    return true
  else return false

/-- The fault of a word that is not the one wanted. -/
def unexpected {α : Type} (wanted : String) : Parse α := do
  match ← kind with
  | .finish => fail (.endedBefore wanted)
  | k => fail (.expectedToken wanted k.description)

def expectSign (s : Sign) : Parse Token := do
  if ← isSign s then advance else unexpected s.text

/-- Goes past any name and gives it. -/
def expectAnyName : Parse (Nat × String) := do
  match ← current with
  | ⟨line, .name n⟩ =>
    discard advance
    return (line, n)
  | _ => unexpected "name"

def expectName (n : String) : Parse Token := do
  if ← isName n then advance else unexpected n

def expectTagEnd : Parse Unit := do
  if (← kind) == .tagEnd then discard advance
  else unexpected (TokenKind.description .tagEnd)

def expectPrintEnd : Parse Unit := do
  if (← kind) == .printEnd then discard advance
  else unexpected (TokenKind.description .printEnd)

/-- More rounds than any loop over the words left can take. -/
def wordsLeft : Parse Nat := return (← get).rest.length + 2

/-- Runs a step until it gives a result, at most so many times. -/
def iterateWithin {α β : Type} (step : α → Parse (α ⊕ β)) : Nat → α → Parse β
  | 0, _ => fail .tooDeep
  | n + 1, a => do
    match ← step a with
    | .inl a => iterateWithin step n a
    | .inr b => return b

/-- Runs a step until it gives a result. Every step but the last goes past a word. -/
def iterate {α β : Type} (step : α → Parse (α ⊕ β)) (a : α) : Parse β := do
  iterateWithin step (← wordsLeft) a

end Parse

/-- Runs a parser on words, the first of which becomes the current one. -/
def parseLexemes {α : Type} (p : Parse α) (words : List Lexeme) : Except SyntaxFault α :=
  let start : ParseState := { current := ⟨1, .finish⟩, rest := words }
  match (do discard Parse.advance; p : Parse α).run start with
  | .ok (a, _) => .ok a
  | .error f => .error f

end RenderBench.Template
