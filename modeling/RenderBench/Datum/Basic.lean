import RenderBench.Datum.Foreign
import RenderBench.Json.Writer

/-!
# `Datum.Basic` — values handed to the program

What callers pass as item data, log arguments or template items: JSON values, and foreign objects.

## Contents
- `Datum`: the values.
- `Datum.ofJson`, `Datum.toJson`: from documents and into them; `Datum.oddKey?`: values that no document holds.
- `Datum.isTruthy`: which values count as present.
- `Datum.display`, `Datum.literal`: the two written forms.
-/

namespace RenderBench

inductive Datum where
  | null
  | bool (b : Bool)
  | int (i : Int)
  | real (x : Binary64)
  | text (s : String)
  | list (elements : List Datum)
  | dict (entries : List (String × Datum))
  /-- An object that has no JSON form. -/
  | foreign (f : Foreign)

namespace Datum

instance : Inhabited Datum := ⟨.null⟩

mutual

def ofJson : Json → Datum
  | .null => .null
  | .bool b => .bool b
  | .int i => .int i
  | .real x => .real x
  | .text s => .text s
  | .list elements => .list (ofJsonElements elements)
  | .object members => .dict (ofJsonMembers members)

def ofJsonElements : List Json → List Datum
  | [] => []
  | e :: es => ofJson e :: ofJsonElements es

def ofJsonMembers : List (String × Json) → List (String × Datum)
  | [] => []
  | (k, v) :: ms => (k, ofJson v) :: ofJsonMembers ms

end

mutual

/-- The document of a value; a foreign object stands as its text. -/
def toJson : Datum → Json
  | .null => .null
  | .bool b => .bool b
  | .int i => .int i
  | .real x => .real x
  | .text s => .text s
  | .list elements => .list (toJsonElements elements)
  | .dict entries => .object (toJsonMembers entries)
  | .foreign f => .text f.text

def toJsonElements : List Datum → List Json
  | [] => []
  | e :: es => toJson e :: toJsonElements es

def toJsonMembers : List (String × Datum) → List (String × Json)
  | [] => []
  | (k, v) :: ms => (k, toJson v) :: toJsonMembers ms

end

mutual

/-- The kind of the first key in a value that no document has. -/
def oddKey? : Datum → Option String
  | .list elements => oddKeyIn? elements
  | .dict entries => oddKeyOf? entries
  | .foreign f => f.oddKey?
  | _ => none

def oddKeyIn? : List Datum → Option String
  | [] => none
  | e :: es => (oddKey? e).or (oddKeyIn? es)

def oddKeyOf? : List (String × Datum) → Option String
  | [] => none
  | (_, v) :: es => (oddKey? v).or (oddKeyOf? es)

end

/-- A value counts as present unless it is null, false, zero or empty. -/
def isTruthy : Datum → Bool
  | .null => false
  | .bool b => b
  | .int i => i != 0
  | .real x => !x.isZero
  | .text s => !s.isEmpty
  | .list elements => !elements.isEmpty
  | .dict entries => !entries.isEmpty
  | .foreign f => f.isTruthy

/-- The written form of a truth value. -/
def boolText (b : Bool) : String := if b then "True" else "False"

mutual

/-- The form of a value inside a listing, texts quoted. -/
def literal : Datum → String
  | .null => "None"
  | .bool b => boolText b
  | .int i => intText i
  | .real x => x.text
  | .text s => quoted s
  | .list elements => "[" ++ String.intercalate ", " (literals elements) ++ "]"
  | .dict entries => "\x7b" ++ String.intercalate ", " (entryLiterals entries) ++ "\x7d"
  | .foreign f => f.literal

def literals : List Datum → List String
  | [] => []
  | e :: es => literal e :: literals es

def entryLiterals : List (String × Datum) → List String
  | [] => []
  | (k, v) :: es => (quoted k ++ ": " ++ literal v) :: entryLiterals es

end

/-- The form of a value by itself: a text as it is, anything else as in a listing. -/
def display : Datum → String
  | .text s => s
  | .foreign f => f.text
  | d => d.literal

end Datum

end RenderBench
