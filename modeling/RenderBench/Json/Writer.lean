import RenderBench.Json.Basic
import RenderBench.Number.Shortest
import RenderBench.Text.Quoted

/-!
# `Json.Writer` — documents as ASCII text

Every character outside printable ASCII is escaped, so a document on one line is one line whatever its
texts hold. Two layouts exist: a compact one with a blank after commas and colons, and an indented one.

## Contents
- `jsonEscaped`, `jsonString`: texts.
- `Json.write`: the compact layout.
- `Json.sorted`, `Json.writeIndented`: members by name, and two blanks of indentation per level.
- `Json.cut?`: what is written before a number that is refused.
-/

namespace RenderBench

/-- The escape of a 16-bit code unit. -/
def unitEscape (n : Nat) : List Char := '\\' :: 'u' :: hexDigits 4 n

/-- One character inside a string. Beyond the first 65536 code points it takes two units. -/
def jsonEscaped (c : Char) : List Char :=
  if c = '"' then ['\\', '"']
  else if c = '\\' then ['\\', '\\']
  else if c = '\n' then ['\\', 'n']
  else if c = '\r' then ['\\', 'r']
  else if c = '\t' then ['\\', 't']
  else if c.toNat = 0x0c then ['\\', 'f']
  else if c.toNat = 0x08 then ['\\', 'b']
  else if ' ' ≤ c ∧ c ≤ '~' then [c]
  else if c.toNat < 0x10000 then unitEscape c.toNat
  else
    let n := c.toNat - 0x10000
    unitEscape (0xd800 + n / 1024) ++ unitEscape (0xdc00 + n % 1024)

/-- A text as a JSON string. -/
def jsonString (s : String) : List Char := '"' :: s.toList.flatMap jsonEscaped ++ ['"']

/-- Numbers that are no decimals have names of their own. -/
def RealLayout.json : RealLayout := { RealLayout.plain with nan := "NaN", infinity := "Infinity" }

namespace Json

mutual

/-- A document on one line. -/
def writeChars : Json → List Char
  | .null => "null".toList
  | .bool true => "true".toList
  | .bool false => "false".toList
  | .int i => decimalInt i
  | .real x => RealLayout.json.write x
  | .text s => jsonString s
  | .list elements => '[' :: writeElements elements
  | .object members => '\x7b' :: writeMembers members

/-- The elements of a list, each followed by its separator or by the closing bracket. -/
def writeElements : List Json → List Char
  | [] => [']']
  | [e] => writeChars e ++ [']']
  | e :: es => writeChars e ++ ',' :: ' ' :: writeElements es

/-- The members of an object, each followed by its separator or by the closing brace. -/
def writeMembers : List (String × Json) → List Char
  | [] => ['\x7d']
  | [(k, v)] => jsonString k ++ ':' :: ' ' :: writeChars v ++ ['\x7d']
  | (k, v) :: ms => jsonString k ++ ':' :: ' ' :: writeChars v ++ ',' :: ' ' :: writeMembers ms

end

def write (j : Json) : String := String.ofList (writeChars j)

/-- A member put in front of the first one whose name is not smaller. -/
def insertMember (m : String × Json) : List (String × Json) → List (String × Json)
  | [] => [m]
  | n :: ns => if n.1 < m.1 then n :: insertMember m ns else m :: n :: ns

mutual

/-- The same document with the members of every object in the order of their names. -/
def sorted : Json → Json
  | .list elements => .list (sortedElements elements)
  | .object members => .object (sortedMembers members)
  | j => j

def sortedElements : List Json → List Json
  | [] => []
  | e :: es => sorted e :: sortedElements es

def sortedMembers : List (String × Json) → List (String × Json)
  | [] => []
  | (k, v) :: ms => insertMember (k, sorted v) (sortedMembers ms)

end

/-- A line end followed by the blanks of a nesting level. -/
def newLine (depth : Nat) : List Char := '\n' :: List.replicate (2 * depth) ' '

mutual

/-- A document with every element and member on a line of its own. -/
def indentedChars (depth : Nat) : Json → List Char
  | .list [] => ['[', ']']
  | .list elements => '[' :: indentedElements (depth + 1) elements
  | .object [] => ['\x7b', '\x7d']
  | .object members => '\x7b' :: indentedMembers (depth + 1) members
  | .null => "null".toList
  | .bool true => "true".toList
  | .bool false => "false".toList
  | .int i => decimalInt i
  | .real x => RealLayout.json.write x
  | .text s => jsonString s

def indentedElements (depth : Nat) : List Json → List Char
  | [] => newLine (depth - 1) ++ [']']
  | [e] => newLine depth ++ indentedChars depth e ++ newLine (depth - 1) ++ [']']
  | e :: es => newLine depth ++ indentedChars depth e ++ ',' :: indentedElements depth es

def indentedMembers (depth : Nat) : List (String × Json) → List Char
  | [] => newLine (depth - 1) ++ ['\x7d']
  | [(k, v)] => newLine depth ++ jsonString k ++ ':' :: ' ' :: indentedChars depth v ++
      newLine (depth - 1) ++ ['\x7d']
  | (k, v) :: ms => newLine depth ++ jsonString k ++ ':' :: ' ' :: indentedChars depth v ++
      ',' :: indentedMembers depth ms

end

def writeIndented (j : Json) : String := String.ofList (indentedChars 0 j)

/-! ## Documents that are not written to the end

The indented layout is written piece by piece. A piece is an element with what stands before it, the name of a
member, its value, or a bracket that opens a list or an object inside another one. A number of too many digits
has no piece, and what was written before it stays.
-/

/-- Whether a document is a number that is not converted to a text. -/
def isLong : Json → Bool
  | .int i => digitLimit < (decimalDigits i.natAbs).length
  | _ => false

mutual

/-- What is written of a document before the first number of too many digits, if there is one. -/
def cut? (depth : Nat) : Json → Option (List Char)
  | .list elements => cutElements? (depth + 1) ('[' :: newLine (depth + 1)) elements
  | .object members => cutMembers? (depth + 1) ('\x7b' :: newLine (depth + 1)) members
  | j => if j.isLong then some [] else none

/-- The same for the elements of a list, the first of which has `lead` before it. -/
def cutElements? (depth : Nat) (lead : List Char) : List Json → Option (List Char)
  | [] => none
  | e :: es =>
    match cut? depth e with
    | some cut => some (if e.isLong then [] else lead ++ cut)
    | none =>
      (cutElements? depth (',' :: newLine depth) es).map fun cut => lead ++ indentedChars depth e ++ cut

/-- The same for the members of an object. -/
def cutMembers? (depth : Nat) (lead : List Char) : List (String × Json) → Option (List Char)
  | [] => none
  | (k, v) :: ms =>
    match cut? depth v with
    | some cut => some (lead ++ jsonString k ++ ':' :: ' ' :: cut)
    | none =>
      (cutMembers? depth (',' :: newLine depth) ms).map fun cut =>
        lead ++ jsonString k ++ ':' :: ' ' :: indentedChars depth v ++ cut

end

end Json

end RenderBench
