import RenderBench.Json.Reader
import RenderBench.Template.SyntaxFault

/-!
# `Template.Token.Escape` — escapes in quoted texts

A backslash in a quoted text starts an escape: a letter for a control character, up to three octal
digits, or hexadecimal digits after `x`, `u` or `U`. A backslash before a line end joins the lines; any
other one stands for itself. Characters beyond ASCII count as escapes too.

## Contents
- `escape`: what the characters after a backslash stand for.
- `unescape`: the characters of a text with escapes.
-/

namespace RenderBench.Template

/-- The value of hexadecimal digits. -/
def hexNumber? (cs : List Char) : Option Nat :=
  cs.foldlM (fun n c => (hexValue? c).map fun d => n * 16 + d) 0

/-- Exactly so many hexadecimal digits at the front, and what follows. -/
def takeHex? (count : Nat) (cs : List Char) : Option (Nat × List Char) :=
  let digits := cs.take count
  if digits.length = count then (hexNumber? digits).map fun n => (n, cs.drop count) else none

/-- The control character of a one-letter escape. -/
def controlEscape? (c : Char) : Option Char :=
  match c with
  | 'n' => some '\n'
  | 't' => some '\t'
  | 'r' => some '\r'
  | 'b' => some (Char.ofNat 0x08)
  | 'f' => some (Char.ofNat 0x0c)
  | 'a' => some (Char.ofNat 0x07)
  | 'v' => some (Char.ofNat 0x0b)
  | '\\' => some '\\'
  | '\'' => some '\''
  | '"' => some '"'
  | _ => none

def isOctal (c : Char) : Bool := '0' ≤ c && c ≤ '7'

/-- The characters after a backslash: what they stand for, and what follows. -/
def escape (cs : List Char) : Except EscapeCause (List Char × List Char) :=
  match cs with
  | [] => .ok (['\\'], [])
  | '\n' :: rest => .ok ([], rest)
  | 'x' :: rest =>
    match takeHex? 2 rest with
    | some (n, r) => .ok ([Char.ofNat n], r)
    | none => .error .truncatedHex
  | 'u' :: rest =>
    match takeHex? 4 rest with
    | some (n, r) => .ok ([Char.ofNat n], r)
    | none => .error .truncatedShort
  | 'U' :: rest =>
    match takeHex? 8 rest with
    | some (n, r) => if n < 0x110000 then .ok ([Char.ofNat n], r) else .error .illegalCharacter
    | none => .error .truncatedLong
  | 'N' :: '\x7b' :: _ => .error .unknownName
  | 'N' :: _ => .error .malformedName
  | c :: rest =>
    match controlEscape? c with
    | some d => .ok ([d], rest)
    | none =>
      if isOctal c then
        let (more, _) := (rest.take 2).span isOctal
        let n := (c :: more).foldl (fun n d => n * 8 + (d.toNat - '0'.toNat)) 0
        .ok ([Char.ofNat n], rest.drop more.length)
      else .ok (['\\', c], rest)

/-- The characters of a text with escapes; the fuel bounds its length. -/
def unescapeWithin : Nat → List Char → Except EscapeCause (List Char)
  | 0, _ => .ok []
  | _ + 1, [] => .ok []
  | fuel + 1, '\\' :: cs => do
    let (here, rest) ← escape cs
    return here ++ (← unescapeWithin fuel rest)
  | fuel + 1, c :: cs => return c :: (← unescapeWithin fuel cs)

/-- The text between quotation marks. -/
def unescape (cs : List Char) : Except EscapeCause String :=
  let ascii := asciiForm cs
  (unescapeWithin (ascii.length + 1) ascii).map String.ofList

end RenderBench.Template
