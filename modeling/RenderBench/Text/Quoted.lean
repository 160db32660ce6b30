import RenderBench.Number.Decimal
import RenderBench.Text.Printable

/-!
# `Text.Quoted` — a text as a quoted literal

Texts that messages and listings name are quoted: in apostrophes, or in double quotes when the text
has an apostrophe and no double quote. Characters that would not show as themselves are escaped.

## Contents
- `hexDigits`: hexadecimal digits of a fixed least width.
- `numberedChar`, `asciiForm`: characters by their number.
- `quoteMark`: the choice of the quotation mark.
- `quoted`: the literal.
-/

namespace RenderBench

/-- Small hexadecimal digits, filled up with zeros to a least width. -/
def hexDigits (width n : Nat) : List Char := padLeft width '0' (Nat.toDigits 16 n)

/-- The mark a text is quoted in. -/
def quoteMark (cs : List Char) : Char :=
  if cs.contains '\'' && !cs.contains '"' then '"' else '\''

/-- A character by its number. -/
def numberedChar (c : Char) : List Char :=
  if c.toNat < 0x100 then '\\' :: 'x' :: hexDigits 2 c.toNat
  else if c.toNat < 0x10000 then '\\' :: 'u' :: hexDigits 4 c.toNat
  else '\\' :: 'U' :: hexDigits 8 c.toNat

/-- A character as it is in ASCII, any other one by its number. -/
def asciiChar (c : Char) : List Char := if c.toNat < 0x80 then [c] else numberedChar c

/-- A text with every character beyond ASCII written by its number. -/
def asciiForm (cs : List Char) : List Char := cs.flatMap asciiChar

/-- One character inside quotation marks. -/
def quotedChar (mark : Char) (c : Char) : List Char :=
  if c = mark ∨ c = '\\' then ['\\', c]
  else if c = '\n' then ['\\', 'n']
  else if c = '\r' then ['\\', 'r']
  else if c = '\t' then ['\\', 't']
  else if isPrintable c then [c]
  else numberedChar c

def quotedChars (cs : List Char) : List Char :=
  let mark := quoteMark cs
  mark :: cs.flatMap (quotedChar mark) ++ [mark]

/-- A text as a quoted literal. -/
def quoted (s : String) : String := String.ofList (quotedChars s.toList)

end RenderBench
