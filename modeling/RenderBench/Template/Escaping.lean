import RenderBench.Template.Value

/-!
# `Template.Escaping` — text in markup

Output that is escaped has no character that could be taken for markup. Values that are markup already are
left alone.

## Contents
- `escapeChar`, `escapeText`: the five characters and what stands for them.
- `Value.escaped`, `Value.written`: the text of a value in escaped and in plain output.
-/

namespace RenderBench.Template

/-- What stands for a character in markup. -/
def escapeChar (c : Char) : List Char :=
  if c = '&' then "&amp;".toList
  else if c = '>' then "&gt;".toList
  else if c = '<' then "&lt;".toList
  else if c = '\'' then "&#39;".toList
  else if c = '"' then "&#34;".toList
  else [c]

/-- A text with every character that could be taken for markup replaced. -/
def escapeText (s : String) : String := String.ofList (s.toList.flatMap escapeChar)

namespace Value

/-- The text of a value in markup. -/
def escaped : Value → String
  | .markup s => s
  | v => escapeText v.display

/-- The text an output expression writes. -/
def written (escape : Bool) (v : Value) : String := if escape then v.escaped else v.display

/-- The value as a text, markup staying markup. -/
def soft : Value → Value
  | .markup s => .markup s
  | v => .text v.display

/-- A text that is markup if told so. -/
def ofText (markup : Bool) (s : String) : Value := if markup then .markup s else .text s

/-- Texts one after the other: markup as soon as one of them is, the others being escaped then. -/
def joinSoft (markupToo : Bool) (vs : List Value) : Value :=
  if markupToo && vs.any isMarkup then .markup (String.join (vs.map escaped))
  else .text (String.join (vs.map display))

end Value

end RenderBench.Template
