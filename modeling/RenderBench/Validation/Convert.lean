import RenderBench.Datum.Basic
import RenderBench.Number.Reading
import RenderBench.Text.Blank
import RenderBench.Text.CaseMap
import RenderBench.Validation.Basic

/-!
# `Validation.Convert` — lenient conversions

A field accepts a value of its own kind and the values that can only mean one thing: numerals as texts,
whole real numbers for whole numbers, words for truth values.

## Contents
- `readIntText`, `wordOfReal`, `Datum.asInt`: whole numbers.
- `readRealText?`, `Datum.asReal`: real numbers.
- `readBoolText?`, `Datum.asBool`: truth values.
- `Datum.asText`: texts, which nothing is converted to.
- `atLeast`, `lessThan`: bounds.
-/

namespace RenderBench

/-- The text without its underscores, if each of them stands between two other characters. -/
def dropUnderscores? (cs : List Char) : Option (List Char) :=
  let rec go (after : Bool) : List Char → Option (List Char)
    | [] => if after then none else some []
    | '_' :: cs => if after then none else go true cs
    | c :: cs => (go false cs).map (c :: ·)
  go true cs

/-- A numeral without the zeros it starts with, and underscores among them; at least one character is
    kept. A numeral that starts neither with a digit nor with a minus sign is refused. -/
def dropLeadingZeros? (cs : List Char) : Option (List Char) :=
  let rec go (last : Char) : List Char → Option (List Char)
    | [] => some [last]
    | c :: cs =>
      if c = '0' ∨ c = '_' then go c cs
      else if c.isDigit then some (c :: cs)
      else if c = '.' then some (last :: c :: cs)
      else none
  match cs with
  | '0' :: rest => go '0' rest
  | c :: rest => if c.isDigit ∨ c = '-' then some (c :: rest) else none
  | [] => none

/-- A numeral without a fraction of zeros. -/
def dropZeroFraction (cs : List Char) : List Char :=
  let (whole, rest) := cs.span (· != '.')
  match rest with
  | '.' :: zeros => if zeros.all (· == '0') then whole else cs
  | _ => cs

/-- Digits with an optional minus sign; no zero stands before another digit after the sign. -/
def plainInt? (cs : List Char) : Option Int :=
  match cs with
  | '-' :: '0' :: _ :: _ => none
  | '+' :: _ => none
  | cs => intOfDigits? cs

/-- The numeral of a whole number in a text: spacing around it, a sign, leading zeros, single underscores between
    digits and a fraction of zeros do not count. -/
def intNumeral? (s : String) : Option (List Char) := do
  let cs := trimChars s.toList
  let unsigned ← match cs with
    | '+' :: '-' :: _ => none
    | '+' :: rest => some rest
    | cs => some cs
  let body := dropZeroFraction (← dropLeadingZeros? unsigned)
  if body.contains '_' then dropUnderscores? body else some body

/-- A whole number as a text, unless its numeral is too long. -/
def readIntText (s : String) : Except Problem Int :=
  match intNumeral? s with
  | none => .error .intParsing
  | some body =>
    match plainInt? body with
    | none => .error .intParsing
    | some i => if digitLimit < body.length then .error .intSize else .ok i

/-- A real number as a text: either spacing around it does not count, or single underscores do not. -/
def readRealText? (s : String) : Option Binary64 :=
  if s.toList.contains '_' then (dropUnderscores? s.toList).bind (readReal? false)
  else readReal? false (trimChars s.toList)

/-- The words for the truth values, in any letter case. -/
def readBoolText? (s : String) : Option Bool :=
  let w := lower s
  if ["1", "t", "y", "yes", "on", "true"].contains w then some true
  else if ["0", "f", "n", "no", "off", "false"].contains w then some false
  else none

/-- The least machine word, the negative of two to the power of 63. -/
def leastWord : Int := -9223372036854775808

/-- A real number as a whole one, which has to fit a machine word; the least word does not count. -/
def wordOfReal (x : Binary64) : Except Problem Int :=
  match x.trunc? with
  | none => .error .notFinite
  | some i =>
    if !x.isIntegral then .error .intFromReal
    else if leastWord < i ∧ i < -leastWord then .ok i
    else .error .intSize

namespace Datum

def asInt : Datum → Except Problem Int
  | .int i => .ok i
  | .bool b => .ok (if b then 1 else 0)
  | .real x => wordOfReal x
  | .text s => readIntText s
  | .foreign f =>
    match f.real?, f.whole? with
    | none, _ => .error .intType
    | some _, some i => .ok i
    | some x, none => .error (if x.isFinite then .intFromReal else .notFinite)
  | _ => .error .intType

def asReal : Datum → Except Problem Binary64
  | .real x => .ok x
  | .int i =>
    let x := Binary64.ofInt i
    if x.isFinite then .ok x else .error .realType
  | .bool b => .ok (Binary64.ofInt (if b then 1 else 0))
  | .text s =>
    match readRealText? s with
    | some x => .ok x
    | none => .error .realParsing
  | .foreign f =>
    match f.real? with
    | some x => .ok x
    | none => .error .realType
  | _ => .error .realType

/-- A whole number as a truth value: zero or one. -/
def boolOfInt (i : Int) : Except Problem Bool :=
  if i = 0 then .ok false else if i = 1 then .ok true else .error .boolParsing

/-- A real number as a truth value, if it is a whole one at all. -/
def boolOfReal (x : Binary64) : Except Problem Bool :=
  match wordOfReal x with
  | .ok i => boolOfInt i
  | .error _ => .error .boolType

def asBool : Datum → Except Problem Bool
  | .bool b => .ok b
  | .int i => if leastWord ≤ i ∧ i < -leastWord then boolOfInt i else .error .boolType
  | .real x => boolOfReal x
  | .text s =>
    match readBoolText? s with
    | some b => .ok b
    | none => .error .boolParsing
  | .foreign f =>
    match f.real? with
    | some x => boolOfReal x
    | none => .error .boolType
  | _ => .error .boolType

def asText : Datum → Except Problem String
  | .text s => .ok s
  | _ => .error .textType

end Datum

/-- The number, if it is not below the bound. -/
def atLeast (bound : Int) (i : Int) : Except Problem Int :=
  if i < bound then .error (.below bound) else .ok i

/-- The number, if it is below the bound. -/
def lessThan (bound : Int) (i : Int) : Except Problem Int :=
  if i < bound then .ok i else .error (.notBelow bound)

end RenderBench
