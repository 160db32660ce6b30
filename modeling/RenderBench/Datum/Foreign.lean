import RenderBench.Number.Reading
import RenderBench.Text.Quoted

/-!
# `Datum.Foreign` — objects without a JSON form

Of an object that has no JSON form the text is known, and whether it is a decimal number, a path or a mapping with keys
of its own kind.

## Contents
- `Foreign`: the objects; `Foreign.kind`: how messages name them.
- `Foreign.literal`: their form inside a listing; `Foreign.oddKey?`: what keeps a mapping out of a document.
- `Foreign.real?`, `Foreign.whole?`: the values of decimal numbers.
-/

namespace RenderBench

inductive Foreign where
  | decimal (text : String)
  | path (text : String)
  /-- A mapping with a key that is neither a text nor what a document writes as one, and the kind of that key. -/
  | mapping (keyKind text : String)
  | other (text : String)
  deriving DecidableEq

namespace Foreign

/-- The text of an object by itself. -/
def text : Foreign → String
  | .decimal t => t
  | .path t => t
  | .mapping _ t => t
  | .other t => t

/-- The name of an object's kind. -/
def kind : Foreign → String
  | .decimal _ => "decimal.Decimal"
  | .path _ => "PosixPath"
  | .mapping _ _ => "dict"
  | .other _ => "Opaque"

def literal : Foreign → String
  | .decimal t => "Decimal(" ++ quoted t ++ ")"
  | .path t => "PosixPath(" ++ quoted t ++ ")"
  | .mapping _ t => t
  | .other t => t

/-- The kind of a key that no document has. -/
def oddKey? : Foreign → Option String
  | .mapping k _ => some k
  | _ => none

/-- The value of a decimal number. -/
def real? : Foreign → Option Binary64
  | .decimal t => readReal? false t.toList
  | _ => none

/-- The value of a decimal numeral, if it is a whole number. -/
def wholeOfNumeral? (negative : Bool) (n : Numeral) : Option Int :=
  let fraction := n.fraction.getD []
  let digits := natOfDigits (n.whole ++ fraction)
  let exponent := n.exponent.getD 0 - fraction.length
  let divisor := pow10 (-exponent).toNat
  let magnitude : Int := (digits * pow10 exponent.toNat / divisor : Nat)
  if digits % divisor = 0 then some (if negative then -magnitude else magnitude) else none

/-- The value of a decimal number that is whole. -/
def whole? : Foreign → Option Int
  | .decimal t =>
    let (negative, body) := splitSign t.toList
    match scanNumeral? false body with
    | some (n, []) => wholeOfNumeral? negative n
    | _ => none
  | _ => none

/-- A decimal number counts as present unless it is zero; any other object always does. -/
def isTruthy (f : Foreign) : Bool :=
  match f.real? with
  | some x => !x.isZero
  | none => true

end Foreign

end RenderBench
