import RenderBench.Json.Basic
import RenderBench.Number.Reading

/-!
# `Json.Reader` — documents from text

Reading accepts any JSON text, with the names `NaN` and `Infinity` for the numbers that are no
decimals. A number without a point and an exponent is whole.

## Contents
- `readString?`: the rest of a string after its opening quote.
- `Json.readValue?`, `Json.read?`: documents.
-/

namespace RenderBench

/-- Blanks between the tokens of a document. -/
def isJsonBlank (c : Char) : Bool := c == ' ' || c == '\n' || c == '\t' || c == '\r'

def skipJsonBlank (cs : List Char) : List Char := cs.dropWhile isJsonBlank

/-- The value of a hexadecimal digit. -/
def hexValue? (c : Char) : Option Nat :=
  if '0' ≤ c ∧ c ≤ '9' then some (c.toNat - '0'.toNat)
  else if 'a' ≤ c ∧ c ≤ 'f' then some (c.toNat - 'a'.toNat + 10)
  else if 'A' ≤ c ∧ c ≤ 'F' then some (c.toNat - 'A'.toNat + 10)
  else none

/-- The number of four hexadecimal digits. -/
def hexUnit? (a b c d : Char) : Option Nat := do
  let a ← hexValue? a
  let b ← hexValue? b
  let c ← hexValue? c
  let d ← hexValue? d
  return ((a * 16 + b) * 16 + c) * 16 + d

/-- What a one-letter escape stands for. -/
def simpleEscape? (c : Char) : Option Char :=
  match c with
  | '"' => some '"'
  | '\\' => some '\\'
  | '/' => some '/'
  | 'n' => some '\n'
  | 'r' => some '\r'
  | 't' => some '\t'
  | 'b' => some (Char.ofNat 0x08)
  | 'f' => some (Char.ofNat 0x0c)
  | _ => none

/-- The characters of a string up to its closing quote, and what follows. `high` is the first unit of
    a character written as two. -/
def readString? (high : Option Nat) : List Char → Option (List Char × List Char)
  | [] => none
  | '"' :: rest => if high.isSome then none else some ([], rest)
  | '\\' :: 'u' :: a :: b :: c :: d :: rest =>
    match hexUnit? a b c d, high with
    | none, _ => none
    | some n, some h =>
      if 0xdc00 ≤ n ∧ n < 0xe000 then
        (readString? none rest).map fun (cs, r) =>
          (Char.ofNat (0x10000 + (h - 0xd800) * 1024 + (n - 0xdc00)) :: cs, r)
      else none
    | some n, none =>
      if 0xd800 ≤ n ∧ n < 0xdc00 then readString? (some n) rest
      else (readString? none rest).map fun (cs, r) => (Char.ofNat n :: cs, r)
  | '\\' :: c :: rest =>
    match simpleEscape? c with
    | some e =>
      if high.isSome then none else (readString? none rest).map fun (cs, r) => (e :: cs, r)
    | none => none
  | c :: rest =>
    if high.isSome ∨ c = '\\' ∨ c < ' ' then none
    else (readString? none rest).map fun (cs, r) => (c :: cs, r)

/-- An unsigned number at the front. -/
def readNumber? (negative : Bool) (cs : List Char) : Option (Json × List Char) :=
  match scanNumeral? false cs with
  | none => none
  | some (n, rest) =>
    if n.whole.isEmpty || n.fraction == some [] then none
    else if n.fraction.isNone && n.exponent.isNone then
      let i : Int := natOfDigits n.whole
      some (.int (if negative then -i else i), rest)
    else some (.real (n.value negative), rest)

/-- What follows a word, if the characters begin with it. -/
def dropWord? : List Char → List Char → Option (List Char)
  | [], cs => some cs
  | w :: ws, c :: cs => if w = c then dropWord? ws cs else none
  | _ :: _, [] => none

/-- The value of a word at the front. -/
def readWord? (word : String) (value : Json) (cs : List Char) : Option (Json × List Char) :=
  (dropWord? word.toList cs).map fun rest => (value, rest)

namespace Json

mutual

/-- A document at the front, after blanks. The fuel bounds the number of tokens. -/
def readValue? : Nat → List Char → Option (Json × List Char)
  | 0, _ => none
  | fuel + 1, cs =>
    match skipJsonBlank cs with
    | '"' :: rest => (readString? none rest).map fun (s, r) => (.text (String.ofList s), r)
    | '[' :: rest =>
      match skipJsonBlank rest with
      | ']' :: r => some (.list [], r)
      | r => (readElements? fuel r).map fun (es, r) => (.list es, r)
    | '\x7b' :: rest =>
      match skipJsonBlank rest with
      | '\x7d' :: r => some (.object [], r)
      | r => (readMembers? fuel r).map fun (ms, r) => (.object ms, r)
    | '-' :: 'I' :: rest => readWord? "nfinity" (.real (.infinite true)) rest
    | '-' :: rest => readNumber? true rest
    | 'n' :: rest => readWord? "ull" .null rest
    | 't' :: rest => readWord? "rue" (.bool true) rest
    | 'f' :: rest => readWord? "alse" (.bool false) rest
    | 'N' :: rest => readWord? "aN" (.real .nan) rest
    | 'I' :: rest => readWord? "nfinity" (.real (.infinite false)) rest
    | rest => readNumber? false rest

/-- One or more elements and the closing bracket. -/
def readElements? : Nat → List Char → Option (List Json × List Char)
  | 0, _ => none
  | fuel + 1, cs =>
    match readValue? fuel cs with
    | none => none
    | some (v, rest) =>
      match skipJsonBlank rest with
      | ']' :: r => some ([v], r)
      | ',' :: r => (readElements? fuel r).map fun (vs, r) => (v :: vs, r)
      | _ => none

/-- One or more members and the closing brace. -/
def readMembers? : Nat → List Char → Option (List (String × Json) × List Char)
  | 0, _ => none
  | fuel + 1, cs =>
    match skipJsonBlank cs with
    | '"' :: rest =>
      match readString? none rest with
      | none => none
      | some (k, rest) =>
        match skipJsonBlank rest with
        | ':' :: rest =>
          match readValue? fuel rest with
          | none => none
          | some (v, rest) =>
            match skipJsonBlank rest with
            | '\x7d' :: r => some ([(String.ofList k, v)], r)
            | ',' :: r => (readMembers? fuel r).map fun (ms, r) => ((String.ofList k, v) :: ms, r)
            | _ => none
        | _ => none
    | _ => none

end

/-- A text that is one document. -/
def read? (s : String) : Option Json :=
  let cs := s.toList
  match readValue? (2 * cs.length + 2) cs with
  | some (j, rest) => if (skipJsonBlank rest).isEmpty then some j else none
  | none => none

end Json

end RenderBench
