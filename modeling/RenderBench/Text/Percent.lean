import RenderBench.Number.Figure
import RenderBench.Number.Scientific
import RenderBench.Text.Quoted

/-!
# `Text.Percent` — texts with `%` placeholders

A placeholder starts with `%`; it may name the argument it takes and give flags, a width and a
precision, and ends with a letter that tells how the argument is written. A doubled `%` stands for one.

## Contents
- `FormatArgument`: what the letters need to know of a value.
- `Supply`: the arguments of a text, by position or by name.
- `FormatError`, `FormatError.message`: the failures.
- `Placeholder`, `scanPlaceholder`: the parts of a placeholder.
- `Layout.write`, `Placeholder.write`: the text that takes its place.
- `percentFormat`: the filled text.
-/

namespace RenderBench

structure FormatArgument where
  /-- The text of the value by itself. -/
  display : String
  /-- The text of the value in a listing. -/
  literal : String
  /-- The name of the kind of value, for messages. -/
  kind : String
  number : Option Figure
  /-- Whether the value is a text. -/
  isText : Bool
  /-- The value as a whole number, for the letters and sizes that take nothing else. -/
  whole : Option Int

structure Supply where
  /-- The arguments that are left. -/
  positional : List FormatArgument
  /-- Named arguments, where there are any. -/
  named : Option (List (String × FormatArgument))
  /-- Whether arguments that are left at the end are an error. -/
  exhaustive : Bool

/-- The two sizes a placeholder can give. -/
inductive SizeRole where
  | width
  | precision
  deriving DecidableEq

/-- The largest size there is. -/
def SizeRole.bound : SizeRole → Nat
  | .width => 0x7fffffffffffffff
  | .precision => 0x7fffffff

inductive FormatError where
  | incomplete
  | incompleteKey
  | notEnough
  | leftOver
  | noMapping
  | unknownKey (key : String)
  | badLetter (letter : Char) (index : Nat)
  | notNumber (letter : Char) (kind : String)
  | notInteger (letter : Char) (kind : String)
  | notReal (kind : String)
  | sizeNotInteger
  /-- A size in the text that is too large. -/
  | sizeTooBig (role : SizeRole)
  /-- A size among the arguments that is too large. -/
  | sizeOverflow (role : SizeRole)
  | notChar
  | charRange
  | infiniteInteger
  | nanInteger
  deriving DecidableEq

def FormatError.message : FormatError → String
  | .incomplete => "incomplete format"
  | .incompleteKey => "incomplete format key"
  | .notEnough => "not enough arguments for format string"
  | .leftOver => "not all arguments converted during string formatting"
  | .noMapping => "format requires a mapping"
  | .unknownKey key => quoted key
  | .badLetter c i =>
    "unsupported format character '" ++ String.ofList [if 31 ≤ c.toNat ∧ c ≤ '~' then c else '?'] ++
      "' (0x" ++ String.ofList (hexDigits 1 c.toNat) ++ ") at index " ++ natText i
  | .notNumber c kind =>
    "%" ++ String.ofList [c] ++ " format: a real number is required, not " ++ kind
  | .notInteger c kind =>
    "%" ++ String.ofList [c] ++ " format: an integer is required, not " ++ kind
  | .notReal kind => "must be real number, not " ++ kind
  | .sizeNotInteger => "* wants int"
  | .sizeTooBig .width => "width too big"
  | .sizeTooBig .precision => "precision too big"
  | .sizeOverflow .width => "Python int too large to convert to C ssize_t"
  | .sizeOverflow .precision => "Python int too large to convert to C int"
  | .notChar => "%c requires int or char"
  | .charRange => "%c arg not in range(0x110000)"
  | .infiniteInteger => "cannot convert float infinity to integer"
  | .nanInteger => "cannot convert float NaN to integer"

/-- A width or a precision: a number, or `*` for the next argument. -/
inductive FormatSize where
  | given (n : Nat)
  | next
  deriving DecidableEq

structure Placeholder where
  key : Option String
  flags : List Char
  width : Option FormatSize
  precision : Option FormatSize
  /-- The letter, which is missing where the text ends before it. -/
  letter : Option Char

/-- The name in parentheses at the front; parentheses inside it have to match. -/
def scanKey (depth : Nat) : List Char → Option (List Char × List Char)
  | [] => none
  | '(' :: cs => (scanKey (depth + 1) cs).map fun (k, r) => ('(' :: k, r)
  | ')' :: cs =>
    match depth with
    | 0 => some ([], cs)
    | d + 1 => (scanKey d cs).map fun (k, r) => (')' :: k, r)
  | c :: cs => (scanKey depth cs).map fun (k, r) => (c :: k, r)

/-- A width or precision at the front. -/
def scanSize (cs : List Char) : Option FormatSize × List Char :=
  match cs with
  | '*' :: rest => (some .next, rest)
  | cs =>
    match spanDigits cs with
    | ([], rest) => (none, rest)
    | (ds, rest) => (some (.given (natOfDigits ds)), rest)

/-- A point with a precision at the front; the point alone stands for none at all. -/
def scanPrecision (cs : List Char) : Option FormatSize × List Char :=
  match cs with
  | '.' :: rest =>
    match scanSize rest with
    | (none, r) => (some (.given 0), r)
    | found => found
  | cs => (none, cs)

def isFormatFlag (c : Char) : Bool :=
  c == '-' || c == '+' || c == ' ' || c == '#' || c == '0'

/-- A placeholder after its `%`, and what follows it. -/
def scanPlaceholder (cs : List Char) : Option (Placeholder × List Char) := do
  let (key, cs) ← match cs with
    | '(' :: rest => (scanKey 0 rest).map fun (k, r) => (some (String.ofList k), r)
    | cs => some (none, cs)
  let (flags, cs) := cs.span isFormatFlag
  let (width, cs) := scanSize cs
  let (precision, cs) := scanPrecision cs
  let cs := match cs with
    | c :: rest => if c = 'h' ∨ c = 'l' ∨ c = 'L' then rest else cs
    | [] => []
  some (⟨key, flags, width, precision, cs.head?⟩, cs.drop 1)

namespace Supply

/-- The next argument by position. -/
def next (s : Supply) : Except FormatError (FormatArgument × Supply) :=
  match s.positional with
  | [] => .error .notEnough
  | a :: rest => .ok (a, { s with positional := rest })

/-- The argument a placeholder takes its value from becomes the next one. -/
def select (key : Option String) (s : Supply) : Except FormatError Supply :=
  match key, s.named with
  | none, _ => .ok s
  | some _, none => .error .noMapping
  | some k, some entries =>
    match entries.lookup k with
    | some a => .ok { s with positional := [a] }
    | none => .error (.unknownKey k)

/-- A size, possibly taken from the arguments. -/
def size (role : SizeRole) (given : Option FormatSize) (s : Supply) :
    Except FormatError (Option Int × Supply) :=
  match given with
  | none => .ok (none, s)
  | some (.given n) => if role.bound < n then .error (.sizeTooBig role) else .ok (some n, s)
  | some .next => do
    let (a, s) ← s.next
    match a.whole with
    | some i => if role.bound < i.natAbs then throw (.sizeOverflow role) else pure (some i, s)
    | none => throw .sizeNotInteger

end Supply

/-- A body between the blanks or zeros that bring it to its width. -/
def justified (left zero : Bool) (width : Nat) (sign body : List Char) : List Char :=
  let missing := width - (sign.length + body.length)
  if left then sign ++ body ++ List.replicate missing ' '
  else if zero then sign ++ List.replicate missing '0' ++ body
  else List.replicate missing ' ' ++ sign ++ body

/-- The sign written in front of a number. -/
def signChars (flags : List Char) (negative : Bool) : List Char :=
  if negative then ['-']
  else if flags.contains '+' then ['+']
  else if flags.contains ' ' then [' ']
  else []

/-- A whole number out of a number, for the letters that write digits. Only decimal digits are written
    of real numbers, which are cut towards zero. -/
def wholeArgument (letter : Char) (a : FormatArgument) : Except FormatError Int :=
  if letter = 'd' ∨ letter = 'i' ∨ letter = 'u' then
    match a.number with
    | some (.whole i) => .ok i
    | some (.real x) =>
      match x.trunc? with
      | some i => .ok i
      | none => .error (if x.isNaN then .nanInteger else .infiniteInteger)
    | none => .error (.notNumber letter a.kind)
  else
    match a.whole with
    | some i => .ok i
    | none => .error (.notInteger letter a.kind)

/-- The digits and the mark of their base, for a letter. -/
def digitsFor (letter : Char) (n : Nat) : List Char × List Char :=
  if letter = 'x' then (Nat.toDigits 16 n, ['0', 'x'])
  else if letter = 'X' then ((Nat.toDigits 16 n).map Char.toUpper, ['0', 'X'])
  else if letter = 'o' then (Nat.toDigits 8 n, ['0', 'o'])
  else (decimalDigits n, [])

/-- The style of a real number that a letter asks for. -/
def realStyle? (letter : Char) : Option RealStyle :=
  if letter = 'f' ∨ letter = 'F' then some .fixed
  else if letter = 'e' ∨ letter = 'E' then some .scientific
  else if letter = 'g' ∨ letter = 'G' then some .general
  else none

/-- A placeholder's letter with the flags and sizes that it is written with. -/
structure Layout where
  flags : List Char
  left : Bool
  width : Nat
  precision : Option Nat

/-- The value of an argument as a letter asks for it; `index` is the place of the letter. -/
def Layout.write (l : Layout) (letter : Char) (index : Nat) (a : FormatArgument) :
    Except FormatError (List Char) := do
  let zero := l.flags.contains '0'
  let marked := l.flags.contains '#'
  let plain (cs : List Char) : List Char := justified l.left false l.width [] cs
  let cut (cs : List Char) : List Char := l.precision.elim cs cs.take
  if letter = 's' then pure (plain (cut a.display.toList))
  else if letter = 'r' then pure (plain (cut a.literal.toList))
  else if letter = 'a' then pure (plain (cut (asciiForm a.literal.toList)))
  else if letter = 'c' then
    match a.whole, a.isText, a.display.toList with
    | _, true, [c] => pure (plain [c])
    | some i, false, _ =>
      if 0 ≤ i ∧ i < 0x110000 then pure (plain [Char.ofNat i.toNat]) else throw .charRange
    | _, _, _ => throw .notChar
  else if ['d', 'i', 'u', 'x', 'X', 'o'].contains letter then
    let i ← wholeArgument letter a
    let (digits, mark) := digitsFor letter i.natAbs
    let digits := padLeft (l.precision.getD 0) '0' digits
    let mark := if marked then mark else []
    pure (justified l.left zero l.width (signChars l.flags (decide (i < 0)) ++ mark) digits)
  else match realStyle? letter with
    | some style =>
      match a.number with
      | some n =>
        let x := n.toBinary64
        let body := x.styled style marked (l.precision.getD 6)
        let body := if letter.isUpper then body.map Char.toUpper else body
        pure (justified l.left zero l.width (signChars l.flags (x.isNegative && !x.isNaN)) body)
      | none => throw (.notReal a.kind)
    | none => throw (.badLetter letter index)

/-- The value of one placeholder. -/
def Placeholder.write (p : Placeholder) (index : Nat) (s : Supply) :
    Except FormatError (List Char × Supply) := do
  let s ← s.select p.key
  let (width, s) ← s.size .width p.width
  let (precision, s) ← s.size .precision p.precision
  match p.letter with
  | none => throw .incomplete
  | some letter =>
    let (a, s) ← s.next
    let layout : Layout := {
      flags := p.flags
      left := p.flags.contains '-' || (width.getD 0) < 0
      width := (width.getD 0).natAbs
      precision := precision.map Int.toNat }
    return (← layout.write letter index a, s)

/-- The rest of a text, `index` characters from its start, with its placeholders filled. -/
def percentFrom : Nat → Nat → List Char → Supply → Except FormatError (List Char × Supply)
  | 0, _, _, _ => .error .incomplete
  | _ + 1, _, [], s => .ok ([], s)
  | fuel + 1, index, '%' :: '%' :: cs, s => do
    let (after, s) ← percentFrom fuel (index + 2) cs s
    pure ('%' :: after, s)
  | fuel + 1, index, '%' :: cs, s =>
    match scanPlaceholder cs, s.named with
    | none, none => .error .noMapping
    | none, some _ => .error .incompleteKey
    | some (p, rest), _ => do
      let next := index + (cs.length - rest.length) + 1
      let (here, s) ← p.write (next - 1) s
      let (after, s) ← percentFrom fuel next rest s
      pure (here ++ after, s)
  | fuel + 1, index, c :: cs, s => do
    let (after, s) ← percentFrom fuel (index + 1) cs s
    pure (c :: after, s)

/-- A text with its placeholders filled from the arguments. -/
def percentFormat (format : String) (s : Supply) : Except FormatError String := do
  let cs := format.toList
  let (out, s) ← percentFrom (cs.length + 1) 0 cs s
  if s.exhaustive && !s.positional.isEmpty then throw .leftOver
  else pure (String.ofList out)

end RenderBench
