import RenderBench.Template.FilterArguments
import RenderBench.Template.Sorting
import RenderBench.Template.Test
import RenderBench.Number.Fixed
import RenderBench.Number.Reading
import RenderBench.Text.Blank

/-!
# `Template.Filter` — changes of values

A filter makes a value of a value and some arguments. Some filters apply other filters or tests, named in
their arguments, to every element.

## Contents
- texts: `titleText`, `replaceText`, `trimText`.
- numbers: `asReal`, `asWhole`, `roundValue`.
- sequences: `joinValuesWith`, `sumValues`, `reverseValue`, `sortValue`, …
- `mapValue`, `selectValue`: filters that apply others.
- `applyFilter`: a filter by name.
-/

namespace RenderBench.Template

/-! ## Texts -/

/-- A value's text changed, markup staying markup. -/
def onText (f : String → String) (v : Value) : Value := Value.ofText v.isMarkup (f v.display)

/-- Characters that stand between the words of a title. -/
def isTitleBreak (c : Char) : Bool :=
  isBlank c || c == '-' || c == '(' || c == '\x7b' || c == '[' || c == '<'

/-- A word with its first letter a capital and the others small. -/
def titleWord (cs : List Char) : List Char :=
  match cs with
  | [] => []
  | c :: rest => upperChar c ++ (lower (String.ofList rest)).toList

/-- Words with capitals at their beginnings; `word` is the one read so far, from its last character. -/
def titleFrom (word : List Char) : List Char → List Char
  | [] => titleWord word.reverse
  | c :: cs =>
    if isTitleBreak c then titleWord word.reverse ++ c :: titleFrom [] cs
    else titleFrom (c :: word) cs

def titleText (s : String) : String := String.ofList (titleFrom [] s.toList)

/-- The text after the first `n` occurrences of `old` became `new` (all of them without `n`); the
    characters `skip` of an occurrence are left out. -/
def replaceFrom (old new : List Char) : Option Nat → Nat → List Char → List Char
  | _, _, [] => []
  | n, skip + 1, _ :: cs => replaceFrom old new n skip cs
  | n, 0, c :: cs =>
    if n ≠ some 0 ∧ old.isPrefixOf (c :: cs) then
      new ++ replaceFrom old new (n.map (· - 1)) (old.length - 1) cs
    else c :: replaceFrom old new n 0 cs

/-- A text with another one before each character and at its end, at most `n` times. -/
def interleave (new : List Char) : Option Nat → List Char → List Char
  | some 0, cs => cs
  | _, [] => new
  | n, c :: cs => new ++ c :: interleave new (n.map (· - 1)) cs

def replaceText (s old new : String) (count : Option Nat) : String :=
  if old.isEmpty then String.ofList (interleave new.toList count s.toList)
  else String.ofList (replaceFrom old.toList new.toList count 0 s.toList)

/-- A text without the characters of another at its ends; without another one, without white space. -/
def trimText (chars : Option String) (s : String) : String :=
  let drops : Char → Bool := match chars with
    | some t => fun c => t.toList.contains c
    | none => isBlank
  String.ofList ((s.toList.dropWhile drops).reverse.dropWhile drops).reverse

/-- How many replacements a count stands for. -/
def replaceCount (v : Value) : Eval (Option Nat) :=
  match v with
  | .none => .ok none
  | v =>
    match v.whole? with
    | some i => .ok (if i < 0 then none else some i.toNat)
    | none => .error (.notIndex v.kind)

/-- Occurrences of a text replaced. In escaped output the result is markup if one of the texts is. -/
def replaceValue (escape : Bool) (v old new count : Value) : Eval Value := do
  let n ← replaceCount count
  if !escape then return .text (replaceText v.display old.display new.display n)
  else
    let s := if old.isMarkup || (new.isMarkup && !v.isMarkup) then Value.markup v.escaped else v.soft
    match s with
    | .markup t => return .markup (replaceText t old.display new.escaped n)
    | s => return .text (replaceText s.display old.display new.display n)

/-- Texts are compared without regard to case. -/
def ignoreCase (v : Value) : Value :=
  match v with
  | .text s => .text (lower s)
  | .markup s => .markup (lower s)
  | v => v

/-- What values are compared by: the end of a path, without regard to case unless it matters. -/
def keyOf (path : List Value) (caseSensitive : Bool) (v : Value) : Eval Value := do
  let w ← followPath none path v
  return if caseSensitive then w else ignoreCase w

/-! ## Numbers -/

/-- The value of a digit in bases up to 36. -/
def wideDigit? (c : Char) : Option Nat :=
  if c.isDigit then some (c.toNat - '0'.toNat)
  else if 'a' ≤ c.toLower ∧ c.toLower ≤ 'z' then some (c.toLower.toNat - 'a'.toNat + 10)
  else none

/-- Digits of a base with single underscores between them, as a number. -/
def digitsIn? (base : Nat) (after : Bool) (n : Nat) : List Char → Option Nat
  | [] => if after then some n else none
  | '_' :: cs => if after then digitsIn? base false n cs else none
  | c :: cs =>
    match wideDigit? c with
    | some d => if d < base then digitsIn? base true (n * base + d) cs else none
    | none => none

/-- Digits after the mark of their base, if there is one. -/
def dropBaseMark (base : Nat) (cs : List Char) : List Char :=
  match cs with
  | '0' :: m :: rest =>
    let m := m.toLower
    if (base = 16 ∧ m = 'x') ∨ (base = 8 ∧ m = 'o') ∨ (base = 2 ∧ m = 'b') then
      match rest with
      | '_' :: r => r
      | r => r
    else cs
  | cs => cs

/-- The base that the mark of a numeral tells. -/
def markedBase? : List Char → Option Nat
  | '0' :: m :: _ => [('x', 16), ('o', 8), ('b', 2)].lookup m.toLower
  | _ => none

/-- A numeral whose mark tells its base; without a mark the base is ten, and no zero stands before another
    digit. -/
def markedDigits? (cs : List Char) : Option Nat :=
  match markedBase? cs with
  | some base => digitsIn? base false 0 (dropBaseMark base cs)
  | none =>
    match digitsIn? 10 false 0 cs with
    | some n => if cs.head? = some '0' ∧ n ≠ 0 then none else some n
    | none => none

/-- A text as a whole number of a base; base zero leaves the base to the numeral. -/
def wholeOfText? (base : Int) (s : String) : Option Int :=
  let (negative, body) := splitSign (stripChars s.toList)
  let digits :=
    if base = 0 then markedDigits? body
    else if base < 2 ∨ 36 < base then none
    else digitsIn? base.toNat false 0 (dropBaseMark base.toNat body)
  digits.map fun n => if negative then -(n : Int) else n

/-- A text as a real number. -/
def realOfText? (s : String) : Option Binary64 := readReal? true (stripChars s.toList)

/-- The value as a real number, or else the default. -/
def asReal (v default : Value) : Eval Value :=
  match v with
  | .absent a => .error (.absent a)
  | v =>
    match v.figure?, v.text? with
    | some f, _ => do return .real (← realOf f)
    | _, some s => .ok ((realOfText? s).elim default .real)
    | _, _ => .ok default

/-- The value as a whole number, cut towards zero, or else the default. -/
def asWhole (v default : Value) (base : Int) : Eval Value :=
  match v with
  | .absent a => .error (.absent a)
  | v =>
    match v.figure?, v.text? with
    | some (.whole i), _ => .ok (.int i)
    | some (.real x), _ =>
      match x.trunc? with
      | some i => .ok (.int i)
      | none => if x.isNaN then .ok default else .error .infiniteInteger
    | _, some s =>
      match wholeOfText? base s with
      | some i => .ok (.int i)
      | none => .ok (((realOfText? s).bind Binary64.trunc?).elim default .int)
    | _, _ => .ok default

/-- A whole number rounded to a multiple of `10^k`, a half going to the even multiple. -/
def roundWhole (i : Int) (k : Nat) : Int :=
  let n : Int := roundHalfEven i.natAbs (pow10 k) * pow10 k
  if i < 0 then -n else n

/-- A real number as the nearest whole one. -/
def roundToWhole (x : Binary64) : Eval Value :=
  match (x.roundTo 0).trunc? with
  | some i => .ok (.int i)
  | none => .error (if x.isNaN then .nanInteger else .infiniteInteger)

/-- The value rounded to a number of places, or to a whole number if that is none. -/
def roundCommon (v precision : Value) : Eval Value :=
  match v.figure?, precision.whole? with
  | none, _ => .error (.noRounding v.kind)
  | some f, none =>
    match precision, f with
    | .none, .whole i => .ok (.int i)
    | .none, .real x => roundToWhole x
    | _, _ => .error (.notIndex precision.kind)
  | some (.whole i), some p => .ok (.int (if 0 ≤ p then i else roundWhole i (-p).toNat))
  | some (.real x), some p => .ok (.real (x.roundTo p))

/-- The value cut to a number of places, down or up. -/
def roundTowards (up : Bool) (v precision : Value) : Eval Value := do
  let unit ← binaryValue .pow (.int 10) precision
  let scaled ← binaryValue .mul v unit
  let whole ← match scaled.figure? with
    | some (.whole i) => pure i
    | some (.real x) =>
      match if up then (x.neg.floor?).map (- ·) else x.floor? with
      | some i => pure i
      | none => throw (if x.isNaN then .nanInteger else .infiniteInteger)
    | none => throw (.notReal scaled.kind)
  binaryValue .div (.int whole) unit

def roundValue (v precision method : Value) : Eval Value :=
  match method.text? with
  | some "common" => roundCommon v precision
  | some "floor" => roundTowards false v precision
  | some "ceil" => roundTowards true v precision
  | _ => .error .roundMethod

def absValue (v : Value) : Eval Value :=
  match v.figure? with
  | some (.whole i) => .ok (.int i.natAbs)
  | some (.real x) => .ok (.real x.abs)
  | none => .error (.signOperand "abs()" v.kind)

/-! ## Sequences -/

/-- The number of elements or characters. -/
def lengthOf (v : Value) : Eval Nat :=
  match v with
  | .absent _ => .ok 0
  | .text s => .ok s.length
  | .markup s => .ok s.length
  | .list es => .ok es.length
  | .tuple es => .ok es.length
  | .dict es => .ok es.length
  | .range a b s => .ok (Value.rangeLength a b s)
  | .loop _ n _ _ => .ok n
  | v => .error (.noLength v.kind)

def firstOf (v : Value) : Eval Value := do
  let e ← elementsOf v
  match e.values, e.failure with
  | w :: _, _ => return w
  | [], some f => throw f
  | [], none => return .absent .firstItem

/-- Whether the elements of a value can be taken from its end. -/
def isReversible : Value → Bool
  | .absent _ | .text _ | .markup _ | .list _ | .tuple _ | .dict _ | .range _ _ _ => true
  | _ => false

def lastOf (v : Value) : Eval Value :=
  if isReversible v then do
    return ((← listOf v).getLast?).getD (.absent .lastItem)
  else .error (.notReversible v.kind)

/-- The kind of the elements of a value taken from its end. -/
def reverseKind : Value → String
  | .list _ => "list_reverseiterator"
  | .range _ _ _ => "range_iterator"
  | .dict _ => "dict_reversekeyiterator"
  | _ => "reversed"

def reverseValue (v : Value) : Eval Value :=
  match v with
  | .text s => .ok (.text (String.ofList s.toList.reverse))
  | .markup s => .ok (.markup (String.ofList s.toList.reverse))
  | v =>
    if isReversible v then do return .lazy (reverseKind v) (← listOf v).reverse none
    else match elementsOf v with
      | .ok e => do return .list (← e.all).reverse
      | .error _ => .error .reverseSequence

/-- Texts with a separator between them. In escaped output the result is markup if the separator or one of
    the texts is. -/
def joinValuesWith (escape : Bool) (separator : Value) (vs : List Value) : Value :=
  if !escape then .text (String.intercalate separator.display (vs.map Value.display))
  else if separator.isMarkup || vs.any Value.isMarkup then
    .markup (String.intercalate separator.escaped (vs.map Value.escaped))
  else .text (String.intercalate separator.display (vs.map Value.display))

def joinFilter (escape : Bool) (v separator path : Value) : Eval Value := do
  let e ← elementsOf v
  let vs ← match path with
    | .none => pure e.values
    | a => e.values.mapM (followPath none (attributePath a))
  match e.failure with
  | some f => throw f
  | none => return joinValuesWith escape separator vs

def sumValues (v path start : Value) : Eval Value := do
  let e ← elementsOf v
  if start.text?.isSome then throw .sumOfTexts
  let vs ← match path with
    | .none => pure e.values
    | a => e.values.mapM (followPath none (attributePath a))
  let total ← vs.foldlM (binaryValue .add) start
  match e.failure with
  | some f => throw f
  | none => return total

/-- The keys of a value for sorting: one per path, the paths separated by commas. -/
def sortKey (path : Value) (caseSensitive : Bool) (v : Value) : Eval Value := do
  let paths := match path.text? with
    | some s => (s.splitOn ",").map fun p => attributePath (.text p)
    | none => [attributePath path]
  return .list (← paths.mapM fun path => keyOf path caseSensitive v)

def sortValue (v reverse caseSensitive path : Value) : Eval Value := do
  return .list (← sortBy (sortKey path caseSensitive.isTruthy) reverse.isTruthy (← listOf v))

def dictSort (v caseSensitive part reverse : Value) : Eval Value := do
  let position ← match part.text? with
    | some "key" => pure (0 : Int)
    | some "value" => pure (1 : Int)
    | _ => throw .sortKey
  match v with
  | .absent a => throw (.absent a)
  | .dict es =>
    let pairs := es.map fun (k, w) => Value.tuple [k, w]
    return .list (← sortBy (keyOf [.int position] caseSensitive.isTruthy) reverse.isTruthy pairs)
  | v => throw (.noMember v.kind "items")

/-- The least or greatest element by what elements are compared by. -/
def bestValue (op : OrderOp) (v caseSensitive path : Value) : Eval Value := do
  let e ← elementsOf v
  match e.values, e.failure with
  | [], some f => throw f
  | [], none => return .absent .aggregate
  | vs, f =>
    let key := keyOf (attributePath path) caseSensitive.isTruthy
    match ← vs.mapM fun w => return (← key w, w) with
    | [] => return .absent .aggregate
    | first :: rest =>
      let best ← bestBy op first rest
      match f with
      | some f => throw f
      | none => return best.2

/-! ## Filters that apply others -/

/-- Elements computed one after the other; the first failure ends them. -/
def lazily (v : Value) (f : Value → Eval (Option Value)) : Value :=
  let rec go (failure : Option Fault) : List Value → List Value × Option Fault
    | [] => ([], failure)
    | w :: ws =>
      match f w with
      | .error e => ([], some e)
      | .ok none => go failure ws
      | .ok (some r) => let (rs, e) := go failure ws; (r :: rs, e)
  if !v.isTruthy then .lazy "generator" [] none
  else match elementsOf v with
    | .error e => .lazy "generator" [] (some e)
    | .ok e => let (rs, failure) := go e.failure e.values; .lazy "generator" rs failure

/-- Elements whose computation fails before the first one; nothing fails without elements. -/
def failsLazily (v : Value) (f : Fault) : Value :=
  .lazy "generator" [] (if v.isTruthy then some f else none)

/-- A filter as a function of its input and arguments. -/
abbrev FilterFunction :=
  String → Value → List Value → List (String × Value) → Eval Value

/-- What each element is mapped to: a member, or the result of a filter. -/
def mapValue (apply : FilterFunction) (v : Value) (args : List Value)
    (named : List (String × Value)) : Value :=
  match args, named.lookup "attribute" with
  | [], some a =>
    match named.find? fun (n, _) => n != "attribute" && n != "default" with
    | some (n, _) => failsLazily v (.unexpectedArgument n)
    | none =>
      let default := match named.lookup "default" with
        | some .none => none
        | d => d
      lazily v fun w => some <$> followPath default (attributePath a) w
  | [], none => failsLazily v .noFilterName
  | name :: rest, _ =>
    match name.text? with
    | some n => lazily v fun w => some <$> apply n w rest named
    | none => lazily v fun _ => throw (.unknownFilter name.display false)

/-- The elements that a test, or their own truth, accepts or refuses. -/
def selectValue (byAttribute keep : Bool) (v : Value) (args : List Value)
    (named : List (String × Value)) : Value :=
  let select (path : List Value) (testArgs : List Value) : Value :=
    lazily v fun w => do
      let x ← followPath none path w
      let answer ← match testArgs with
        | [] => pure x.isTruthy
        | name :: rest => applyTest name.display x rest named
      return if answer == keep then some w else none
  if byAttribute then
    match args with
    | [] => failsLazily v .noAttributeName
    | attr :: rest => select (attributePath attr) rest
  else select [] args

/-! ## All filters -/

/-- A filter whose arguments have been bound to its parameters. -/
def boundFilter (escape : Bool) (name : String) (v : Value) (b : List (Option Value)) :
    Eval Value :=
  match name with
  | "abs" => absValue v
  | "capitalize" => .ok (onText capitalized v)
  | "count" | "length" => do return .int (← lengthOf v)
  | "d" | "default" =>
    .ok (if v.isAbsent || ((argumentOr b 1 (.bool false)).isTruthy && !v.isTruthy)
      then argumentOr b 0 (.text "") else v)
  | "dictsort" =>
    dictSort v (argumentOr b 0 (.bool false)) (argumentOr b 1 (.text "key"))
      (argumentOr b 2 (.bool false))
  | "e" | "escape" => .ok (.markup v.escaped)
  | "first" => firstOf v
  | "float" => asReal v (argumentOr b 0 (.real (.zero false)))
  | "int" =>
    asWhole v (argumentOr b 0 (.int 0)) (((argumentOr b 1 (.int 10)).whole?).getD 1)
  | "join" => joinFilter escape v (argumentOr b 0 (.text "")) (argumentOr b 1 .none)
  | "last" => lastOf v
  | "list" => do return .list (← listOf v)
  | "lower" => .ok (onText lower v)
  | "max" => bestValue .gt v (argumentOr b 0 (.bool false)) (argumentOr b 1 .none)
  | "min" => bestValue .lt v (argumentOr b 0 (.bool false)) (argumentOr b 1 .none)
  | "replace" =>
    replaceValue escape v (argumentOr b 0 .none) (argumentOr b 1 .none) (argumentOr b 2 .none)
  | "reverse" => reverseValue v
  | "round" => roundValue v (argumentOr b 0 (.int 0)) (argumentOr b 1 (.text "common"))
  | "safe" => .ok (.markup v.display)
  | "sort" =>
    sortValue v (argumentOr b 0 (.bool false)) (argumentOr b 1 (.bool false))
      (argumentOr b 2 .none)
  | "string" => .ok v.soft
  | "sum" => sumValues v (argumentOr b 0 .none) (argumentOr b 1 (.int 0))
  | "title" => .ok (.text (titleText v.display))
  | "trim" =>
    .ok (onText (trimText (match argumentOr b 0 .none with
      | .none => none
      | c => some c.display)) v)
  | "upper" => .ok (onText upper v)
  | name => .error (.unknownFilter name false)

/-- A filter by name; the fuel bounds how many filters are applied through one another. -/
def applyFilterWithin (escape : Bool) : Nat → FilterFunction
  | 0 => fun _ _ _ _ => .error .recursion
  | fuel + 1 => fun name v args named =>
    match name with
    | "map" => .ok (mapValue (applyFilterWithin escape fuel) v args named)
    | "select" => .ok (selectValue false true v args named)
    | "reject" => .ok (selectValue false false v args named)
    | "selectattr" => .ok (selectValue true true v args named)
    | "rejectattr" => .ok (selectValue true false v args named)
    | name =>
      match filterSignatures.lookup name with
      | none => .error (.unknownFilter name false)
      | some s => do boundFilter escape name v (← bindArguments s args named)

/-- A filter by name. Each filter that applies another one hands on fewer arguments. -/
def applyFilter (escape : Bool) : FilterFunction := fun name v args named =>
  applyFilterWithin escape (args.length + 2) name v args named

/-- Filters that look at the template they are in; their results are never known beforehand. -/
def isContextual (name : String) : Bool :=
  ["map", "select", "reject", "selectattr", "rejectattr"].contains name

end RenderBench.Template
