import RenderBench.Template.Parser.Basic

/-!
# `Template.Parser.Expression` — expressions

From the loosest to the tightest: conditionals, `or`, `and`, `not`, comparisons, sums, joins of texts,
products, powers, signs; then access, calls, filters and tests behind an operand. Every level is given the
parser of whole expressions for what stands in brackets; `expression` ties the knot.

## Contents
- `primary`, `access`, `filtered`, `unary`: operands.
- `power` … `conditional`: the levels.
- `expression`, `sequence`: whole expressions, and several of them as one value.
-/

namespace RenderBench.Template.Parser

open Parse

/-- The parser of whole expressions; the flag tells whether a conditional is allowed. -/
abbrev Whole := Bool → Parse Expr

/-- Whether the current word ends a sequence of expressions: a closing delimiter or parenthesis. -/
def endsSequence : Parse Bool := do
  match ← kind with
  | .printEnd | .tagEnd | .sign .closeParen => return true
  | _ => return false

/-- Elements separated by commas, and whether there was a comma. -/
def commaSeparated {α : Type} (element : Parse α) : Parse (List α × Bool) :=
  iterate (fun (done, comma) => do
    if !done.isEmpty then discard (expectSign .comma)
    if ← endsSequence then return .inr (done, comma)
    let done := done ++ [← element]
    if ← isSign .comma then return .inl (done, true)
    else return .inr (done, comma)) (([] : List α), false)

/-- One or more elements separated by commas; a comma makes a sequence of one element. Without any element
    it is empty, where that is allowed. -/
def sequenceOf (element : Parse Expr) (emptyAllowed : Bool) : Parse Expr := do
  match ← commaSeparated element with
  | ([e], false) => return e
  | ([], false) =>
    if emptyAllowed then return .tuple [] else fail (.expectedExpression (← kind).description)
  | (es, _) => return .tuple es

/-- Elements up to a closing sign, separated by commas; a comma may stand at the end. -/
def elementsUntil {α : Type} (close : Sign) (element : Parse α) : Parse (List α) := do
  let elements ← iterate (fun done => do
    if ← isSign close then return .inr done
    if !done.isEmpty then
      discard (expectSign .comma)
      if ← isSign close then return .inr done
    return .inl (done ++ [← element])) ([] : List α)
  discard (expectSign close)
  return elements

/-- What a name stands for by itself. -/
def nameExpr (n : String) : Expr :=
  if n = "true" ∨ n = "True" then .const (.bool true)
  else if n = "false" ∨ n = "False" then .const (.bool false)
  else if n = "none" ∨ n = "None" then .const .none
  else .name n

/-- Adjacent quoted texts are one text. -/
def joinedTexts (first : String) : Parse String :=
  iterate (fun done => do
    match ← kind with
    | .text s =>
      discard advance
      return .inl (done ++ s)
    | _ => return .inr done) first

/-- A name, a literal, or something in brackets. -/
def primary (whole : Whole) : Parse Expr := do
  let token ← current
  match token.kind with
  | .name n =>
    discard advance
    return nameExpr n
  | .text s =>
    discard advance
    return .const (.text (← joinedTexts s))
  | .integer i =>
    discard advance
    return .const (.int i)
  | .real x =>
    discard advance
    return .const (.real x)
  | .sign .openParen =>
    discard advance
    let e ← sequenceOf (whole true) true
    discard (expectSign .closeParen)
    return e
  | .sign .openBracket =>
    discard advance
    return .list (← elementsUntil .closeBracket (whole true))
  | .sign .openBrace =>
    discard advance
    let entries ← elementsUntil .closeBrace (do
      let key ← whole true
      discard (expectSign .colon)
      return (key, ← whole true))
    return .dict (entries.map Prod.fst) (entries.map Prod.snd)
  | k => failAt token.line (.unexpectedToken k.description)

/-! ## Calls -/

/-- Arguments read so far. -/
structure CallArguments where
  args : List Expr := []
  names : List String := []
  values : List Expr := []
  /-- Whether a sequence has been spread into arguments. -/
  spread : Bool := false
  /-- Whether a mapping has been spread into named arguments. -/
  spreadNamed : Bool := false

/-- The fault of arguments in the wrong order, on the line of their parenthesis. -/
def ensureOrder (line : Nat) (ok : Bool) : Parse Unit :=
  if ok then pure () else failAt line .callArguments

/-- One argument. Arguments by position come first, then named ones; spread ones come last. -/
def callArgument (whole : Whole) (line : Nat) (a : CallArguments) : Parse CallArguments := do
  match ← kind with
  | .sign .mul =>
    ensureOrder line (!a.spread && !a.spreadNamed)
    discard advance
    return { a with args := a.args ++ [.spread (← whole true)], spread := true }
  | .sign .pow =>
    ensureOrder line (!a.spreadNamed)
    discard advance
    return { a with args := a.args ++ [.spreadNamed (← whole true)], spreadNamed := true }
  | .name n =>
    if (← look) == .sign .assign then
      ensureOrder line (!a.spreadNamed)
      discard advance
      discard advance
      return { a with names := a.names ++ [n], values := a.values ++ [← whole true] }
    else
      ensureOrder line (!a.spread && !a.spreadNamed && a.names.isEmpty)
      return { a with args := a.args ++ [← whole true] }
  | _ =>
    ensureOrder line (!a.spread && !a.spreadNamed && a.names.isEmpty)
    return { a with args := a.args ++ [← whole true] }

/-- The arguments in parentheses. -/
def callArguments (whole : Whole) : Parse CallArguments := do
  let opener ← expectSign .openParen
  let a ← iterate (fun (a, started) => do
    if ← isSign .closeParen then return .inr a
    if started then
      discard (expectSign .comma)
      if ← isSign .closeParen then return .inr a
    return .inl (← callArgument whole opener.line a, true)) (({} : CallArguments), false)
  discard (expectSign .closeParen)
  return a

def callOf (whole : Whole) (function : Expr) : Parse Expr := do
  let a ← callArguments whole
  return .call function a.args a.names a.values

/-! ## Access -/

/-- The second or third bound of a slice; the constant `none` when it is left out. -/
def sliceBound (whole : Whole) : Parse Expr := do
  match ← kind with
  | .sign .closeBracket | .sign .comma => return .const .none
  | _ => whole true

/-- An index or a slice. -/
def subscript (whole : Whole) : Parse Expr := do
  let start ← if ← isSign .colon then pure (Expr.const .none) else whole true
  if ← skipSign .colon then
    let stop ← if ← isSign .colon then pure (Expr.const .none) else sliceBound whole
    let step ← if ← skipSign .colon then sliceBound whole else pure (Expr.const .none)
    return .slice start stop step
  else return start

/-- The subscripts in brackets, up to the closing one. -/
def subscripts (whole : Whole) : Parse (List Expr) := do
  let elements ← iterate (fun done => do
    if ← isSign .closeBracket then return .inr done
    if !done.isEmpty then discard (expectSign .comma)
    return .inl (done ++ [← subscript whole])) ([] : List Expr)
  discard (expectSign .closeBracket)
  return elements

/-- A member after a point: a name, or a whole number as an index. -/
def member (object : Expr) : Parse Expr := do
  discard advance
  let token ← advance
  match token.kind with
  | .name n => return .attribute object n
  | .integer i => return .item object (.const (.int i))
  | _ => failAt token.line .expectedNameOrNumber

/-- Members, subscripts and calls after an operand. -/
def access (whole : Whole) (operand : Expr) : Parse Expr :=
  iterate (fun e => do
    match ← kind with
    | .sign .dot => return .inl (← member e)
    | .sign .openBracket =>
      discard advance
      match ← subscripts whole with
      | [i] => return .inl (.item e i)
      | is => return .inl (.item e (.tuple is))
    | .sign .openParen => return .inl (← callOf whole e)
    | _ => return .inr e) operand

/-! ## Filters and tests -/

/-- A name with points in it. -/
def dottedName : Parse (Nat × String) := do
  let (line, first) ← expectAnyName
  let name ← iterate (fun done => do
    if ← skipSign .dot then return .inl (done ++ "." ++ (← expectAnyName).2)
    else return .inr done) first
  return (line, name)

/-- One filter after its sign. -/
def filterAfter (whole : Whole) (input : Expr) : Parse Expr := do
  let (line, name) ← dottedName
  if ← isSign .openParen then
    let a ← callArguments whole
    return .filter line input name a.args a.names a.values
  else return .filter line input name [] [] []

/-- Filters after an input, each behind its sign. -/
def filters (whole : Whole) (input : Expr) : Parse Expr :=
  iterate (fun e => do
    if ← skipSign .pipe then return .inl (← filterAfter whole e)
    else return .inr e) input

/-- Whether a word can begin the argument of a test that has no parentheses. -/
def beginsArgument (k : TokenKind) : Bool :=
  match k with
  | .name n => !(n == "else" || n == "or" || n == "and")
  | .text _ | .integer _ | .real _ => true
  | .sign .openBracket | .sign .openBrace => true
  | _ => false

/-- A test after its operand, from the word `is` on. -/
def testAfter (whole : Whole) (operand : Expr) : Parse Expr := do
  let token ← advance
  let negated ← skipName "not"
  let (_, name) ← dottedName
  let a : CallArguments ←
    if ← isSign .openParen then callArguments whole
    else if beginsArgument (← kind) then do
      if ← isName "is" then fail .chainedTests
      pure { args := [← access whole (← primary whole)] }
    else pure {}
  let e := Expr.test token.line operand name a.args a.names a.values
  return if negated then .unary .not e else e

/-- Filters, tests and calls after an operand. -/
def filtered (whole : Whole) (operand : Expr) : Parse Expr :=
  iterate (fun e => do
    match ← kind with
    | .sign .pipe =>
      discard advance
      return .inl (← filterAfter whole e)
    | .name "is" => return .inl (← testAfter whole e)
    | .sign .openParen => return .inl (← callOf whole e)
    | _ => return .inr e) operand

/-! ## Levels -/

/-- Signs before an operand; filters apply to the operand with all its signs. -/
def unaryWithin (whole : Whole) : Nat → Bool → Parse Expr
  | 0, _ => fail .tooDeep
  | n + 1, filtersToo => do
    let e ← match ← kind with
      | .sign .sub =>
        discard advance
        pure (Expr.unary .neg (← unaryWithin whole n false))
      | .sign .add =>
        discard advance
        pure (Expr.unary .pos (← unaryWithin whole n false))
      | _ => primary whole
    let e ← access whole e
    if filtersToo then filtered whole e else return e

def unary (whole : Whole) : Parse Expr := do unaryWithin whole (← wordsLeft) true

/-- Operands joined by operators of one level, from the left. -/
def leftChain (operand : Parse Expr) (operator : TokenKind → Option BinaryOp) : Parse Expr := do
  let first ← operand
  iterate (fun left => do
    match operator (← kind) with
    | some op =>
      discard advance
      return .inl (.binary op left (← operand))
    | none => return .inr left) first

def power (whole : Whole) : Parse Expr :=
  leftChain (unary whole) fun
    | .sign .pow => some .pow
    | _ => none

def product (whole : Whole) : Parse Expr :=
  leftChain (power whole) fun
    | .sign .mul => some .mul
    | .sign .div => some .div
    | .sign .floorDiv => some .floorDiv
    | .sign .mod => some .mod
    | _ => none

/-- Texts joined by `~`. -/
def joined (whole : Whole) : Parse Expr := do
  let first ← product whole
  let parts ← iterate (fun done => do
    if ← skipSign .tilde then return .inl (done ++ [← product whole])
    else return .inr done) [first]
  match parts with
  | [e] => return e
  | es => return .concat es

def sum (whole : Whole) : Parse Expr :=
  leftChain (joined whole) fun
    | .sign .add => some .add
    | .sign .sub => some .sub
    | _ => none

/-- The comparison the current words begin, which are gone past. -/
def comparator? : Parse (Option CompareOp) := do
  let signed (op : CompareOp) : Parse (Option CompareOp) := do
    discard advance
    return some op
  match ← kind with
  | .sign .eq => signed .eq
  | .sign .ne => signed .ne
  | .sign .lt => signed .lt
  | .sign .le => signed .le
  | .sign .gt => signed .gt
  | .sign .ge => signed .ge
  | .name "in" => signed .mem
  | .name "not" =>
    if (← look) == .name "in" then
      discard advance
      signed .notMem
    else return none
  | _ => return none

def comparison (whole : Whole) : Parse Expr := do
  let first ← sum whole
  let (ops, operands) ← iterate (fun (ops, operands) => do
    match ← comparator? with
    | some op => return .inl (ops ++ [op], operands ++ [← sum whole])
    | none => return .inr (ops, operands)) (([] : List CompareOp), ([] : List Expr))
  if ops.isEmpty then return first else return .compare first ops operands

def negationWithin (whole : Whole) : Nat → Parse Expr
  | 0 => fail .tooDeep
  | n + 1 => do
    if ← skipName "not" then return .unary .not (← negationWithin whole n)
    else comparison whole

def negation (whole : Whole) : Parse Expr := do negationWithin whole (← wordsLeft)

def conjunction (whole : Whole) : Parse Expr := do
  let first ← negation whole
  iterate (fun left => do
    if ← skipName "and" then return .inl (.and left (← negation whole))
    else return .inr left) first

def disjunction (whole : Whole) : Parse Expr := do
  let first ← conjunction whole
  iterate (fun left => do
    if ← skipName "or" then return .inl (.or left (← conjunction whole))
    else return .inr left) first

/-- `a if t else b`, where the alternative may be a conditional again or be left out. -/
def conditionalWithin (whole : Whole) : Nat → Parse Expr
  | 0 => fail .tooDeep
  | n + 1 => do
    let start ← line
    let first ← disjunction whole
    let (e, _) ← iterate (fun (e, start) => do
      if ← skipName "if" then
        let test ← disjunction whole
        let e ← if ← skipName "else" then
            pure (Expr.ifElse test e (← conditionalWithin whole n))
          else pure (Expr.ifOnly start test e)
        return .inl (e, ← line)
      else return .inr (e, start)) (first, start)
    return e

def conditional (whole : Whole) : Parse Expr := do conditionalWithin whole (← wordsLeft)

/-- Whole expressions; the fuel bounds how deeply brackets are nested. -/
def expressionWithin : Nat → Whole
  | 0 => fun _ => fail .tooDeep
  | n + 1 => fun conditionals =>
    if conditionals then conditional (expressionWithin n) else disjunction (expressionWithin n)

/-- A whole expression. Brackets are never nested more deeply than there are words. -/
def expression : Whole := fun conditionals => do
  expressionWithin (← wordsLeft) conditionals

/-- An expression, or several separated by commas as one value. -/
def sequence (conditionals : Bool) : Parse Expr := sequenceOf (expression conditionals) false

end RenderBench.Template.Parser
