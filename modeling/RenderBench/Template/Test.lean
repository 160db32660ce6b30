import RenderBench.Template.Access
import RenderBench.Text.CaseMap

/-!
# `Template.Test` — questions about values

A test asks something about a value, possibly with an argument.

## Contents
- `plainTests`, `argumentTests`, `comparisonTests`, `isTest`: the tests there are.
- `applyTest`: the answer.
-/

namespace RenderBench.Template

/-- Tests without an argument. -/
def plainTests : List String :=
  ["boolean", "callable", "defined", "escaped", "even", "false", "float", "integer", "iterable",
   "lower", "mapping", "none", "number", "odd", "sequence", "string", "true", "undefined",
   "upper"]

/-- Tests with one argument: their names, and the name of the argument. -/
def argumentTests : List (String × String) := [("divisibleby", "num"), ("in", "seq")]

/-- Tests that compare: their names, and the comparison. -/
def comparisonTests : List (String × String) :=
  [("eq", "eq"), ("equalto", "eq"), ("==", "eq"), ("ne", "ne"), ("!=", "ne"), ("lt", "lt"),
   ("lessthan", "lt"), ("<", "lt"), ("le", "le"), ("<=", "le"), ("gt", "gt"),
   ("greaterthan", "gt"), (">", "gt"), ("ge", "ge"), (">=", "ge")]

def isTest (name : String) : Bool :=
  plainTests.contains name || (argumentTests.lookup name).isSome ||
    (comparisonTests.lookup name).isSome

/-- The remainder of a value by a number is another number. -/
def remainderIs (v : Value) (divisor : Value) (r : Int) : Eval Bool := do
  return (← binaryValue .mod v divisor).eqv (.int r)

/-- The answer of a test without an argument. -/
def plainTest (name : String) (v : Value) : Eval Bool :=
  match name with
  | "boolean" => .ok (match v with
    | .bool _ => true
    | _ => false)
  | "callable" => .ok (match v with
    | .definition _ | .blockRef _ _ | .rangeFunction | .cycle _ | .caller _ => true
    | .absent _ => true
    | _ => false)
  | "defined" => .ok (!v.isAbsent)
  | "undefined" => .ok v.isAbsent
  | "escaped" => .ok v.isMarkup
  | "even" => remainderIs v (.int 2) 0
  | "odd" => remainderIs v (.int 2) 1
  | "true" => .ok (match v with
    | .bool b => b
    | _ => false)
  | "false" => .ok (match v with
    | .bool b => !b
    | _ => false)
  | "float" => .ok (match v with
    | .real _ => true
    | _ => false)
  | "integer" => .ok (match v with
    | .int _ => true
    | _ => false)
  | "iterable" => .ok (elementsOf v).isOk
  | "lower" => .ok (isLowerText v.display)
  | "upper" => .ok (isUpperText v.display)
  | "mapping" => .ok (match v with
    | .dict _ => true
    | _ => false)
  | "none" => .ok (match v with
    | .none => true
    | _ => false)
  | "number" => .ok v.figure?.isSome
  | "sequence" => .ok (match v with
    | .text _ | .markup _ | .list _ | .tuple _ | .dict _ | .range _ _ _ | .absent _ => true
    | _ => false)
  | "string" => .ok v.text?.isSome
  | _ => .error (.unknownTest name false)

/-- The answer of a test with an argument. -/
def argumentTest (name : String) (v w : Value) : Eval Bool :=
  match name with
  | "divisibleby" => remainderIs v w 0
  | "in" => member v w
  | _ => .error (.unknownTest name false)

/-- The answer of a comparison. -/
def comparisonTest (comparison : String) (v w : Value) : Eval Bool :=
  match comparison with
  | "eq" => .ok (v.eqv w)
  | "ne" => .ok (!v.eqv w)
  | "lt" => orderValues .lt v w
  | "le" => orderValues .le v w
  | "gt" => orderValues .gt v w
  | _ => orderValues .ge v w

/-- The answer of a test; its arguments have to be as many as it takes. -/
def applyTest (name : String) (v : Value) (args : List Value) (named : List (String × Value)) :
    Eval Bool :=
  let function := "test_" ++ name
  match comparisonTests.lookup name, argumentTests.lookup name with
  | some comparison, _ =>
    match args, named with
    | [w], [] => comparisonTest comparison v w
    | as, [] => .error (.twoArguments comparison (as.length + 1))
    | _, _ => .error (.noNamedArguments ("_operator." ++ comparison))
  | none, none =>
    if !isTest name then .error (.unknownTest name false)
    else match args, named with
      | [], [] => plainTest name v
      | [], (n, _) :: _ => .error (.unexpectedNamed function n)
      | as, _ => .error (.tooManyArguments function 1 1 (as.length + 1))
  | none, some parameter =>
    match args, named with
    | [w], [] => argumentTest name v w
    | [], [(n, w)] =>
      if n = parameter then argumentTest name v w else .error (.unexpectedNamed function n)
    | [], _ => .error (.missingArguments function [parameter])
    | as, _ => .error (.tooManyArguments function 2 2 (as.length + 1))

end RenderBench.Template
