import RenderBench.Template.Operators

/-!
# `Template.Sorting` — sorting values that may not be comparable

Sorting is stable. Values are compared in a fixed order, so that of several pairs that cannot be compared it
is always the same one that is reported: first along the sorted run at the front, then each further value
against the middle of the sorted part.

## Contents
- `frontRun`: the run at the front, put in order.
- `insertSorted`: one value put into its place.
- `sortBy`, `bestBy`: sorting, and the least or greatest value.
-/

namespace RenderBench.Template

/-- A value with what it is sorted by. -/
abbrev Keyed := Value × Value

/-- Whether the first key is below the second one. -/
def keyLt (a b : Keyed) : Eval Bool := orderValues .lt a.1 b.1

/-- The values at the front that go on in one direction after `last`, and the rest. -/
def spanRun (descending : Bool) (last : Keyed) : List Keyed → Eval (List Keyed × List Keyed)
  | [] => .ok ([], [])
  | x :: xs => do
    if (← keyLt x last) == descending then
      let (run, rest) ← spanRun descending x xs
      return (x :: run, rest)
    else return ([], x :: xs)

/-- The run at the front in increasing order, and the rest. -/
def frontRun : List Keyed → Eval (List Keyed × List Keyed)
  | [] => .ok ([], [])
  | [x] => .ok ([x], [])
  | x :: y :: rest => do
    let descending ← keyLt y x
    let (run, rest) ← spanRun descending y rest
    let run := x :: y :: run
    return (if descending then run.reverse else run, rest)

/-- Where a value belongs among `sorted[low..high]`, after those equal to it. -/
def placeWithin (x : Keyed) (sorted : Array Keyed) : Nat → Nat → Nat → Eval Nat
  | 0, low, _ => .ok low
  | fuel + 1, low, high => do
    if low < high then
      let middle := low + (high - low) / 2
      match sorted[middle]? with
      | some y =>
        if ← keyLt x y then placeWithin x sorted fuel low middle
        else placeWithin x sorted fuel (middle + 1) high
      | none => return low
    else return low

def insertSorted (sorted : List Keyed) (x : Keyed) : Eval (List Keyed) := do
  let a := sorted.toArray
  let place ← placeWithin x a (a.size + 1) 0 a.size
  return sorted.take place ++ x :: sorted.drop place

/-- Values in increasing order of their keys. -/
def sortKeyed (xs : List Keyed) : Eval (List Keyed) := do
  let (run, rest) ← frontRun xs
  rest.foldlM insertSorted run

/-- Values in the order of their keys; in decreasing order equal ones still keep their places. -/
def sortBy (key : Value → Eval Value) (descending : Bool) (vs : List Value) :
    Eval (List Value) := do
  let keyed ← vs.mapM fun v => return (← key v, v)
  if descending then return (← sortKeyed keyed.reverse).reverse.map Prod.snd
  else return (← sortKeyed keyed).map Prod.snd

/-- The first of the values whose key no other one is before. -/
def bestBy (op : OrderOp) (first : Keyed) : List Keyed → Eval Keyed
  | [] => .ok first
  | x :: xs => do
    if ← orderValues op x.1 first.1 then bestBy op x xs else bestBy op first xs

end RenderBench.Template
