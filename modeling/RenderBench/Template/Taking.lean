import RenderBench.Template.Execute

/-!
# `Template.Taking` — blocks that take items away

The items of a rendering are a list that the block is given and may shorten: `items.pop()` gives the last of them and
takes it off the list. It does so where it is an output by itself among the statements of a block that binds no names,
so that the rest of the block can be rendered by itself with the items that are left. Elsewhere no value has methods.

## Contents
- `Expr.isTake`, `Stmt.isTaking`, `Stmt.binds`, `Block.takes`: blocks that take items.
- `splitPieces`, `splitStmts`: a body between the places where it takes one.
- `takeRest`, `takeAll`: what such a block writes, and the items it leaves.
-/

namespace RenderBench.Template

/-- The call that takes the last item. -/
def Expr.isTake : Expr → Bool
  | .call (.attribute (.name n) attr) [] [] [] => n == "items" && attr == "pop"
  | _ => false

def Piece.isTake : Piece → Bool
  | .text _ => false
  | .value e => e.isTake

/-- Whether a statement is an output that takes an item. -/
def Stmt.isTaking : Stmt → Bool
  | .output pieces => pieces.any Piece.isTake
  | _ => false

mutual

/-- Whether the statements behind a statement may see names that it binds. -/
def Stmt.binds : Stmt → Bool
  | .assign _ _ | .capture _ _ _ | .definition _ _ _ _ | .importing _ _ => true
  | .branch _ body otherwise => Stmt.anyBinds body || Stmt.anyBinds otherwise
  | _ => false

def Stmt.anyBinds : List Stmt → Bool
  | [] => false
  | s :: ss => s.binds || Stmt.anyBinds ss

end

def Block.takes (b : Block) : Bool := b.body.any Stmt.isTaking && !Stmt.anyBinds b.body

/-! ## Between the places -/

/-- The pieces before the first one that takes an item, and those after each that does. -/
def splitPieces : List Piece → List Piece × List (List Piece)
  | [] => ([], [])
  | p :: ps =>
    let (first, rest) := splitPieces ps
    if p.isTake then ([], first :: rest) else (p :: first, rest)

/-- The parts of an output in front of the parts of the statements behind it. -/
def joinParts (first : List Piece) : List (List Piece) → List Stmt × List (List Stmt) → List Stmt × List (List Stmt)
  | [], (stmts, rest) => (.output first :: stmts, rest)
  | next :: more, parts =>
    let (stmts, rest) := joinParts next more parts
    ([.output first], stmts :: rest)

/-- The statements before the first place that takes an item, and those after each that does. -/
def splitStmts : List Stmt → List Stmt × List (List Stmt)
  | [] => ([], [])
  | .output pieces :: ss => joinParts (splitPieces pieces).1 (splitPieces pieces).2 (splitStmts ss)
  | s :: ss => (s :: (splitStmts ss).1, (splitStmts ss).2)

/-! ## Taking -/

/-- A rendering, and then another one if it did not fail. What is left of the items is what the last one leaves. -/
def andLeaving (t : Trace Unit) (items : List Value) (next : Trace Unit × List Value) : Trace Unit × List Value :=
  match t.result with
  | .ok _ => (t >>= fun _ => next.1, next.2)
  | .error _ => (t, items)

section

variable (escape : Bool) (part : List Stmt → List Value → Trace Unit)

/-- Parts of a body each of which comes after an item that is taken. -/
def takeRest (items : List Value) : List (List Stmt) → Trace Unit × List Value
  | [] => (pure (), items)
  | ss :: rest =>
    match items.getLast? with
    | none => (Trace.fail .noItems, items)
    | some v =>
      andLeaving (Trace.write (v.written escape) >>= fun _ => part ss items.dropLast) items.dropLast
        (takeRest items.dropLast rest)

/-- All parts of a body, from the first one on. -/
def takeAll (items : List Value) (parts : List Stmt × List (List Stmt)) : Trace Unit × List Value :=
  andLeaving (part parts.1 items) items (takeRest escape part items parts.2)

end

end RenderBench.Template
