import RenderBench.Template.Constant
import RenderBench.Template.SyntaxFault

/-!
# `Template.Check` — what is wrong with a document besides its form

A document that could be read may still name a filter or test that does not exist, define a block twice,
assign to the state of a loop, or inherit inside a statement. The first of these faults is reported, the
statements outside all blocks coming before the blocks. Where there is none, the code that is generated from the
document is checked in the same way: a call may give an argument twice, a definition may have two parameters of one
name, and loops may be nested too deeply in one function.

## Contents
- `blocksOf`: the named parts of a document, the outer ones before those inside them.
- `loopStore?`: assignments to the state of a loop.
- `Glance`, `checkArguments`, `checkParameters`, `checkNesting`: faults of the generated code.
- `checkExpr`, `checkStmt`: the faults of expressions and statements.
- `Document.ofStatements`: the document that statements make up.
-/

namespace RenderBench.Template

/-! ## Blocks -/

mutual

def blocksOf : Stmt → List Block
  | .block line name withLocals required body =>
    ⟨name, line, withLocals, required, body⟩ :: blocksOfAll body
  | .forLoop _ _ _ _ body otherwise => blocksOfAll body ++ blocksOfAll otherwise
  | .branch _ body otherwise => blocksOfAll body ++ blocksOfAll otherwise
  | .capture _ _ body => blocksOfAll body
  | .scope _ _ body => blocksOfAll body
  | .definition _ _ _ body => blocksOfAll body
  | .callBlock _ _ _ body => blocksOfAll body
  | .filterBlock _ body => blocksOfAll body
  | .escaping _ body => blocksOfAll body
  | .output _ => []
  | .assign _ _ => []
  | .inherit _ _ => []
  | .embed _ _ _ => []
  | .importing _ _ => []

def blocksOfAll : List Stmt → List Block
  | [] => []
  | s :: ss => blocksOf s ++ blocksOfAll ss

end

/-- The first block whose name an earlier one has. -/
def repeatedBlock? (seen : List String) : List Block → Option Block
  | [] => none
  | b :: bs => if seen.contains b.name then some b else repeatedBlock? (b.name :: seen) bs

/-! ## Assignments to the state of a loop -/

mutual

/-- The line of the name `loop` in a target. -/
def loopTarget? : Target → Option Nat
  | .name line n => if n = "loop" then some line else none
  | .tuple ts => loopTargets? ts
  | .member _ _ => none

def loopTargets? : List Target → Option Nat
  | [] => none
  | t :: ts => (loopTarget? t).or (loopTargets? ts)

end

mutual

/-- The line of the first assignment to `loop` anywhere in a statement. -/
def loopStore? : Stmt → Option Nat
  | .forLoop target _ _ _ body otherwise =>
    (loopTarget? target).or ((loopStores? body).or (loopStores? otherwise))
  | .branch _ body otherwise => (loopStores? body).or (loopStores? otherwise)
  | .assign target _ => loopTarget? target
  | .capture target _ body => (loopTarget? target).or (loopStores? body)
  | .scope _ _ body => loopStores? body
  | .block _ _ _ _ body => loopStores? body
  | .definition _ _ _ body => loopStores? body
  | .callBlock _ _ _ body => loopStores? body
  | .filterBlock _ body => loopStores? body
  | .escaping _ body => loopStores? body
  | .output _ => none
  | .inherit _ _ => none
  | .embed _ _ _ => none
  | .importing _ _ => none

def loopStores? : List Stmt → Option Nat
  | [] => none
  | s :: ss => (loopStore? s).or (loopStores? ss)

end

/-! ## Expressions -/

/-- A check that finds a fault or nothing. -/
abbrev Check := Except SyntaxFault Unit

/-- The first fault of several checks. -/
def firstFault : List Check → Check
  | [] => .ok ()
  | c :: cs => do
    c
    firstFault cs

/-- A fault unless a condition holds. -/
def ensure (ok : Bool) (line : Nat) (cause : SyntaxCause) : Check :=
  if ok then .ok () else .error ⟨line, cause⟩

/-- How an expression is looked at. -/
structure Glance where
  /-- Whether unknown filters and tests are noticed only when they are used. -/
  soft : Bool
  /-- Whether the generated code is looked at as well. -/
  code : Bool

/-- Where an expression is used under a condition only. -/
def Glance.used (g : Glance) : Glance := { g with soft := true }

/-- Where it is used in any case. -/
def Glance.hard (g : Glance) : Glance := { g with soft := false }

/-! ### Generated code -/

/-- The first name that stands again behind itself. -/
def repeated? : List String → Option String
  | [] => none
  | n :: ns => if ns.contains n then some n else repeated? ns

/-- Words that cannot be names in the generated code. -/
def reservedWords : List String :=
  ["False", "None", "True", "and", "as", "assert", "async", "await", "break", "class", "continue", "def", "del", "elif",
    "else", "except", "finally", "for", "from", "global", "if", "import", "in", "is", "lambda", "nonlocal", "not", "or",
    "pass", "raise", "return", "try", "while", "with", "yield"]

/-- A fault of the code if a condition does not hold and the code is looked at. -/
def ensureCode (code ok : Bool) (f : CodeFault) : Check := ensure (!code || ok) 0 (.code f)

/-- Arguments given by name. With a reserved word among them they are given as a mapping, in which the last one counts. -/
def checkArguments (g : Glance) (names : List String) : Check :=
  match repeated? names with
  | some n => ensureCode g.code (names.any reservedWords.contains) (.repeatedArgument n)
  | none => .ok ()

def checkParameters (g : Glance) (params : List String) : Check :=
  match repeated? params with
  | some n => ensureCode g.code false (.repeatedParameter n)
  | none => .ok ()

/-- How deeply loops and handlers may be nested in a function. -/
def nestingLimit : Nat := 20

def checkNesting (g : Glance) (depth : Nat) : Check := ensureCode g.code (depth ≤ nestingLimit) .nesting

/-! ### Names and arguments -/

mutual

/-- The unknown filters and tests of an expression, and the arguments that are given twice. -/
def checkExpr (g : Glance) : Expr → Check
  | .const _ => .ok ()
  | .name _ => .ok ()
  | .captured => .ok ()
  | .list es => firstFault (checksOf g es)
  | .tuple es => firstFault (checksOf g es)
  | .dict ks vs => firstFault (inTurns (checksOf g ks) (checksOf g vs))
  | .attribute e _ => checkExpr g e
  | .item e i => do
    checkExpr g e
    checkExpr g i
  | .slice a b c => do
    checkExpr g a
    checkExpr g b
    checkExpr g c
  | .call f args names values => do
    checkArguments g names
    checkExpr g f
    firstFault (checksOf g args)
    firstFault (checksOf g values)
  | .filter line e name args names values => do
    ensure (g.soft || isFilter name) line (.unknownFilter name)
    checkArguments g names
    checkExpr g e
    firstFault (checksOf g args)
    firstFault (checksOf g values)
  | .test line e name args names values => do
    ensure (g.soft || isTest name) line (.unknownTest name)
    checkArguments g names
    checkExpr g e
    firstFault (checksOf g args)
    firstFault (checksOf g values)
  | .unary _ e => checkExpr g e
  | .binary _ a b => do
    checkExpr g a
    checkExpr g b
  | .concat es => firstFault (checksOf g es)
  | .and a b => do
    checkExpr g a
    checkExpr g b
  | .or a b => do
    checkExpr g a
    checkExpr g b
  | .compare e _ es => do
    checkExpr g e
    firstFault (checksOf g es)
  | .ifElse t a b => do
    checkExpr g.used a
    checkExpr g.used t
    checkExpr g.used b
  | .ifOnly _ t a => do
    checkExpr g.used a
    checkExpr g.used t
  | .spread e => checkExpr g e
  | .spreadNamed e => checkExpr g e

/-- The check of each of several expressions. -/
def checksOf (g : Glance) : List Expr → List Check
  | [] => []
  | e :: es => checkExpr g e :: checksOf g es

end

def checkExprs (g : Glance) (es : List Expr) : Check := firstFault (checksOf g es)

/-- Output whose value is known has no faults. -/
def checkPieces (escape : Bool) (g : Glance) : List Piece → Check
  | [] => .ok ()
  | .text _ :: ps => checkPieces escape g ps
  | .value e :: ps => do
    if (constValue escape e).isNone then checkExpr g e
    checkPieces escape g ps

/-! ## Statements -/

/-- Where a statement stands. -/
structure Place extends Glance where
  /-- Whether nothing but conditions is around it. -/
  top : Bool
  /-- Whether the document inherits, so that its own output is nothing. -/
  inherits : Bool
  /-- How many loops and handlers are around it in its function. -/
  depth : Nat := 0
  /-- Whether the output around it is kept. -/
  buffered : Bool := false

namespace Place

/-- Outside all blocks. -/
def root (code inherits : Bool) : Place := { soft := false, code, top := true, inherits }

/-- In a block, which is a function of its own. -/
def alone (code : Bool) : Place := { soft := false, code, top := false, inherits := false }

/-- Below a statement with names of its own. -/
def inner (p : Place) : Place := { p with soft := false, top := false }

/-- Below a condition. -/
def conditional (p : Place) : Place := { p with soft := true }

/-- In a loop. A recursive one is a function that keeps its output. -/
def looped (p : Place) (recursive : Bool) : Place :=
  if recursive then { p.inner with depth := 1, buffered := true } else { p.inner with depth := p.depth + 1 }

/-- Behind the elements of a loop. -/
def afterLoop (p : Place) (recursive : Bool) : Place :=
  if recursive then { p.inner with depth := 0, buffered := true } else p.inner

/-- In a function that keeps its output. -/
def called (p : Place) : Place := { alone p.code with buffered := true }

/-- In a body whose output is kept. -/
def kept (p : Place) : Place := { alone p.code with depth := p.depth, buffered := true }

/-- In a body whose output goes through a filter. -/
def filtered (p : Place) : Place := { p.inner with buffered := true }

end Place

/-- How deeply the code of an embedded document is nested: in a loop over what it writes if it sees the names around it,
    and in a handler if it may be missing. -/
def embedDepth (ignoreMissing withContext : Bool) : Nat :=
  if ignoreMissing then 2 else if withContext then 1 else 0

/-- The arguments that a call gives by name. -/
def callNames : Expr → List String
  | .call _ _ names _ => names
  | _ => []

mutual

def checkStmt (escape : Bool) (p : Place) : Stmt → Check
  | .output pieces => if p.inherits then .ok () else checkPieces escape p.toGlance pieces
  | .forLoop target source condition recursive body otherwise => do
    match condition with
    | some c => checkExpr p.hard c
    | none => pure ()
    match loopStore? (.forLoop target source condition recursive body otherwise) with
    | some line => throw ⟨line, .loopTarget⟩
    | none => pure ()
    checkExpr p.toGlance source
    checkNesting p.toGlance (p.looped recursive).depth
    checkStmts escape (p.looped recursive) body
    checkStmts escape (p.afterLoop recursive) otherwise
  | .branch test body otherwise => do
    checkExpr p.used test
    checkStmts escape p.conditional body
    checkStmts escape p.conditional otherwise
  | .assign _ value => checkExpr p.toGlance value
  | .capture _ filter body => do
    checkStmts escape p.kept body
    match filter with
    | some f => checkExpr p.hard f
    | none => pure ()
  | .scope _ values body => do
    checkExprs p.toGlance values
    checkStmts escape p.inner body
  | .block _ _ _ _ _ => checkNesting p.toGlance (if p.buffered then p.depth + 1 else p.depth)
  | .inherit line parent => do
    ensure p.top line .nestedInherit
    checkExpr p.toGlance parent
  | .embed source ignoreMissing withContext => do
    checkExpr p.toGlance source
    checkNesting p.toGlance (p.depth + embedDepth ignoreMissing withContext)
  | .definition _ params defaults body => do
    checkParameters p.toGlance params
    checkExprs p.hard defaults
    checkStmts escape p.called body
  | .callBlock params defaults call body => do
    checkParameters p.toGlance params
    checkExprs p.hard defaults
    checkStmts escape p.called body
    checkArguments p.toGlance (callNames call ++ ["caller"])
    checkExpr p.toGlance call
  | .filterBlock filter body => do
    checkStmts escape p.filtered body
    checkExpr p.hard filter
  | .escaping value body => do
    checkExpr p.hard value
    checkStmts escape p.inner body
  | .importing source _ => checkExpr p.toGlance source

/-- Statements one after the other; nothing after a second inheritance is looked at. -/
def checkStmts (escape : Bool) (p : Place) : List Stmt → Check
  | [] => .ok ()
  | s :: ss =>
    match s with
    | .inherit line parent =>
      if p.top && p.inherits then .ok ()
      else do
        checkStmt escape p (.inherit line parent)
        checkStmts escape p ss
    | s => do
      checkStmt escape p s
      checkStmts escape p ss

end

/-- The statements of a document outside all blocks. -/
def checkRoot (code escape inherits : Bool) : List Stmt → Check
  | [] => .ok ()
  | .inherit line parent :: ss =>
    if inherits then .ok ()
    else do
      checkStmt escape (.root code false) (.inherit line parent)
      checkRoot code escape true ss
  | s :: ss => do
    checkStmt escape (.root code inherits) s
    checkRoot code escape inherits ss

/-- The statements of each block. -/
def checkBlocks (code escape : Bool) : List Block → Check
  | [] => .ok ()
  | b :: bs => do
    checkStmts escape (.alone code) b.body
    checkBlocks code escape bs

/-- All statements of a document. -/
def checkAll (code escape : Bool) (body : List Stmt) (blocks : List Block) : Check := do
  checkRoot code escape false body
  checkBlocks code escape blocks

/-- A block with constants in place of what is known. It is rendered by itself, so that whether its output is escaped
    does not depend on the statements around it. -/
def Block.fold (escape : Bool) (b : Block) : Block := { b with body := Stmt.foldAll escape b.body }

/-- The document that statements make up, with constants in place of what is known. Its code is generated where it has
    no other faults. -/
def Document.ofStatements (name : Option String) (escape : Bool) (statements : List Stmt) :
    Except SyntaxFault Document := do
  let body := Stmt.foldAll escape statements
  let blocks := (blocksOfAll statements).map (Block.fold escape)
  match repeatedBlock? [] blocks with
  | some b => throw ⟨b.line, .blockTwice b.name⟩
  | none => pure ()
  checkAll false escape body blocks
  checkAll true escape body blocks
  return { name, escape, body, blocks }

end RenderBench.Template
