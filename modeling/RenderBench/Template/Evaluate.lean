import RenderBench.Template.Constant
import RenderBench.Template.Mention
import RenderBench.Template.Scope
import RenderBench.Template.Trace

/-!
# `Template.Evaluate` — the value of an expression

Evaluation looks at a scope and changes nothing. Calls of definitions and blocks render statements, which
is left to a `Machine`: what it can do is bounded by how deeply calls are nested.

## Contents
- `Machine`: rendering of statements, evaluation one call down, and other documents.
- `callRange`, `callCycle`, `callDefinition`, `callBlock`: calls.
- `evaluate`: the value of an expression.
-/

namespace RenderBench.Template

/-- What evaluation and rendering need from one call down. -/
structure Machine where
  run : Scope → List Stmt → Trace Scope
  evaluate : Scope → Expr → Eval Value
  /-- A document from the statements outside its blocks on. -/
  runDocument : Scope → Document → Trace Unit
  /-- The document of a file. -/
  load : String → Eval Document

/-- Arguments of a call. -/
structure CallValues where
  args : List Value
  named : List (String × Value)

/-! ## Calls -/

/-- A range from one to three whole numbers. -/
def callRange (c : CallValues) : Eval Value := do
  if !c.named.isEmpty then throw (.noNamedArguments "range")
  let whole (v : Value) : Eval Int :=
    match v with
    | .absent _ => .error (.notIndex v.kind)
    | v => v.whole?.elim (.error (.notIndex v.kind)) .ok
  match ← (c.args.take 3).mapM whole, c.args.length with
  | [b], 1 => return .range 0 b 1
  | [a, b], 2 => return .range a b 1
  | [a, b, s], 3 => if s = 0 then throw .rangeStep else return .range a b s
  | _, 0 => throw .rangeFew
  | _, n => throw (.rangeMany n)

/-- The argument whose turn it is. -/
def callCycle (index : Nat) (c : CallValues) : Eval Value :=
  match c.named with
  | (n, _) :: _ => .error (.unexpectedNamed "LoopContext.cycle" n)
  | [] =>
    match c.args[index % c.args.length]? with
    | some v => .ok v
    | none => .error .noCycle

/-- What a definition's parameters are bound to: arguments by position, then by name, then defaults, which
    may look at the parameters before them. -/
def bindParams (m : Machine) (s : Scope) (named : List (String × Value)) :
    List String → List (Option Expr) → List Value → Bindings → Eval Bindings
  | p :: ps, d :: ds, args, done =>
    match args with
    | v :: vs => bindParams m s named ps ds vs ((p, v) :: done)
    | [] => do
      let v ← match named.lookup p, d with
        | some v, _ => pure v
        | none, some e => m.evaluate (s.inside done) e
        | none, none => pure (.absent (.parameter p))
      bindParams m s named ps ds [] ((p, v) :: done)
  | _, _, _, done => .ok done

/-- The text of a definition's body. -/
def callDefinition (m : Machine) (s : Scope) (d : Definition) (c : CallValues) : Eval Value := do
  let open_ := d.params.drop c.args.length
  let takesCaller := Stmt.anyMentions "caller" d.body && !d.params.contains "caller"
  let extra := c.named.filter fun (n, _) => !(open_.contains n || takesCaller && n == "caller")
  match extra with
  | (n, _) :: _ => throw (.definitionNamed d.name n)
  | [] => pure ()
  if d.params.length < c.args.length then throw (.definitionMany d.name d.params.length)
  let outer : Scope :=
    { s with
      frames := s.frames.drop (s.frames.length - d.depth)
      escape := d.escape
      top := false
      parent := none }
  let caller : Bindings :=
    if takesCaller then [("caller", (c.named.lookup "caller").getD (.absent .caller))] else []
  let noDefaults := List.replicate (d.params.length - d.defaults.length) none
  let bound ← bindParams m outer c.named d.params (noDefaults ++ d.defaults.map some) c.args caller
  return s.composed (← (m.run (outer.inside bound) d.body).text)

/-- The text of a block that sees only the variables of the template. -/
def callBlock (m : Machine) (s : Scope) (name : String) (level : Nat) (c : CallValues) :
    Eval Value := do
  match c.named with
  | (n, _) :: _ => throw (.unexpectedNamed "BlockReference.__call__" n)
  | [] => pure ()
  if !c.args.isEmpty then
    throw (.tooManyArguments "BlockReference.__call__" 1 1 (c.args.length + 1))
  match (s.sources name)[level]? with
  | some b => return s.composed (← (m.run (s.forBlock b level s.globals) b.block.body).text)
  | none => throw (.absent (.parentBlock name))

def callValue (m : Machine) (s : Scope) (f : Value) (c : CallValues) : Eval Value :=
  match f with
  | .absent a => .error (.absent a)
  | .rangeFunction => callRange c
  | .cycle index => callCycle index c
  | .definition d => callDefinition m s d c
  | .blockRef name level => callBlock m s name level c
  | .caller body => do return s.composed (← body)
  | f => .error (.notCallable f.kind)

/-! ## Expressions -/

/-- The first failure of several evaluations, or all their values. -/
def allValues {α : Type} : List (Eval α) → Eval (List α)
  | [] => .ok []
  | e :: es => do
    let v ← e
    return v :: (← allValues es)

/-- The entries of a mapping as named arguments. -/
def namedOf (v : Value) : Eval (List (String × Value)) :=
  match v with
  | .dict es => .ok (es.map fun (k, w) => (k.display, w))
  | v => .error (.noMember v.kind "keys")

mutual

def evaluate (m : Machine) (s : Scope) : Expr → Eval Value
  | .const l => .ok (.ofLiteral l)
  | .name n => .ok (s.lookup n)
  | .captured => .ok s.captured
  | .list es => do return .list (← allValues (evaluateEach m s es))
  | .tuple es => do return .tuple (← allValues (evaluateEach m s es))
  | .dict ks vs => do
    mappingOf (outOfTurns (← allValues (inTurns (evaluateEach m s ks) (evaluateEach m s vs))))
  | .attribute e attr => do s.member (← evaluate m s e) attr
  | .item e (.slice a b c) => do
    sliceValue (← evaluate m s e) (← evaluate m s a) (← evaluate m s b) (← evaluate m s c)
  | .item e i => do s.element (← evaluate m s e) (← evaluate m s i)
  | .slice a b c => do
    return .slice (← evaluate m s a) (← evaluate m s b) (← evaluate m s c)
  | .call f args names values => do
    let v ← evaluate m s f
    let given ← evaluateArgs m s args
    let ws ← allValues (evaluateEach m s values)
    callValue m s v ⟨given.args, names.zip ws ++ given.named⟩
  | .filter _ e name args names values => do
    let v ← evaluate m s e
    let given ← evaluateArgs m s args
    let ws ← allValues (evaluateEach m s values)
    if isFilter name then applyFilter s.markup name v given.args (names.zip ws ++ given.named)
    else throw (.unknownFilter name true)
  | .test _ e name args names values => do
    let v ← evaluate m s e
    let given ← evaluateArgs m s args
    let ws ← allValues (evaluateEach m s values)
    if isTest name then
      return .bool (← applyTest name v given.args (names.zip ws ++ given.named))
    else throw (.unknownTest name true)
  | .unary op e => do unaryValue op (← evaluate m s e)
  | .binary op a b => do binaryValue op (← evaluate m s a) (← evaluate m s b)
  | .concat es => do
    return Value.joinSoft s.escape (← allValues (evaluateEach m s es))
  | .and a b => do
    let v ← evaluate m s a
    if v.isTruthy then evaluate m s b else return v
  | .or a b => do
    let v ← evaluate m s a
    if v.isTruthy then return v else evaluate m s b
  | .compare e ops es => do
    return .bool (← evaluateChain m s (← evaluate m s e) ops es)
  | .ifElse t a b => do
    if (← evaluate m s t).isTruthy then evaluate m s a else evaluate m s b
  | .ifOnly line t a => do
    if (← evaluate m s t).isTruthy then evaluate m s a
    else return .absent (.alternative line s.file)
  | .spread e => evaluate m s e
  | .spreadNamed e => evaluate m s e

def evaluateEach (m : Machine) (s : Scope) : List Expr → List (Eval Value)
  | [] => []
  | e :: es => evaluate m s e :: evaluateEach m s es

/-- The arguments by position, with sequences and mappings spread. -/
def evaluateArgs (m : Machine) (s : Scope) : List Expr → Eval CallValues
  | [] => .ok ⟨[], []⟩
  | e :: es => do
    let v ← evaluate m s e
    let first ← match e with
      | .spread _ => do pure (⟨← listOf v, []⟩ : CallValues)
      | .spreadNamed _ => do pure ⟨[], ← namedOf v⟩
      | _ => pure ⟨[v], []⟩
    let rest ← evaluateArgs m s es
    return ⟨first.args ++ rest.args, first.named ++ rest.named⟩

/-- A chain of comparisons up to the first that does not hold. -/
def evaluateChain (m : Machine) (s : Scope) (v : Value) :
    List CompareOp → List Expr → Eval Bool
  | op :: ops, e :: es => do
    let w ← evaluate m s e
    if ← compareValues op v w then evaluateChain m s w ops es else return false
  | _, _ => .ok true

end

end RenderBench.Template
