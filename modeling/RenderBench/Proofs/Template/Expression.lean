import RenderBench.Template.Evaluate

/-!
# `Proofs.Template.Expression` — evaluation, one step at a time

Calls, arguments, filters, tests and elements are evaluated in several steps, each of which may fail. Here every
step has a name, and an equation for each kind of expression puts its steps in order, so that what is proved of
evaluation is proved of the steps.

## Contents
- `callRange_open`, `bindParams_open`, `callDefinition_open`, `callBlock_open`: calls.
- `argumentsOf`, `givenArguments`, `evaluateArgs_cons`: arguments.
- `evaluate_call`, `evaluate_filter`, `evaluate_test`, `evaluate_item`: the expressions that have several steps.
-/

namespace RenderBench.Template

/-! ## Calls -/

/-- A value as a whole number. -/
def wholeOf (v : Value) : Eval Int :=
  match v with
  | .absent _ => .error (.notIndex v.kind)
  | v => v.whole?.elim (.error (.notIndex v.kind)) .ok

/-- A range between some of so many numbers. -/
def rangeOf (bounds : List Int) (given : Nat) : Eval Value :=
  match bounds, given with
  | [b], 1 => .ok (.range 0 b 1)
  | [a, b], 2 => .ok (.range a b 1)
  | [a, b, s], 3 => if s = 0 then .error .rangeStep else .ok (.range a b s)
  | _, 0 => .error .rangeFew
  | _, n => .error (.rangeMany n)

theorem callRange_open (args : List Value) :
    callRange ⟨args, []⟩ = (args.take 3).mapM wholeOf >>= fun bounds => rangeOf bounds args.length := by
  rfl

/-- What a parameter without an argument by position is bound to. -/
def paramValue (m : Machine) (s : Scope) (named : List (String × Value)) (done : Bindings) (p : String)
    (d : Option Expr) : Eval Value :=
  match named.lookup p, d with
  | some v, _ => .ok v
  | none, some e => m.evaluate (s.inside done) e
  | none, none => .ok (.absent (.parameter p))

theorem bindParams_open (m : Machine) (s : Scope) (named : List (String × Value)) (p : String) (ps : List String)
    (d : Option Expr) (ds : List (Option Expr)) (done : Bindings) :
    bindParams m s named (p :: ps) (d :: ds) [] done = paramValue m s named done p d >>= fun v =>
      bindParams m s named ps ds [] ((p, v) :: done) := by
  conv => lhs; unfold bindParams
  unfold paramValue
  cases named.lookup p with
  | some v => rfl
  | none => cases d <;> rfl

/-- The scope in which the parameters of a definition are bound. -/
def Scope.outside (s : Scope) (d : Definition) : Scope :=
  { s with
    frames := s.frames.drop (s.frames.length - d.depth)
    escape := d.escape
    top := false
    parent := none }

/-- Whether a definition looks at the body of the call. -/
def Definition.takesCaller (d : Definition) : Bool :=
  Stmt.anyMentions "caller" d.body && !d.params.contains "caller"

/-- The named arguments that a definition has no parameters for. -/
def Definition.extra (d : Definition) (c : CallValues) : List (String × Value) :=
  c.named.filter fun p =>
    !((d.params.drop c.args.length).contains p.1 || d.takesCaller && p.1 == "caller")

/-- What a definition sees of the body of the call. -/
def Definition.callerOf (d : Definition) (c : CallValues) : Bindings :=
  if d.takesCaller then [("caller", (c.named.lookup "caller").getD (.absent .caller))] else []

/-- The parameters' defaults. -/
def Definition.allDefaults (d : Definition) : List (Option Expr) :=
  List.replicate (d.params.length - d.defaults.length) none ++ d.defaults.map some

/-- The text of a definition's body with the arguments it takes. -/
def definitionText (m : Machine) (s : Scope) (d : Definition) (c : CallValues) : Eval Value := do
  let bound ← bindParams m (s.outside d) c.named d.params d.allDefaults c.args (d.callerOf c)
  return s.composed (← (m.run ((s.outside d).inside bound) d.body).text)

theorem callDefinition_open (m : Machine) (s : Scope) (d : Definition) (c : CallValues) :
    callDefinition m s d c = (d.extra c).head?.elim
      (if d.params.length < c.args.length then .error (.definitionMany d.name d.params.length)
        else definitionText m s d c)
      fun p => .error (.definitionNamed d.name p.1) := by
  unfold callDefinition
  extract_lets positional takesCaller extra next
  have hextra : extra = d.extra c := rfl
  rw [hextra]
  cases d.extra c with
  | cons p ps => rfl
  | nil =>
    show (if d.params.length < c.args.length then _ else _) = (if d.params.length < c.args.length then _ else _)
    split <;> rfl

/-- The text of a block of a scope. -/
def blockText (m : Machine) (s : Scope) (name : String) (level : Nat) : Eval Value :=
  (s.sources name)[level]?.elim (.error (.absent (.parentBlock name))) fun b =>
    (m.run (s.forBlock b level s.globals) b.block.body).text >>= fun t => .ok (s.composed t)

theorem callBlock_open (m : Machine) (s : Scope) (name : String) (level : Nat) (c : CallValues) :
    callBlock m s name level c = c.named.head?.elim
      (if c.args.isEmpty then blockText m s name level
        else .error (.tooManyArguments "BlockReference.__call__" 1 1 (c.args.length + 1)))
      fun p => .error (.unexpectedNamed "BlockReference.__call__" p.1) := by
  obtain ⟨args, named⟩ := c
  cases named with
  | cons p ps => rfl
  | nil =>
    cases args with
    | cons v vs => rfl
    | nil =>
      unfold callBlock
      show _ = blockText m s name level
      rw [blockText]
      cases hb : (s.sources name)[level]? with
      | none => rfl
      | some b => rfl

/-! ## Expressions -/

/-- What one argument by position adds to the arguments. -/
def argumentsOf (e : Expr) (v : Value) : Eval CallValues :=
  match e with
  | .spread _ => do return ⟨← listOf v, []⟩
  | .spreadNamed _ => do return ⟨[], ← namedOf v⟩
  | _ => .ok ⟨[v], []⟩

theorem evaluateArgs_cons (m : Machine) (s : Scope) (e : Expr) (es : List Expr) :
    evaluateArgs m s (e :: es) = evaluate m s e >>= fun v => argumentsOf e v >>= fun first =>
      evaluateArgs m s es >>= fun rest => .ok ⟨first.args ++ rest.args, first.named ++ rest.named⟩ := by
  cases e with
  | spread e | spreadNamed e =>
    rw [evaluateArgs]
    simp only [argumentsOf, bind_assoc, pure_bind]
    rfl
  | _ => rfl

/-- All arguments of a call, those that are given by name first. -/
def givenArguments (m : Machine) (s : Scope) (args : List Expr) (names : List String) (values : List Expr) :
    Eval CallValues := do
  let given ← evaluateArgs m s args
  let ws ← allValues (evaluateEach m s values)
  return ⟨given.args, names.zip ws ++ given.named⟩

theorem evaluate_call (m : Machine) (s : Scope) (f : Expr) (args : List Expr) (names : List String)
    (values : List Expr) : evaluate m s (.call f args names values) =
      evaluate m s f >>= fun v => givenArguments m s args names values >>= callValue m s v := by
  rw [evaluate]
  simp only [givenArguments, bind_assoc, pure_bind]

/-- A filter of a name, if there is one. -/
def namedFilter (markup : Bool) (name : String) (v : Value) (c : CallValues) : Eval Value :=
  if isFilter name then applyFilter markup name v c.args c.named else .error (.unknownFilter name true)

theorem evaluate_filter (m : Machine) (s : Scope) (line : Nat) (e : Expr) (name : String) (args : List Expr)
    (names : List String) (values : List Expr) : evaluate m s (.filter line e name args names values) =
      evaluate m s e >>= fun v => givenArguments m s args names values >>= namedFilter s.markup name v := by
  rw [evaluate]
  simp only [givenArguments, bind_assoc, pure_bind]
  rfl

/-- A test of a name, if there is one. -/
def namedTest (name : String) (v : Value) (c : CallValues) : Eval Value :=
  if isTest name then return .bool (← applyTest name v c.args c.named) else .error (.unknownTest name true)

theorem evaluate_test (m : Machine) (s : Scope) (line : Nat) (e : Expr) (name : String) (args : List Expr)
    (names : List String) (values : List Expr) : evaluate m s (.test line e name args names values) =
      evaluate m s e >>= fun v => givenArguments m s args names values >>= namedTest name v := by
  rw [evaluate]
  simp only [givenArguments, bind_assoc, pure_bind]
  rfl

/-- Whether an expression is a slice. -/
def Expr.isSlice : Expr → Bool
  | .slice _ _ _ => true
  | _ => false

/-- The element of a value at an index, or the part of it that a slice is. -/
def Scope.indexed (s : Scope) (slicing : Bool) (v w : Value) : Eval Value :=
  if slicing then
    match w with
    | .slice a b c => sliceValue v a b c
    | w => s.element v w
  else s.element v w

theorem evaluate_item (m : Machine) (s : Scope) (e i : Expr) :
    evaluate m s (.item e i) = evaluate m s e >>= fun v => evaluate m s i >>= s.indexed i.isSlice v := by
  cases i with
  | slice a b c =>
    rw [evaluate, evaluate]
    simp only [bind_assoc, pure_bind]
    rfl
  | _ => rfl

end RenderBench.Template
