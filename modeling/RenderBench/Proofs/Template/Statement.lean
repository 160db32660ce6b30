import RenderBench.Proofs.Template.Expression
import RenderBench.Template.Execute

/-!
# `Proofs.Template.Statement` — statements, one step at a time

As for expressions, the statements that do several things after one another are opened into named steps. The parts of
a loop are what is left after the condition, the names its body sees, and the rendering for each element.

## Contents
- `Trace.bind_bind`: steps one after the other, in any grouping.
- `chosenElements`, `loopStep`, `loopOver`, `execute_forLoop`: loops.
- `capturedValue`, `blockOutput`, `embedded`, `calledValue`: captures, blocks, included documents and calls with a
  body, each with its `execute_` equation.
- `execute_output`, `execute_assign`, `execute_inherit`: the others.
-/

namespace RenderBench.Template

variable {α β : Type} {m : Machine} {s : Scope}

theorem Trace.bind_bind {γ : Type} (t : Trace α) (f : α → Trace β) (f' : β → Trace γ) :
    ((t >>= f) >>= f') = t >>= fun a => f a >>= f' := by
  obtain ⟨chunks, result⟩ := t
  cases result with
  | error e => rfl
  | ok a =>
    show (⟨chunks ++ (f a).chunks, (f a).result⟩ : Trace β).andThen f' =
      ⟨chunks ++ ((f a).andThen f').chunks, ((f a).andThen f').result⟩
    unfold andThen
    cases hresult : (f a).result with
    | ok b => simp only [List.append_assoc]
    | error e => rfl

/-! ## Statements step by step -/

/-- The elements that the condition of a loop holds for. -/
def chosenElements (m : Machine) (s : Scope) (target : Target) (condition : Option Expr) (e : Elements) : Elements :=
  condition.elim e fun c =>
    filterElements
      (fun v => bindTarget target v >>= fun names =>
        evaluate m (s.inside names) c >>= fun w => .ok w.isTruthy)
      e.failure e.values

/-- The names that the body of a loop sees. -/
def loopNames (stateful : Bool) (index length : Nat) (previous next : List Value) (names : Bindings) : Bindings :=
  if stateful then names ++ [("loop", .loop index length previous next)] else names

/-- The body of a loop for one of its elements. -/
def loopStep (m : Machine) (s : Scope) (target : Target) (stateful : Bool) (body : List Stmt) (length index : Nat)
    (previous : List Value) (v : Value) (next : List Value) : Trace Unit :=
  Trace.ofEval (bindTarget target v) >>= fun names =>
    discard (executeAll m (s.inside (loopNames stateful index length previous next names)) body)

/-- A loop over its elements. -/
def loopOver (m : Machine) (s : Scope) (target : Target) (stateful : Bool) (body otherwise : List Stmt)
    (e : Elements) : Trace Unit :=
  runLoop (loopStep m s target stateful body e.values.length) 0 [] e.values >>= fun _ =>
    e.failure.elim (pure ()) Trace.fail >>= fun _ =>
      if e.values.isEmpty then discard (executeAll m (s.inside []) otherwise) else pure ()

/-- Whether a loop keeps its state. -/
def isStateful (recursive : Bool) (body otherwise : List Stmt) : Bool :=
  recursive || Stmt.anyMentions "loop" body || Stmt.anyLocalBlock body || Stmt.anyLocalBlock otherwise

theorem execute_forLoop (m : Machine) (s : Scope) (target : Target) (source : Expr) (condition : Option Expr)
    (recursive : Bool) (body otherwise : List Stmt) :
    execute m s (.forLoop target source condition recursive body otherwise) =
      Trace.ofEval (evaluate m s source) >>= fun v => Trace.ofEval (elementsOf v) >>= fun e =>
        loopOver m s target (isStateful recursive body otherwise) body otherwise
          (chosenElements m s target condition e) >>= fun _ => pure s := by
  refine congrArg (Trace.ofEval (evaluate m s source) >>= ·) (funext fun v => ?_)
  refine congrArg (Trace.ofEval (elementsOf v) >>= ·) (funext fun all => ?_)
  extract_lets +onlyGivenNames chosen stateful
  have hchosen : chosen = chosenElements m s target condition all := by
    cases condition <;> rfl
  rw [hchosen, loopOver, Trace.bind_bind]
  refine congrArg (runLoop _ 0 [] _ >>= ·) (funext fun _ => ?_)
  obtain ⟨values, failure⟩ := chosenElements m s target condition all
  rw [Trace.bind_bind]
  -- the scope is handed on from either end of the loop
  have hend (t : Trace Unit) : (if values.isEmpty then t >>= fun _ => pure s else pure s : Trace Scope) =
      (if values.isEmpty then t else pure ()) >>= fun _ => pure s := by
    cases values.isEmpty <;> rfl
  cases failure with
  | some f => rfl
  | none => exact hend (discard (executeAll m (s.inside []) otherwise))

/-- What a body that is kept is assigned as. -/
def capturedValue (m : Machine) (s : Scope) (filter : Option Expr) (t : Trace Scope) : Eval Value :=
  t.result >>= fun inner => filter.elim (.ok (s.composed (String.join t.chunks))) fun f =>
    filterText m inner f (String.join t.chunks) >>= fun v =>
      .ok (if s.markup then .markup v.display else v)

theorem execute_capture (m : Machine) (s : Scope) (target : Target) (filter : Option Expr) (body : List Stmt) :
    execute m s (.capture target filter body) =
      Trace.ofEval (capturedValue m s filter (executeAll m s.kept body)) >>= fun v =>
        Trace.ofEval (bindTarget target v) >>= fun names => pure (s.bind names) := by
  show (Trace.ofEval (executeAll m s.kept body).result >>= _) = _
  rw [capturedValue]
  cases (executeAll m s.kept body).result with
  | error e => rfl
  | ok inner =>
    cases filter with
    | none => rfl
    | some f =>
      show (Trace.ofEval (filterText m inner f (String.join (executeAll m s.kept body).chunks)) >>= _) =
        (Trace.ofEval (filterText m inner f (String.join (executeAll m s.kept body).chunks) >>= _) >>= _)
      cases filterText m inner f (String.join (executeAll m s.kept body).chunks) <;> rfl

/-- What stands where a block is. -/
def blockOutput (m : Machine) (s : Scope) (name : String) (withLocals required : Bool) : Trace Unit :=
  if s.top && s.parent.isSome then pure ()
  else (s.sources name).head?.elim (pure ()) fun b =>
    if required && (s.sources name).tail.isEmpty then Trace.fail (.requiredBlock name)
    else discard (m.run (s.forBlock b 0 (if withLocals then s.visible else s.globals)) b.block.body)

theorem execute_block (m : Machine) (s : Scope) (line : Nat) (name : String) (withLocals required : Bool)
    (body : List Stmt) : execute m s (.block line name withLocals required body) =
      blockOutput m s name withLocals required >>= fun _ => pure s := by
  show (if (!(s.top && s.parent.isSome)) = true then _ else _) = _
  rw [blockOutput]
  cases s.top && s.parent.isSome with
  | true => rfl
  | false =>
    cases s.sources name with
    | nil => rfl
    | cons b bs =>
      show (if (required && bs.isEmpty) = true then _ else _) =
        ((if (required && bs.isEmpty) = true then _ else _) >>= _)
      cases required && bs.isEmpty <;> rfl

/-- What stands where another document is included. -/
def embedded (m : Machine) (s : Scope) (ignoreMissing withContext : Bool) (x : Eval Document) : Trace Unit :=
  match x with
  | .ok d => runEmbedded m s withContext d
  | .error (.templateMissing reason) =>
    if ignoreMissing then pure () else Trace.fail (.templateMissing reason)
  | .error f => Trace.fail f

theorem execute_embed (m : Machine) (s : Scope) (source : Expr) (ignoreMissing withContext : Bool) :
    execute m s (.embed source ignoreMissing withContext) =
      Trace.ofEval (evaluate m s source) >>= fun v =>
        embedded m s ignoreMissing withContext (findDocument m v) >>= fun _ => pure s := by
  refine congrArg (Trace.ofEval (evaluate m s source) >>= ·) (funext fun v => ?_)
  cases findDocument m v with
  | ok d => rfl
  | error f =>
    cases f with
    | templateMissing reason => cases ignoreMissing <;> rfl
    | _ => rfl

/-- The value of a call with a body. -/
def calledValue (m : Machine) (s : Scope) (call : Expr) (caller : Value) : Eval (Option Value) :=
  match call with
  | .call f args names values => do
    let v ← evaluate m s f
    let c ← givenArguments m s args names values
    return some (← callValue m s v ⟨c.args, c.named ++ [("caller", caller)]⟩)
  | _ => .ok none

theorem execute_callBlock (m : Machine) (s : Scope) (params : List String) (defaults : List Expr) (call : Expr)
    (body : List Stmt) : execute m s (.callBlock params defaults call body) =
      Trace.ofEval (calledValue m s call (.caller (executeAll m s.kept body).text)) >>= fun v =>
        v.elim (pure ()) (fun v => Trace.ofEval (textOf v) >>= Trace.write) >>= fun _ => pure s := by
  cases call with
  | call f args names values =>
    show (Trace.ofEval (evaluate m s f) >>= _) = _
    rw [calledValue, givenArguments]
    cases evaluate m s f with
    | error e => rfl
    | ok v =>
      cases evaluateArgs m s args with
      | error e => rfl
      | ok given =>
        cases allValues (evaluateEach m s values) with
        | error e => rfl
        | ok ws =>
          show (Trace.ofEval (callValue m s v _) >>= _) = (Trace.ofEval (callValue m s v _ >>= _) >>= _)
          cases callValue m s v ⟨given.args, names.zip ws ++ given.named ++
              [("caller", .caller (executeAll m s.kept body).text)]⟩ with
          | error e => rfl
          | ok w =>
            show (Trace.ofEval (textOf w) >>= _) = ((Trace.ofEval (textOf w) >>= _) >>= _)
            cases textOf w <;> rfl
  | _ => rfl

theorem execute_output (m : Machine) (s : Scope) (pieces : List Piece) : execute m s (.output pieces) =
    (if s.parent.isNone then writePieces m s [] pieces else pure ()) >>= fun _ => pure s := by
  show (if s.parent.isNone = true then _ else _) = _
  cases s.parent.isNone <;> rfl

theorem execute_assign (m : Machine) (s : Scope) (target : Target) (value : Expr) :
    execute m s (.assign target value) =
      (if target.hasMember then Trace.fail .memberAssignment else pure ()) >>= fun _ =>
      Trace.ofEval (evaluate m s value) >>= fun v =>
        Trace.ofEval (bindTarget target v) >>= fun names => pure (s.bind names) := by
  show (if target.hasMember = true then _ else _) = _
  cases target.hasMember <;> rfl

theorem execute_inherit (m : Machine) (s : Scope) (line : Nat) (parent : Expr) :
    execute m s (.inherit line parent) = (if s.parent.isSome then Trace.fail .inheritedTwice else pure ()) >>= fun _ =>
      Trace.ofEval (evaluate m s parent) >>= fun v =>
        Trace.ofEval (namedDocument m v) >>= fun d => pure (s.inheritFrom d) := by
  show (if s.parent.isSome = true then _ else _) = _
  cases s.parent.isSome <;> rfl

end RenderBench.Template
