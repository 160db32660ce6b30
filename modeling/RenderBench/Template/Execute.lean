import RenderBench.Template.Evaluate

/-!
# `Template.Execute` — what statements write

Statements write their chunks and change the names in their scope. A text together with the constants next
to it is one chunk; every other expression is a chunk of its own.

## Contents
- `writePieces`: output.
- `filterElements`, `runLoop`: loops.
- `findDocument`: the document that a value names.
- `execute`, `executeAll`: statements.
- `machine`: rendering with calls nested to a bounded depth.
- `renderPart`: statements of a block by themselves.
-/

namespace RenderBench.Template

/-! ## Output -/

/-- The text of a piece that is known beforehand. -/
def Piece.constant? (escape : Bool) : Piece → Option String
  | .text s => some s
  | .value e => (constValue escape e).map (Value.written escape)

/-- The chunks of output; `known` are the constant texts since the last chunk, the latest first. -/
def writePieces (m : Machine) (s : Scope) (known : List String) : List Piece → Trace Unit
  | [] => writeKnown known
  | .text t :: ps => writePieces m s (t :: known) ps
  | .value e :: ps =>
    match (Piece.value e).constant? s.escape with
    | some t => writePieces m s (t :: known) ps
    | none => do
      writeKnown known
      let v ← evaluate m s e
      Trace.write (v.written s.escape)
      writePieces m s [] ps
where
  /-- Constant texts as one chunk. -/
  writeKnown (known : List String) : Trace Unit :=
    if known.isEmpty then pure () else Trace.write (String.join known.reverse)

/-! ## Loops -/

/-- The elements that a condition holds for, up to the first for which it fails. -/
def filterElements (holds : Value → Eval Bool) (failure : Option Fault) : List Value → Elements
  | [] => ⟨[], failure⟩
  | v :: vs =>
    match holds v with
    | .error e => ⟨[], some e⟩
    | .ok keep =>
      let rest := filterElements holds failure vs
      if keep then { rest with values := v :: rest.values } else rest

/-- A body once for each element, with the index and the elements before and after. -/
def runLoop (body : Nat → List Value → Value → List Value → Trace Unit) (index : Nat)
    (previous : List Value) : List Value → Trace Unit
  | [] => pure ()
  | v :: vs => do
    body index previous v (vs.take 1)
    runLoop body (index + 1) [v] vs

/-! ## Other documents -/

/-- A value as one of several names. -/
def candidateOf : Value → Candidate
  | .absent a => .absent a
  | v => .name v.display

/-- The first document of several names that is there. -/
def firstDocument (m : Machine) (names : List Value) : List Value → Eval Document
  | [] =>
    .error (.templateMissing
      (if names.isEmpty then .noCandidates else .noneOf (names.map candidateOf)))
  | v :: vs =>
    match v with
    | .absent _ => firstDocument m names vs
    | v =>
      match v.text? with
      | none => .error (.noMember v.kind "split")
      | some name =>
        match m.load name with
        | .error (.templateMissing _) => firstDocument m names vs
        | r => r

/-- The document that a value names: a name, or several to choose from. -/
def findDocument (m : Machine) (v : Value) : Eval Document :=
  match v with
  | .absent a => .error (.absent a)
  | v =>
    match v.text? with
    | some name => m.load name
    | none => do
      let names ← listOf v
      firstDocument m names names

/-- The document that a name stands for. -/
def namedDocument (m : Machine) (v : Value) : Eval Document :=
  match v with
  | .absent a => .error (.absent a)
  | v => v.text?.elim (.error (.noMember v.kind "split")) m.load

/-- A document inside another one, with all names of the place it stands at or without any. -/
def runEmbedded (m : Machine) (s : Scope) (withContext : Bool) (d : Document) : Trace Unit :=
  if withContext then m.runDocument (Scope.ofDocument d s.visible) d
  else
    let t := m.runDocument (Scope.ofDocument d [("range", .rangeFunction)]) d
    match t.result with
    | .ok _ => t
    | .error f => Trace.fail f

/-! ## Statements -/

/-- What a filter makes of a text that a body wrote. -/
def filterText (m : Machine) (s : Scope) (filter : Expr) (t : String) : Eval Value :=
  evaluate m { s with captured := Value.ofText s.escape t } filter

/-- The text of a value that has to be one. -/
def textOf (v : Value) : Eval String :=
  match v.text? with
  | some t => .ok t
  | none => .error (.notText v.kind)

mutual

def execute (m : Machine) (s : Scope) : Stmt → Trace Scope
  | .output pieces => do
    if s.parent.isNone then writePieces m s [] pieces
    return s
  | .forLoop target source condition recursive body otherwise => do
    let e ← elementsOf (← evaluate m s source)
    let e := match condition with
      | none => e
      | some c =>
        filterElements
          (fun v => do
            let names ← bindTarget target v
            return (← evaluate m (s.inside names) c).isTruthy)
          e.failure e.values
    let stateful := recursive || Stmt.anyMentions "loop" body || Stmt.anyLocalBlock body ||
      Stmt.anyLocalBlock otherwise
    runLoop (fun index previous v next => do
      let names ← bindTarget target v
      let names := if stateful
        then names ++ [("loop", .loop index e.values.length previous next)] else names
      discard (executeAll m (s.inside names) body)) 0 [] e.values
    match e.failure with
    | some f => Trace.fail f
    | none => pure ()
    if e.values.isEmpty then discard (executeAll m (s.inside []) otherwise)
    return s
  | .branch test body otherwise => do
    if (← evaluate m s test).isTruthy then executeAll m s body else executeAll m s otherwise
  | .assign target value => do
    if target.hasMember then Trace.fail .memberAssignment
    let names ← bindTarget target (← evaluate m s value)
    return s.bind names
  | .capture target filter body => do
    let t := executeAll m s.kept body
    let inner ← t.result
    let text := String.join t.chunks
    let v ← match filter with
      | none => pure (s.composed text)
      | some f => do
        let v ← filterText m inner f text
        pure (if s.markup then .markup v.display else v)
    let names ← bindTarget target v
    return s.bind names
  | .scope targets values body => do
    let vs ← allValues (evaluateEach m s values)
    let names ← bindTargets targets vs
    discard (executeAll m (s.inside names) body)
    return s
  | .block _ name withLocals required _ => do
    if !(s.top && s.parent.isSome) then
      match s.sources name with
      | [] => pure ()
      | source :: others =>
        if required && others.isEmpty then Trace.fail (.requiredBlock name)
        let globals := if withLocals then s.visible else s.globals
        discard (m.run (s.forBlock source 0 globals) source.block.body)
    return s
  | .inherit _ parent => do
    if s.parent.isSome then Trace.fail .inheritedTwice
    let d ← namedDocument m (← evaluate m s parent)
    return s.inheritFrom d
  | .embed source ignoreMissing withContext => do
    let v ← evaluate m s source
    match findDocument m v with
    | .ok d => runEmbedded m s withContext d
    | .error (.templateMissing reason) =>
      if !ignoreMissing then Trace.fail (.templateMissing reason)
    | .error f => Trace.fail f
    return s
  | .definition name params defaults body => do
    return s.bind [(name, .definition
      { name, params, defaults, body, depth := s.frames.length, escape := s.escape })]
  | .callBlock _ _ call body => do
    let caller := Value.caller (executeAll m s.kept body).text
    match call with
    | .call f args names values => do
      let v ← evaluate m s f
      let given ← evaluateArgs m s args
      let ws ← allValues (evaluateEach m s values)
      let result ← callValue m s v
        ⟨given.args, names.zip ws ++ given.named ++ [("caller", caller)]⟩
      let t ← textOf result
      Trace.write t
    | _ => pure ()
    return s
  | .filterBlock filter body => do
    let t := executeAll m (s.inside []) body
    let inner ← t.result
    let v ← filterText m inner filter (String.join t.chunks)
    let text ← textOf v
    Trace.write text
    return s
  | .escaping value body => do
    let escape := (← evaluate m s value).isTruthy
    discard (executeAll m { s.inside [] with escape, markup := escape } body)
    return s
  | .importing source names => do
    discard (namedDocument m (← evaluate m s source) : Eval Document)
    -- what the other document defines is not looked up: an imported name has no value, whether it is there or not
    return s.bind (names.map fun n => (n, .absent (.name n)))

/-- Statements one after the other, each in the scope that the one before it left. -/
def executeAll (m : Machine) (s : Scope) : List Stmt → Trace Scope
  | [] => pure s
  | st :: rest => do
    let s ← execute m s st
    executeAll m s rest

end

/-! ## Calls -/

/-- A document's statements, and then those of the document it inherits from. -/
def runDocumentWith (m : Machine) (s : Scope) (d : Document) : Trace Unit := do
  let after ← executeAll m s d.body
  match after.parent with
  | none => pure ()
  | some p =>
    m.runDocument
      { after with file := p.name, escape := p.escape, frames := [[]], parent := none } p

/-- Rendering with calls nested up to a depth. -/
def machine (load : String → Eval Document) : Nat → Machine
  | 0 =>
    { run := fun _ _ => Trace.fail .recursion
      evaluate := fun _ _ => .error .recursion
      runDocument := fun _ _ => Trace.fail .recursion
      load }
  | depth + 1 =>
    { run := fun s ss => executeAll (machine load depth) s ss
      evaluate := fun s e => evaluate (machine load depth) s e
      runDocument := fun s d => runDocumentWith (machine load depth) s d
      load }

/-- How deeply calls may be nested. -/
def callDepth : Nat := 200

/-- The chunks of statements of a block of a document, rendered by themselves with some variables. -/
def renderPart (load : String → Eval Document) (d : Document) (b : Block) (part : List Stmt) (globals : Bindings) :
    Trace Unit := do
  let s := { Scope.ofDocument d globals with top := false }
  discard ((machine load callDepth).run (s.forBlock ⟨b, d.name, d.escape⟩ 0 globals) part)

end RenderBench.Template
