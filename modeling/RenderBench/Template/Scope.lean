import RenderBench.Template.Access

/-!
# `Template.Scope` — what a rendering sees

Names are looked up in the scopes of the statements around, from the innermost outwards, and then among
the variables the template was given. Inside a block there are two more names, for the template itself and
for the same block one level up.

## Contents
- `BlockSource`: a block and the document it is from.
- `Scope`: everything that rendering a statement depends on.
- `Scope.lookup`, `Scope.bind`: names; `bindTarget`: assignment to a row of names.
- `Scope.member`, `Scope.element`: members and elements, those of the template itself among them.
- `Scope.inside`, `Scope.forBlock`: scopes of inner statements and of blocks.
-/

namespace RenderBench.Template

/-- Names and their values, the latest first. -/
abbrev Bindings := List (String × Value)

/-- A block with the name of its file and whether the text of that file is escaped. -/
structure BlockSource where
  block : Block
  file : Option String
  escape : Bool

def Document.blockSources (d : Document) : List (String × BlockSource) :=
  d.blocks.map fun b => (b.name, ⟨b, d.name, d.escape⟩)

structure Scope where
  /-- The name of the file whose statements are rendered. -/
  file : Option String
  /-- The name of the template's file, which may inherit from the one whose statements are rendered. -/
  template : Option String
  /-- Whether the output of these statements is escaped. -/
  escape : Bool
  /-- Whether texts that are composed during the rendering count as markup. -/
  markup : Bool
  /-- The variables the template was given. -/
  globals : Bindings
  /-- For every name the blocks that have it, each followed by the one it takes the place of. -/
  blocks : List (String × List BlockSource)
  /-- The block that is rendered, and its place among those of its name. -/
  current : Option (String × Nat) := none
  /-- The names bound by the statements around, the innermost first. -/
  frames : List Bindings := [[]]
  /-- The value that filters without an input apply to. -/
  captured : Value := .none
  /-- Whether the statements stand outside all blocks and bodies of the document. -/
  top : Bool := false
  /-- The document that this one inherits from. -/
  parent : Option Document := none

namespace Scope

/-- The blocks of a name. -/
def sources (s : Scope) (name : String) : List BlockSource := (s.blocks.lookup name).getD []

/-- The block of a name at a level, as a value. -/
def blockValue (s : Scope) (name : String) (level : Nat) : Value :=
  if level < (s.sources name).length then .blockRef name level else .absent (.parentBlock name)

/-- The value of a name in the scopes around. -/
def lookupFrames : List Bindings → String → Option Value
  | [], _ => none
  | f :: fs, n => (f.lookup n).or (lookupFrames fs n)

/-- What the special names of a block stand for. -/
def special? (s : Scope) (n : String) : Option Value :=
  if n = "self" then some (.itself s.template (s.blocks.map Prod.fst))
  else if n = "super" then s.current.map fun (name, level) => s.blockValue name (level + 1)
  else none

def lookup (s : Scope) (n : String) : Value :=
  (((lookupFrames s.frames n).or (s.special? n)).or (s.globals.lookup n)).getD
    (.absent (.name n))

/-- A member of a value; the members of the template itself are its blocks. -/
def member (s : Scope) (v : Value) (attr : String) : Eval Value :=
  match v with
  | .itself _ names => .ok (if names.contains attr then .blockRef attr 0 else absentMember v attr)
  | .blockRef name level =>
    .ok (if attr = "super" then s.blockValue name (level + 1) else absentMember v attr)
  | v => memberOf v attr

/-- An element of a value at an index. The members of the template itself are its elements too. -/
def element (s : Scope) (v index : Value) : Eval Value :=
  match v, index.text? with
  | .itself _ _, some n | .blockRef _ _, some n => s.member v n
  | v, _ => elementAt v index

/-- Names bound in the innermost scope. Outside all blocks they become variables of the template too. -/
def bind (s : Scope) (names : Bindings) : Scope :=
  let frames := match s.frames with
    | f :: fs => (names ++ f) :: fs
    | [] => [names]
  { s with frames, globals := if s.top then names ++ s.globals else s.globals }

/-- All names with the variables of the template. -/
def visible (s : Scope) : Bindings := s.frames.flatten ++ s.globals

/-- The scope of a body with some names of its own. -/
def inside (s : Scope) (names : Bindings) : Scope :=
  { s with frames := names :: s.frames, top := false }

/-- The scope of a body whose output is kept. -/
def kept (s : Scope) : Scope := { s.inside [] with parent := none }

/-- The scope in which a block is rendered with some variables. -/
def forBlock (s : Scope) (source : BlockSource) (level : Nat) (globals : Bindings) : Scope :=
  { s with
    file := source.file
    escape := source.escape
    globals
    current := some (source.block.name, level)
    frames := [[]]
    top := false
    parent := none }

/-- A document that takes the place of nothing: all its blocks are below those that are there. -/
def inheritFrom (s : Scope) (d : Document) : Scope :=
  let add (blocks : List (String × List BlockSource)) (entry : String × BlockSource) :
      List (String × List BlockSource) :=
    let rec go : List (String × List BlockSource) → List (String × List BlockSource)
      | [] => [(entry.1, [entry.2])]
      | (n, bs) :: rest =>
        if n = entry.1 then (n, bs ++ [entry.2]) :: rest else (n, bs) :: go rest
    go blocks
  { s with blocks := d.blockSources.foldl add s.blocks, parent := some d }

/-- The scope in which the statements of a document are rendered with some variables. -/
def ofDocument (d : Document) (globals : Bindings) : Scope where
  file := d.name
  template := d.name
  escape := d.escape
  markup := d.escape
  globals
  blocks := d.blockSources.map fun (n, b) => (n, [b])
  top := true

/-- A text composed during the rendering. -/
def composed (s : Scope) (t : String) : Value := Value.ofText s.markup t

end Scope

/-! ## Assignment -/

/-- The elements that a value gives to so many names. -/
def unpack (v : Value) (n : Nat) : Eval (List Value) :=
  match elementsOf v with
  | .error _ => .error (.unpackNone v.kind)
  | .ok e =>
    if n < e.values.length then .error (.unpackMany n)
    else match e.failure with
      | some f => .error f
      | none =>
        if e.values.length < n then .error (.unpackFew n e.values.length) else .ok e.values

mutual

/-- What assignment of a value to a target binds, the last name first. -/
def bindTarget : Target → Value → Eval Bindings
  | .name _ n, v => .ok [(n, v)]
  | .tuple ts, v => do bindTargets ts (← unpack v ts.length)
  | .member _ _, _ => .error .memberAssignment

def bindTargets : List Target → List Value → Eval Bindings
  | t :: ts, v :: vs => do
    let first ← bindTarget t v
    let rest ← bindTargets ts vs
    return rest ++ first
  | _, _ => .ok []

end

mutual

/-- Whether a target assigns to a member of something. -/
def Target.hasMember : Target → Bool
  | .name _ _ => false
  | .tuple ts => Target.anyMember ts
  | .member _ _ => true

def Target.anyMember : List Target → Bool
  | [] => false
  | t :: ts => t.hasMember || Target.anyMember ts

end

end RenderBench.Template
