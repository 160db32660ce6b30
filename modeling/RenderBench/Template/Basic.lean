import RenderBench.Template.Store
import RenderBench.Template.Taking

/-!
# `Template.Basic` — templates and their sub-templates

A template is a document that has been read. Its blocks are its sub-templates; each can be rendered by
itself with items, which are the only variable it sees besides ranges of numbers.

## Contents
- `Template`, `Template.parse`, `Template.load`: templates from text and from files; `LoadError`, and `LoadFailure`
  with what is none of them.
- `Template.subTemplates`, `Template.hasSubTemplate`: the names of the blocks.
- `Sink`: text that is written chunk by chunk, possibly with a limit.
- `Template.renderInto`, `Template.render`: rendering, and `RenderError`; `Template.left`: the items it leaves.
-/

namespace RenderBench

open RenderBench.Template (CodeFault Document Block Stmt Fault Value Eval Trace SyntaxFault loadDocument readDocument
  renderPart splitStmts takeAll)

structure Template where
  /-- The last component of the path, or a label. -/
  name : String
  document : Document
  /-- Where the files that it includes are looked for. -/
  files : FileStore
  directory : FilePath

/-- Why a template cannot be loaded. -/
inductive LoadCause where
  | notFound
  | encoding (f : Utf8Fault)
  | form (f : SyntaxFault)
  deriving DecidableEq

def LoadCause.reason : LoadCause → String
  | .notFound => "file not found"
  | .encoding f => f.message
  | .form f => f.located

structure LoadError where
  path : String
  cause : LoadCause
  deriving DecidableEq

def LoadError.message (e : LoadError) : String :=
  "template " ++ quoted e.path ++ ": " ++ e.cause.reason

/-- Why there is no template: a failure of loading it, or a fault that is none of the engine's own, which is handed on
    as it is. -/
inductive LoadFailure where
  | refused (e : LoadError)
  | escaped (f : CodeFault)
  deriving DecidableEq

/-- What a fault of the text at a path comes to. -/
def LoadFailure.ofFault (path : String) (f : SyntaxFault) : LoadFailure :=
  match f.cause with
  | .code c => .escaped c
  | _ => .refused ⟨path, .form f⟩

/-- Why a sub-template cannot be rendered. -/
inductive RenderCause where
  /-- There is none of that name in the template of this name. -/
  | noSubTemplate (template : String)
  | failed (f : Fault)
  deriving DecidableEq

structure RenderError where
  name : String
  cause : RenderCause
  deriving DecidableEq

def RenderError.reason (e : RenderError) : String :=
  match e.cause with
  | .noSubTemplate t => "no sub-template named " ++ quoted e.name ++ " in " ++ t
  | .failed f => f.message

def RenderError.message (e : RenderError) : String :=
  "render of " ++ quoted e.name ++ " failed: " ++ e.reason

/-! ## Sinks -/

/-- Text that is written to, and the number of characters from which on nothing more is taken. -/
structure Sink where
  text : String := ""
  limit : Option Nat := none

namespace Sink

def isFull (s : Sink) : Bool :=
  match s.limit with
  | some n => n ≤ s.text.length
  | none => false

/-- A chunk added at the end; a full sink takes empty chunks only. -/
def write (s : Sink) (chunk : String) : Option Sink :=
  if !chunk.isEmpty && s.isFull then none else some { s with text := s.text ++ chunk }

/-- Chunks written one after the other, and whether all of them were taken. -/
def writeAll (s : Sink) : List String → Sink × Bool
  | [] => (s, true)
  | c :: cs =>
    match s.write c with
    | some s => s.writeAll cs
    | none => (s, false)

end Sink

/-! ## Templates -/

namespace Template

/-- A template from its text. -/
def parse (files : FileStore) (source : String) (name : String := "<string>") :
    Except LoadFailure Template :=
  match Document.ofText none true source with
  | .ok document => .ok { name, document, files, directory := FilePath.ofString "." }
  | .error f => .error (.ofFault name f)

/-- The template of a file. -/
def load (files : FileStore) (path : String) : Except LoadFailure Template :=
  let p := FilePath.ofString path
  match readDocument files p.parent p.name with
  | .ok document => .ok { name := p.name, document, files, directory := p.parent }
  | .error .notFound => .error (.refused ⟨path, .notFound⟩)
  | .error .outside => .error (.refused ⟨path, .notFound⟩)
  | .error (.encoding f) => .error (.refused ⟨path, .encoding f⟩)
  | .error (.form f) => .error (.ofFault path f)

/-- The names of the sub-templates in order. -/
def subTemplates (t : Template) : List String :=
  (t.document.blocks.map Block.name).mergeSort fun a b => a ≤ b

def hasSubTemplate (t : Template) (name : String) : Bool :=
  t.document.blocks.any fun b => b.name == name

/-- The variables of a rendering. -/
def globals (items : Value) : List (String × Value) :=
  [("items", items), ("range", .rangeFunction)]

/-- Statements of a block rendered for items. -/
def part (t : Template) (b : Block) (statements : List Stmt) (items : Value) : Trace Unit :=
  renderPart (loadDocument t.files t.directory) t.document b statements (globals items)

/-- A block that takes items, with those it is given: what rendering it writes, and the items it leaves. -/
def taken (t : Template) (b : Block) (items : List Value) : Trace Unit × List Value :=
  takeAll t.document.escape (fun ss vs => t.part b ss (.list vs)) items (splitStmts b.body)

/-- What rendering a block writes. -/
def trace (t : Template) (b : Block) (items : Value) : Trace Unit :=
  match items with
  | .list vs => if b.takes then (t.taken b vs).1 else t.part b b.body items
  | items => t.part b b.body items

/-- What rendering a block to its end leaves of the items. -/
def blockLeft (t : Template) (b : Block) (items : Value) : Value :=
  match items with
  | .list vs => if b.takes then .list (t.taken b vs).2 else items
  | items => items

/-- A sub-template rendered into a sink. What was written before a failure stays in the sink. -/
def renderInto (t : Template) (sink : Sink) (name : String) (items : Value) :
    Sink × Except RenderError Unit :=
  match t.document.blocks.find? fun b => b.name == name with
  | none => (sink, .error ⟨name, .noSubTemplate t.name⟩)
  | some b =>
    let trace := t.trace b items
    let (sink, complete) := sink.writeAll trace.chunks
    if !complete then (sink, .error ⟨name, .failed .sinkFull⟩)
    else match trace.result with
      | .ok _ => (sink, .ok ())
      | .error f => (sink, .error ⟨name, .failed f⟩)

/-- What rendering a sub-template leaves of the items, where nothing stops the writing. -/
def left (t : Template) (name : String) (items : Value) : Value :=
  match t.document.blocks.find? fun b => b.name == name with
  | none => items
  | some b => t.blockLeft b items

/-- The text of a sub-template. -/
def render (t : Template) (name : String) (items : Value) : Except RenderError String :=
  match t.renderInto {} name items with
  | (sink, .ok _) => .ok sink.text
  | (_, .error e) => .error e

end Template

end RenderBench
