import RenderBench.FileStore.Basic
import RenderBench.Template.Check
import RenderBench.Template.Parser.Statement
import RenderBench.Template.Token.Lexer
import RenderBench.Template.Trace
import RenderBench.Text.CaseMap
import RenderBench.Text.Utf8

/-!
# `Template.Store` — documents from text and from files

A document is read from text, or from the file of a name below a directory. Output is escaped for markup
files, which are known by the ends of their names, and for text that comes from no file.

## Contents
- `Document.ofText`: a document from its text.
- `isMarkupName`: names of markup files.
- `ReadFailure`, `readDocument`: a document from a file.
- `loadDocument`: the document that a template asks for while it is rendered.
-/

namespace RenderBench.Template

/-- The document that a text is. -/
def Document.ofText (name : Option String) (escape : Bool) (source : String) :
    Except SyntaxFault Document := do
  Document.ofStatements name escape (← parseStatements (lexemes source))

/-- Whether a file of this name holds markup. -/
def isMarkupName (name : String) : Bool :=
  [".html", ".htm", ".xml"].any fun suffix => suffix.toList.isSuffixOf (lower name).toList

/-- Why there is no document. -/
inductive ReadFailure where
  | notFound
  /-- The name leads out of the directory. -/
  | outside
  | encoding (f : Utf8Fault)
  | form (f : SyntaxFault)
  deriving DecidableEq

/-- The file that a name stands for below a directory; empty names and dots on the way are dropped. -/
def templatePath? (directory : FilePath) (name : String) : Option FilePath :=
  let pieces := FilePath.pieces name
  if pieces.contains ".." then none
  else some ((pieces.filter fun p => !(p.isEmpty || p == ".")).foldl FilePath.child directory)

/-- The document of a name below a directory. -/
def readDocument (files : FileStore) (directory : FilePath) (name : String) :
    Except ReadFailure Document :=
  match templatePath? directory name with
  | none => .error .outside
  | some path =>
    match files.readFile? path with
    | none => .error .notFound
    | some bytes =>
      match decodeUtf8 bytes with
      | .error f => .error (.encoding f)
      | .ok cs =>
        match Document.ofText (some name) (isMarkupName name) (String.ofList cs) with
        | .error f => .error (.form f)
        | .ok d => .ok d

/-- The document of a name, for a template that is being rendered. -/
def loadDocument (files : FileStore) (directory : FilePath) (name : String) : Eval Document :=
  match readDocument files directory name with
  | .ok d => .ok d
  | .error .notFound =>
    .error (.templateMissing
      (.file (quoted name ++ " not found in search path: " ++ quoted directory.text)))
  | .error .outside => .error (.templateMissing (.file name))
  | .error (.encoding f) => .error (.templateBroken f.message)
  | .error (.form f) => .error (.templateBroken f.cause.message)

end RenderBench.Template
