/-!
# `FileStore.Path` — file paths as text

A path is a list of names below the working directory or below the root. Empty names and single dots
are dropped when a path is read; steps to the parent are kept.

## Contents
- `FilePath`, `FilePath.ofString`, `FilePath.text`.
- `child`, `parent`, `name`: building paths and taking them apart.
-/

namespace RenderBench

structure FilePath where
  /-- `/` or `//` for paths from the root, empty otherwise. -/
  root : String
  parts : List String
  deriving DecidableEq

namespace FilePath

/-- The pieces of a text between slashes. -/
def pieces (s : String) : List String := (s.toList.splitOn '/').map String.ofList

/-- Two slashes, and not more, are a root of their own. -/
def rootOf (s : String) : String :=
  match s.toList with
  | '/' :: '/' :: '/' :: _ => "/"
  | '/' :: '/' :: _ => "//"
  | '/' :: _ => "/"
  | _ => ""

def ofString (s : String) : FilePath where
  root := rootOf s
  parts := (pieces s).filter fun p => !(p.isEmpty || p == ".")

/-- The text of a path; the working directory itself is a dot. -/
def text (p : FilePath) : String :=
  if p.root.isEmpty && p.parts.isEmpty then "."
  else p.root ++ String.intercalate "/" p.parts

def child (p : FilePath) (name : String) : FilePath := { p with parts := p.parts ++ [name] }

def parent (p : FilePath) : FilePath := { p with parts := p.parts.dropLast }

/-- The last name, empty when there is none. -/
def name (p : FilePath) : String := p.parts.getLast?.getD ""

end FilePath

end RenderBench
