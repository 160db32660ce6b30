import RenderBench.FileStore.Path
import RenderBench.Text.Quoted
import RenderBench.Text.Utf8Encode

/-!
# `FileStore.Basic` — files and directories

A store maps locations to files and directories. A location is the list of names from the root; the
working directory is a directory of the root.

## Contents
- `FileStore`, `FileStore.get?`, `FileStore.put`: the map.
- `FileStore.locate`: the location a path leads to, step by step.
- `FileStore.readFile?`, `FileStore.isDirectory`: what a path leads to.
- `FileStore.makeDirectories`, `FileStore.writeFile`: changes, and their failures.
- `FileStore.files`: the files below the working directory.
-/

namespace RenderBench

/-- A place in the store: the names that lead to it from the root. -/
abbrev Location := List String

/-- What is at a location. -/
inductive Entry where
  | file (bytes : List UInt8)
  | directory
  deriving DecidableEq

structure FileStore where
  entries : List (Location × Entry)

inductive FileCause where
  | notFound
  | exists_
  | notADirectory
  | isADirectory
  deriving DecidableEq

/-- An operation on a path that failed. -/
structure FileError where
  cause : FileCause
  path : String
  deriving DecidableEq

/-- The number of a cause and its description. -/
def FileCause.text : FileCause → String
  | .notFound => "[Errno 2] No such file or directory"
  | .exists_ => "[Errno 17] File exists"
  | .notADirectory => "[Errno 20] Not a directory"
  | .isADirectory => "[Errno 21] Is a directory"

def FileError.message (e : FileError) : String := e.cause.text ++ ": " ++ quoted e.path

namespace FileStore

/-- Where relative paths start. -/
def workingDirectory : Location := ["work"]

/-- Only the working directory. -/
def empty : FileStore := ⟨[(workingDirectory, .directory)]⟩

def get? (s : FileStore) (l : Location) : Option Entry :=
  if l.isEmpty then some .directory else s.entries.lookup l

/-- Sets an entry in place, or adds it at the end. -/
def setEntry (l : Location) (e : Entry) : List (Location × Entry) → List (Location × Entry)
  | [] => [(l, e)]
  | (k, v) :: rest => if k = l then (l, e) :: rest else (k, v) :: setEntry l e rest

def put (s : FileStore) (l : Location) (e : Entry) : FileStore := ⟨setEntry l e s.entries⟩

/-- One step from a location that has to be a directory. -/
def step (s : FileStore) (l : Location) (name : String) : Except FileCause Location :=
  match s.get? l with
  | none => .error .notFound
  | some (.file _) => .error .notADirectory
  | some .directory => .ok (if name = ".." then l.dropLast else l ++ [name])

/-- The location a path leads to; every name but the last has to be a directory. -/
def locate (s : FileStore) (p : FilePath) : Except FileCause Location :=
  p.parts.foldlM s.step (if p.root.isEmpty then workingDirectory else [])

/-- What a path leads to. -/
def find (s : FileStore) (p : FilePath) : Except FileCause Entry := do
  let l ← s.locate p
  match s.get? l with
  | some e => .ok e
  | none => .error .notFound

/-- The bytes of the regular file at a path. -/
def readFile? (s : FileStore) (p : FilePath) : Option (List UInt8) :=
  match s.find p with
  | .ok (.file bytes) => some bytes
  | _ => none

def isDirectory (s : FileStore) (p : FilePath) : Bool :=
  match s.find p with
  | .ok .directory => true
  | _ => false

/-- A new directory at a path; its parent has to be there. -/
def makeDirectory (s : FileStore) (p : FilePath) : Except FileError FileStore :=
  match s.locate p with
  | .error cause => .error ⟨cause, p.text⟩
  | .ok l =>
    match s.get? l with
    | some _ => .error ⟨.exists_, p.text⟩
    | none => .ok (s.put l .directory)

/-- The directory at a path, made if it is not there. -/
def ensureDirectory (s : FileStore) (p : FilePath) : Except FileError FileStore :=
  match s.makeDirectory p with
  | .ok s => .ok s
  | .error e =>
    if e.cause = .notFound then .error e
    else if s.isDirectory p then .ok s
    else .error e

/-- The directory at a path and those above it, made as far as they are not there; `fuel` bounds the
    number of names. A failure may leave directories behind. -/
def makeDirectoriesWithin : Nat → FileStore → FilePath → FileStore × Except FileError Unit
  | 0, s, p => (s, .error ⟨.notFound, p.text⟩)
  | fuel + 1, s, p =>
    match s.ensureDirectory p with
    | .ok s => (s, .ok ())
    | .error e =>
      if e.cause = .notFound ∧ p.parts ≠ [] then
        match makeDirectoriesWithin fuel s p.parent with
        | (s, .error e) => (s, .error e)
        | (s, .ok ()) =>
          match s.ensureDirectory p with
          | .ok s => (s, .ok ())
          | .error e => (s, .error e)
      else (s, .error e)

def makeDirectories (s : FileStore) (p : FilePath) : FileStore × Except FileError Unit :=
  makeDirectoriesWithin (p.parts.length + 1) s p

/-- A file with the given bytes at a path, in place of a file that is there. -/
def writeFile (s : FileStore) (p : FilePath) (bytes : List UInt8) : Except FileError FileStore :=
  match s.locate p with
  | .error cause => .error ⟨cause, p.text⟩
  | .ok l =>
    match s.get? l with
    | some .directory => .error ⟨.isADirectory, p.text⟩
    | _ => .ok (s.put l (.file bytes))

/-- Names below the working directory that lead to a location. -/
def belowWorking? (l : Location) : Option (List String) :=
  if workingDirectory.isPrefixOf l then some (l.drop workingDirectory.length) else none

/-- The files below the working directory, with the names that lead to them. -/
def files (s : FileStore) : List (List String × List UInt8) :=
  s.entries.filterMap fun (l, e) =>
    match e, belowWorking? l with
    | .file bytes, some names => some (names, bytes)
    | _, _ => none

/-- A file or directory put below the working directory, with the directories above it. -/
def place (s : FileStore) (path : String) (e : Entry) : FileStore :=
  let p := FilePath.ofString path
  let s := (s.makeDirectories p.parent).1
  match s.locate p with
  | .ok l => s.put l e
  | .error _ => s

end FileStore

end RenderBench
