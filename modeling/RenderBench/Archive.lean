import RenderBench.Calendar.Civil
import RenderBench.FileStore.Basic
import RenderBench.Json.Writer
import RenderBench.Session.Notice

/-!
# `Archive` — results on disk

A result is written twice into a directory: as the latest one, and under a name that tells the time to the
second. A file is emptied before the document is written into it, so that a document that cannot be written to the
end leaves a part of it.

## Contents
- `archivePayload`: the document.
- `attempt`, `writeDocument`: a document in a file.
- `persist`: writing it twice; `PersistError`, what can go wrong.
-/

namespace RenderBench

open Log (Record)

inductive PersistError where
  | file (e : FileError)
  | spread (e : SpreadError)
  /-- The document has a number of too many digits. -/
  | digits
  deriving DecidableEq

/-- A result with the time it was saved at. -/
def archivePayload (now : Int) (r : SessionResult) : Except SpreadError Json := do
  return .object [("timestamp", .text (Civil.ofMicros now).isoTimestamp),
    ("result", ← r.toJson true)]

/-- The name of the archived file of an instant. -/
def archiveName (now : Int) : String := "run-" ++ (Civil.ofMicros now).archiveStamp ++ ".json"

def latestName : String := "latest.json"

/-- What is written of a document in the indented layout, and whether that is all of it. -/
def attempt (document : Json) : List Char × Except PersistError Unit :=
  match document.cut? 0 with
  | none => (document.indentedChars 0, .ok ())
  | some cut => (cut, .error .digits)

/-- A document in a file, as far as it can be written. -/
def writeDocument (files : FileStore) (path : FilePath) (document : Json) : FileStore × Except PersistError Unit :=
  match files.writeFile path (encodeUtf8 (attempt document).1) with
  | .error e => (files, .error (.file e))
  | .ok files => (files, (attempt document).2)

/-- A result saved into a directory, which is made if it is not there: the files afterwards, and the path
    of the archived file with the notice. -/
def persist (files : FileStore) (now : Int) (directory : String) (r : SessionResult) :
    FileStore × Except PersistError (FilePath × Record) :=
  let directory := FilePath.ofString directory
  match files.makeDirectories directory with
  | (files, .error e) => (files, .error (.file e))
  | (files, .ok _) =>
    match archivePayload now r with
    | .error e => (files, .error (.spread e))
    | .ok payload =>
      let latest := directory.child latestName
      let archive := directory.child (archiveName now)
      match writeDocument files latest payload.sorted with
      | (files, .error e) => (files, .error e)
      | (files, .ok _) =>
        match writeDocument files archive payload.sorted with
        | (files, .error e) => (files, .error e)
        | (files, .ok _) => (files, .ok (archive, persisted latest archive))

end RenderBench
