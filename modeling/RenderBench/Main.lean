import RenderBench.CommandLine.Run
import Std.Time.DateTime.Timestamp

/-!
# `Main` — the program

The surroundings of a command line are read from the system, the command is carried out on them, and what
it leaves is written back. A session is measured first: its renders are done between readings of the
system's clock, and the command is carried out with these readings.

## Contents
- `addFile`, `addTemplate`: a file of the system, and the template with the documents it names.
- `measured`: the readings of the clock and of the machine during a session.
- `main`.
-/

namespace RenderBench.CommandLine

/-! ## Surroundings -/

/-- The text of a file of the system, if there is one. -/
def systemText? (path : String) : IO (Option String) := do
  try
    let bytes ← IO.FS.readBinFile path
    match decodeUtf8 bytes.toList with
    | .ok cs => return some (String.ofList cs)
    | .error _ => return none
  catch _ => return none

/-- A variable of the form `NAME=value`. -/
def readVariable? (s : String) : Option (String × String) :=
  match splitAtEquals s with
  | (name, some value) => some (name, value)
  | (_, none) => none

/-- The environment of the process. -/
def readEnvironment : IO Environment := do
  let text ← systemText? "/proc/self/environ"
  return ((text.getD "").splitOn "\x00").filterMap readVariable?

/-- The store with the file at a path, if it is one. -/
def addFile (files : FileStore) (path : FilePath) : IO FileStore := do
  try
    let bytes ← IO.FS.readBinFile path.text
    return files.place path.text (.file bytes.toList)
  catch _ => return files

/-- The texts between quotes in the tags of a document. -/
def quotedTexts (source : String) : List String :=
  (Template.lexemes source).filterMap fun
    | .token ⟨_, .text s⟩ => some s
    | _ => none

/-- The store with a document and those it may name, up to a depth. -/
def addDocument (directory : FilePath) : Nat → FileStore → String → IO FileStore
  | 0, files, _ => return files
  | depth + 1, files, name =>
    match Template.templatePath? directory name with
    | none => return files
    | some path => do
      if (files.readFile? path).isSome then return files
      let files ← addFile files path
      match files.readFile? path with
      | none => return files
      | some bytes =>
        match decodeUtf8 bytes with
        | .error _ => return files
        | .ok cs =>
          (quotedTexts (String.ofList cs)).foldlM (addDocument directory depth) files

/-- How deep documents that name each other are read. -/
def documentDepth : Nat := 16

/-- The store with the template at a path and the documents it may name. -/
def addTemplate (files : FileStore) (path : String) : IO FileStore :=
  let p := FilePath.ofString path
  addDocument p.parent documentDepth files p.name

/-- The microseconds since 1970. -/
def readNow : IO Int := do
  return (← Std.Time.Timestamp.now).toNanosecondsSinceUnixEpoch.val.fdiv 1000

/-! ## Measuring -/

/-- What the system counts for the process: processor time in hundredths of a second, and bytes of
    memory. -/
structure Usage where
  ticks : Nat
  memory : Nat

def readUsage : IO Usage := do
  let text := (← systemText? "/proc/self/stat").getD ""
  let fields := ((text.splitOn ") ").getLast?.getD "").splitOn " "
  let field (k : Nat) : Nat := natOfDigits ((fields[k]?.getD "").toList)
  return { ticks := field 11 + field 12, memory := field 21 * 4096 }

/-- Renders, with the readings of the clock before and after each. -/
def timedRenders (render : IO Unit) (count : Nat) : IO (List Int) := do
  let mut readings : List Int := []
  for _ in List.range count do
    let start ← IO.monoNanosNow
    render
    let stop ← IO.monoNanosNow
    readings := (stop : Int) :: (start : Int) :: readings
  return readings.reverse

/-- The readings of the clock and of the machine during a session. -/
def measured (files : FileStore) (c : RunConfig) : IO (Clock × Host) := do
  let last ← IO.mkRef (Except.ok () : Except RenderError Unit)
  let items ← IO.mkRef (itemsValue ((generateRange c.itemCount c.shape).toOption.getD []))
  let render : IO Unit :=
    match Template.load files c.templatePath with
    | .ok t => do
      let given ← items.get
      last.set (t.renderInto {} c.subTemplate given).2
      items.set (t.left c.subTemplate given)
    | .error _ => pure ()
  let before ← readUsage
  let start ← IO.monoNanosNow
  let _ ← timedRenders render c.warmupRuns.toNat
  let readings ← timedRenders render c.runCount.toNat
  let stop ← IO.monoNanosNow
  let after ← readUsage
  let seconds (nanos : Nat) : Binary64 := .ofRatio false nanos 1000000000
  let share : Binary64 :=
    .ofRatio false ((after.ticks - before.ticks) * 1000000000) (max 1 (stop - start))
  return (.readings readings,
    { seconds := [seconds start, seconds stop]
      memory := [before.memory, after.memory]
      processor := share.roundTo 1
      tracedPeak := 0 })

/-! ## Results -/

/-- The directories above a location and its path. -/
def locationPath (l : Location) : FilePath :=
  match FileStore.belowWorking? l with
  | some names => ⟨"", names⟩
  | none => ⟨"/", l⟩

/-- The files that are new or have changed. -/
def changedFiles (before after : FileStore) : List (FilePath × List UInt8) :=
  after.entries.filterMap fun (l, e) =>
    match e with
    | .file bytes => if before.get? l = some e then none else some (locationPath l, bytes)
    | .directory => none

def writeFiles (before after : FileStore) : IO Unit := do
  for (path, bytes) in changedFiles before after do
    IO.FS.createDirAll path.parent.text
    IO.FS.writeBinFile path.text (ByteArray.mk bytes.toArray)

/-- What is told of a failure that no command handles. -/
def Failure.lines : Failure → List String
  | .settings (.invalid i) =>
    i.complaints.map fun c => String.intercalate "." c.place ++ ": " ++ c.problem.message
  | .settings (.encoding f) => [f.message]
  | .level e => [e.message]
  | .session e => [e.message]
  | .details e => [e.message]
  | .persist (.file e) => [e.message]
  | .persist (.spread e) => [e.message]
  | .persist .digits => [unwrittenMessage]

/-- What is told of the end of a command that ended early. -/
def Stop.lines : Stop → List String
  | .usage e => ["Error: " ++ e.message]
  | .failed e => e.lines
  | .reported => []
  | .cancelled => []

end RenderBench.CommandLine

open RenderBench RenderBench.CommandLine in
/-- Carries out a command line; the result is the exit code. -/
def main (words : List String) : IO UInt32 := do
  let environment ← readEnvironment
  let files ← addFile FileStore.empty Settings.filePath
  let found : Surroundings :=
    { environment, files, now := ← readNow, clock := .readings [], host := {} }
  let surroundings ← match sessionConfig? found words with
    | none => pure found
    | some config => do
      let files ← addTemplate files config.templatePath
      let (clock, host) ← measured files config
      pure { found with files, clock, host }
  let outcome := execute surroundings words
  (← IO.getStdout).putStr outcome.written.output
  let stderr ← IO.getStderr
  stderr.putStr outcome.written.errors
  writeFiles surroundings.files outcome.written.files
  match outcome.stop with
  | some stop => stop.lines.forM fun line => stderr.putStrLn line
  | none => pure ()
  return outcome.exitCode.toUInt32
