import RenderBench.Archive
import RenderBench.CommandLine.Command
import RenderBench.Log.Root
import RenderBench.Report.Details
import RenderBench.Report.Lines
import RenderBench.Session.Run
import RenderBench.Settings.Basic

/-!
# `CommandLine.Run` — carrying out a command

A command reads its surroundings and leaves two texts, files and an exit code. The report of a session goes
to the first text; log lines, the table of details and failures go to the second one. A command that ends
early keeps what it has written.

## Contents
- `Surroundings`: what a command finds.
- `Failure`, `Stop`, `Outcome`: how a command ends.
- `RunOptions.config`: the parameters of the session that the options, the settings and a variant make.
- `carryOut`: a command.
- `sessionConfig?`: the session a command line starts.
- `execute`: a command line.
-/

namespace RenderBench.CommandLine

open Log (Record)

/-- Where the user cancels. -/
inductive Interrupt where
  /-- While a session runs. -/
  | session
  /-- Before any command is carried out. -/
  | program
  deriving DecidableEq

/-- What a command finds: variables, files, the time in microseconds, the clock and the machine. -/
structure Surroundings where
  environment : Environment
  files : FileStore
  now : Int
  clock : Clock
  host : Host
  interrupt : Option Interrupt := none

/-- A failure that no command handles. -/
inductive Failure where
  | settings (e : Settings.Failure)
  | level (e : Log.UnknownLevel)
  | session (e : SessionError)
  | details (e : DetailsError)
  | persist (e : PersistError)
  deriving DecidableEq

/-- Why a command ends early. -/
inductive Stop where
  | usage (e : UsageError)
  | failed (e : Failure)
  /-- The failure is told already. -/
  | reported
  | cancelled
  deriving DecidableEq

def Stop.exitCode : Stop → Nat
  | .usage _ => 2
  | .failed _ => 1
  | .reported => 1
  | .cancelled => 130

/-- What a command has left so far. -/
structure Written where
  output : String := ""
  errors : String := ""
  files : FileStore

/-- What a command leaves, and why it ended, if it ended early. -/
structure Outcome where
  stop : Option Stop
  written : Written

def Outcome.exitCode (o : Outcome) : Nat := (o.stop.map Stop.exitCode).getD 0

/-- A command that is being carried out. -/
abbrev Action := ExceptT Stop (StateM Written)

namespace Action

/-- Lines for the first text. -/
def printLines (lines : List String) : Action Unit :=
  modify fun w => { w with output := w.output ++ String.join (lines.map (· ++ "\n")) }

/-- More of the second text. -/
def printErrors (text : String) : Action Unit :=
  modify fun w => { w with errors := w.errors ++ text }

/-- A result, or the end of the command. -/
def orStop {ε α : Type} (stop : ε → Stop) : Except ε α → Action α
  | .ok a => pure a
  | .error e => throw (stop e)

end Action

/-! ## Settings -/

/-- The warning about a line of the file of settings. -/
def unreadableLine (line : Nat) : Record where
  logger := "dotenv.main"
  level := Log.Level.warning
  text := .text ("python-dotenv could not parse statement starting at line " ++ natText line)

/-- The settings. Logging is not configured yet when they are read. -/
def readSettings (s : Surroundings) : Action Settings := do
  match Settings.readFile s.files s.environment with
  | .ok file =>
    Action.printErrors (Log.Root.initial.writeAll s.now (file.invalidLines.map unreadableLine))
  | .error _ => pure ()
  Action.orStop (fun e => .failed (.settings e)) (Settings.load s.files s.environment [])

/-! ## Commands -/

def variantsLine : String := "Available variants: " ++ Variant.listing

/-- A number that the variant decides on when it is not there. -/
def openNumber : Option Int → String
  | none => "default"
  | some n => intText n

def settingsLine (s : Settings) : String :=
  "template=" ++ s.templatePath ++ " sub_template=" ++ s.subTemplate ++ " | variant=" ++ s.variant ++
    " items=" ++ openNumber s.items ++ " runs=" ++ openNumber s.runs ++
    " warmup=" ++ intText s.warmupRuns

def runInfo (s : Surroundings) : Action Unit := do
  let settings ← readSettings s
  Action.printLines [settingsLine settings, variantsLine]

def runGenerate (o : GenerateOptions) : Action Unit :=
  Action.printLines ((firstItems o.items.toNat o.shape).map fun i => i.toJson.write)

/-- An option's text, unless it is missing or empty. -/
def textOr (text : Option String) (default : String) : String :=
  match text with
  | none | some "" => default
  | some t => t

namespace RunOptions

def variantName (o : RunOptions) (s : Settings) : String := textOr o.variant s.variant

/-- The parameters of a session: options count before settings, and settings before the variant. -/
def config (o : RunOptions) (s : Settings) (v : Variant) : RunConfig :=
  RunConfig.underVariant v
    [.templatePath (some (textOr o.template s.templatePath)),
     .subTemplate (some s.subTemplate),
     .itemCount (o.items.or s.items),
     .runCount (o.runs.or s.runs),
     .shape (o.shape.map Shape.name),
     .warmupRuns (some (o.warmupRuns.getD s.warmupRuns))]

end RunOptions

/-- The name that asks for the variants instead of standing for one. -/
def listName : String := "list"

/-- How wide the terminal is. -/
def terminalWidth (environment : Environment) : Nat :=
  match environment.lookup "COLUMNS" with
  | some text =>
    if text.isEmpty || !text.all Char.isDigit then 80 else natOfDigits text.toList
  | none => 80

/-- The session of `run` after the variant is known. -/
def runVariant (s : Surroundings) (o : RunOptions) (settings : Settings) (root : Log.Root)
    (variant : Variant) : Action Unit := do
  if s.interrupt = some .session then throw .cancelled
  let run := runSession s.files s.clock s.host (o.config settings variant) root
  Action.printErrors (root.writeAll s.now run.logs)
  match run.result with
  | .error (.load e) =>
    Action.printErrors (e.message ++ "\n")
    throw .reported
  | .error e => throw (.failed (.session e))
  | .ok result =>
    Action.printLines (reportLines result (o.withUnit.getD variant.microsSuffix))
    if o.details then
      Action.printErrors (← Action.orStop (fun e => .failed (.details e))
        (detailsText (terminalWidth s.environment) false result))
    if o.save then
      let (files, saved) := persist (← get).files s.now settings.resultsDirectory result
      modify fun w => { w with files }
      let (_, notice) ← Action.orStop (fun e => .failed (.persist e)) saved
      Action.printErrors (root.write s.now notice)

def runRun (s : Surroundings) (o : RunOptions) : Action Unit := do
  let settings ← readSettings s
  let root ← Action.orStop (fun e => .failed (.level e))
    (Log.Root.configure settings.logLevel (if settings.jsonLogs then .json else .console))
  let name := o.variantName settings
  if name = listName then Action.printLines [variantsLine]
  else
    let variant ← Action.orStop (fun e => .usage (.unknownVariant e)) (Variant.ofName name)
    runVariant s o settings root variant

/-- The session that a command line starts, if it starts one. -/
def sessionConfig? (s : Surroundings) (words : List String) : Option RunConfig :=
  match Command.read words, Settings.load s.files s.environment [] with
  | .ok (.run o), .ok settings =>
    (Variant.ofName (o.variantName settings)).toOption.map fun v => o.config settings v
  | _, _ => none

/-- How the program is used. -/
def helpLines : List String :=
  ["Usage: tablebench COMMAND [OPTIONS]",
   "",
   "Commands:",
   "  info      Show effective configuration values.",
   "  run       Run one benchmark session and print min/max/average render latency.",
   "  generate  Print generated items as JSON lines."]

def carryOut (s : Surroundings) : Command → Action Unit
  | .info => runInfo s
  | .run o => runRun s o
  | .generate o => runGenerate o
  | .help => Action.printLines helpLines
  | .completion => do
    Action.printErrors "Shell completion is not available.\n"
    throw .reported

/-- What the words of a command line ask for, carried out. -/
def perform (s : Surroundings) (words : List String) : Action Unit := do
  if s.interrupt = some .program then
    Action.printErrors "Cancelled by user.\n"
    throw .cancelled
  let command ← Action.orStop .usage (Command.read words)
  carryOut s command

/-- A command line in its surroundings. -/
def execute (s : Surroundings) (words : List String) : Outcome :=
  match (perform s words).run { files := s.files } with
  | (.ok _, written) => ⟨none, written⟩
  | (.error stop, written) => ⟨some stop, written⟩

end RenderBench.CommandLine
