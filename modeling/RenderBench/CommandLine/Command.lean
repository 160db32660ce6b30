import RenderBench.CommandLine.Options
import RenderBench.Validation.Convert

/-!
# `CommandLine.Command` — what a command line asks for

The first word that is no option names a command, and the words behind it are the command's own. The values
of a command's options are checked in the order in which the options are first mentioned.

## Contents
- `RunOptions`, `GenerateOptions`: the options of the commands that have any.
- `Command`, `Command.read`: a command line.
-/

namespace RenderBench.CommandLine

structure RunOptions where
  variant : Option String := none
  template : Option String := none
  items : Option Int := none
  runs : Option Int := none
  warmupRuns : Option Int := none
  shape : Option Shape := none
  withUnit : Option Bool := none
  details : Bool := false
  save : Bool := false
  deriving DecidableEq

structure GenerateOptions where
  items : Int := 10
  shape : Shape := .customer
  deriving DecidableEq

inductive Command where
  | info
  | run (o : RunOptions)
  | generate (o : GenerateOptions)
  /-- How the program is used. -/
  | help
  /-- Completion of command lines by a shell, which this program does not offer. -/
  | completion
  deriving DecidableEq

/-! ## Options -/

inductive GroupOption where
  | installCompletion
  | showCompletion
  | help
  deriving DecidableEq

/-- The options before a command. -/
def groupOptions : List (OptionSpec GroupOption) :=
  [{ key := .installCompletion, long := "--install-completion", value := .constant "" },
   { key := .showCompletion, long := "--show-completion", value := .constant "" },
   { key := .help, long := "--help", value := .constant "" }]

inductive RunOption where
  | variant
  | template
  | items
  | runs
  | warmupRuns
  | shape
  | withUnit
  | details
  | save
  | help
  deriving DecidableEq

def runOptions : List (OptionSpec RunOption) :=
  [{ key := .variant, long := "--variant", short := some 'v' },
   { key := .template, long := "--template", short := some 't' },
   { key := .items, long := "--items", short := some 'n' },
   { key := .runs, long := "--runs", short := some 'r' },
   { key := .warmupRuns, long := "--warmup" },
   { key := .shape, long := "--shape" },
   { key := .withUnit, long := "--micros", value := .constant "yes" },
   { key := .withUnit, long := "--no-micros", value := .constant "no" },
   { key := .details, long := "--details", value := .constant "" },
   { key := .save, long := "--save", value := .constant "" },
   { key := .help, long := "--help", value := .constant "" }]

inductive GenerateOption where
  | items
  | shape
  | help
  deriving DecidableEq

def generateOptions : List (OptionSpec GenerateOption) :=
  [{ key := .items, long := "--items", short := some 'n' },
   { key := .shape, long := "--shape" },
   { key := .help, long := "--help", value := .constant "" }]

def infoOptions : List (OptionSpec Unit) :=
  [{ key := (), long := "--help", value := .constant "" }]

/-! ## Values -/

/-- The names of an option in messages. -/
def itemsNames : List String := ["--items", "-n"]

def runsNames : List String := ["--runs", "-r"]

def warmupNames : List String := ["--warmup"]

/-- The number that a text is, if it is not below the bound. -/
def readCount (names : List String) (bound : Int) (text : String) : Except UsageError Int :=
  ((Datum.text text).asInt.bind (atLeast bound)).mapError (.invalidNumber names)

def readShape (text : String) : Except UsageError Shape :=
  match Shape.ofName? text with
  | some s => .ok s
  | none => .error .unknownShape

def RunOptions.set (o : RunOptions) : RunOption × String → Except UsageError RunOptions
  | (.variant, v) => .ok { o with variant := some v }
  | (.template, v) => .ok { o with template := some v }
  | (.items, v) => (readCount itemsNames 0 v).map fun n => { o with items := some n }
  | (.runs, v) => (readCount runsNames 1 v).map fun n => { o with runs := some n }
  | (.warmupRuns, v) => (readCount warmupNames 0 v).map fun n => { o with warmupRuns := some n }
  | (.shape, v) => (readShape v).map fun s => { o with shape := some s }
  | (.withUnit, v) => .ok { o with withUnit := some (v == "yes") }
  | (.details, _) => .ok { o with details := true }
  | (.save, _) => .ok { o with save := true }
  | (.help, _) => .ok o

def GenerateOptions.set (o : GenerateOptions) :
    GenerateOption × String → Except UsageError GenerateOptions
  | (.items, v) => (readCount itemsNames 0 v).map fun n => { o with items := n }
  | (.shape, v) => (readShape v).map fun s => { o with shape := s }
  | (.help, _) => .ok o

/-! ## Commands -/

namespace Command

def names : List String := ["info", "run", "generate"]

/-- A command from the words behind its name: the request for help goes before everything else, and other
    words than options come last. -/
def readWith {ι α : Type} [BEq ι] (specs : List (OptionSpec ι)) (help : ι) (options : α)
    (set : α → ι × String → Except UsageError α) (command : α → Command) (words : List String) :
    Except UsageError Command := do
  let s ← scan specs true words
  if s.given.any fun (key, _) => key == help then return .help
  let options ← (lastValues s.given).foldlM set options
  if s.rest.isEmpty then return command options
  throw (.extraArguments s.rest)

/-- What the first option before a command asks for. -/
def ofGroupOption : GroupOption → Command
  | .help => .help
  | .installCompletion | .showCompletion => .completion

/-- What a command line asks for. A command's name behind two dashes may look like an option, and is one if
    there is such an option. -/
def read (words : List String) : Except UsageError Command := do
  let s ← scan groupOptions false words
  match s.given, s.rest with
  | (option, _) :: _, _ => return ofGroupOption option
  | [], [] => throw .missingCommand
  | [], "info" :: words => readWith infoOptions () () (fun o _ => .ok o) (fun _ => .info) words
  | [], "run" :: words => readWith runOptions .help {} RunOptions.set .run words
  | [], "generate" :: words => readWith generateOptions .help {} GenerateOptions.set .generate words
  | [], name :: words =>
    match (← scan groupOptions false (name :: words)).given with
    | (option, _) :: _ => return ofGroupOption option
    | [] => throw (.unknownCommand name (similarWords name names))

end Command

end RenderBench.CommandLine
