import RenderBench.Datum.Basic
import RenderBench.Log.Level
import RenderBench.Text.Percent

/-!
# `Log.Record` — what is logged

A record has a level, a logger, a message with arguments, and attributes added by the caller. Added
attributes may replace the record's own ones once it is finished.

## Contents
- `Failure`, `Failure.text`: an error a record reports.
- `Arguments`: the arguments of a message.
- `Record`, `Record.attribute`: the record and its attributes by name.
- `Record.message`: the formatted message.
-/

namespace RenderBench.Log

/-- A reported error: its kind and the values it was made from. -/
inductive Failure where
  | value (arguments : List Datum)
  | key (arguments : List Datum)
  | system (arguments : List Datum)

/-- The names of system errors that have one of their own. -/
def systemErrorName (number : Int) : String :=
  match [((1 : Int), "PermissionError"), (13, "PermissionError"), (2, "FileNotFoundError"),
      (3, "ProcessLookupError"), (4, "InterruptedError"), (10, "ChildProcessError"),
      (11, "BlockingIOError"), (17, "FileExistsError"), (20, "NotADirectoryError"),
      (21, "IsADirectoryError"), (32, "BrokenPipeError"), (103, "ConnectionAbortedError"),
      (104, "ConnectionResetError"), (110, "TimeoutError"),
      (111, "ConnectionRefusedError")].lookup number with
  | some n => n
  | none => "OSError"

/-- Several values as one listing in parentheses. -/
def argumentsText : List Datum → String
  | [] => ""
  | [d] => d.display
  | ds => "(" ++ String.intercalate ", " (Datum.literals ds) ++ ")"

/-- A kind of error with its description, if there is one. -/
def failureLine (kind description : String) : String :=
  if description.isEmpty then kind else kind ++ ": " ++ description

def Failure.text : Failure → String
  | .value ds => failureLine "ValueError" (argumentsText ds)
  | .key [d] => failureLine "KeyError" d.literal
  | .key ds => failureLine "KeyError" (argumentsText ds)
  | .system (.int n :: reason :: []) =>
    failureLine (systemErrorName n) ("[Errno " ++ intText n ++ "] " ++ reason.display)
  | .system (.int n :: reason :: path :: []) =>
    failureLine (systemErrorName n)
      ("[Errno " ++ intText n ++ "] " ++ reason.display ++ ": " ++ path.literal)
  | .system ds => failureLine "OSError" (argumentsText ds)

/-- The arguments of a message: several by position, or one value, which may hold named ones. -/
inductive Arguments where
  | several (ds : List Datum)
  | one (d : Datum)

/-- Arguments as a caller gives them: a single mapping that is not empty stands for itself. -/
def Arguments.ofList : List Datum → Arguments
  | [.dict (e :: es)] => .one (.dict (e :: es))
  | ds => .several ds

def Arguments.isEmpty : Arguments → Bool
  | .several ds => ds.isEmpty
  | .one d => !d.isTruthy

/-- What placeholders see of a value. -/
def formatArgument (d : Datum) : FormatArgument where
  display := d.display
  literal := d.literal
  kind := match d with
    | .null => "NoneType"
    | .bool _ => "bool"
    | .int _ => "int"
    | .real _ => "float"
    | .text _ => "str"
    | .list _ => "list"
    | .dict _ => "dict"
    | .foreign f => f.kind
  number := match d with
    | .bool b => some (.whole (if b then 1 else 0))
    | .int i => some (.whole i)
    | .real x => some (.real x)
    | .foreign f => f.real?.map .real
    | _ => none
  whole := match d with
    | .bool b => some (if b then 1 else 0)
    | .int i => some i
    | _ => none
  isText := match d with
    | .text _ => true
    | _ => false

def Arguments.supply : Arguments → Supply
  | .several ds => ⟨ds.map formatArgument, none, true⟩
  | .one (.dict es) =>
    ⟨[formatArgument (.dict es)], some (es.map fun (k, v) => (k, formatArgument v)), false⟩
  | .one (.list es) => ⟨[formatArgument (.list es)], none, false⟩
  | .one d => ⟨[formatArgument d], none, true⟩

structure Record where
  logger : String
  level : Level
  text : Datum
  arguments : Arguments := .several []
  failure : Option Failure := none
  stack : Datum := .null
  /-- Attributes added by the caller, in order. -/
  extra : List (String × Datum) := []

namespace Record

/-- An attribute that was added, the last one of a name. -/
def added? (r : Record) (name : String) : Option Datum := r.extra.reverse.lookup name

/-- The text of the message before its arguments are filled in. -/
def effectiveText (r : Record) : Datum := (r.added? "msg").getD r.text

def effectiveArguments (r : Record) : Arguments :=
  match r.added? "args" with
  | some d => .one d
  | none => r.arguments

/-- The message with its arguments filled in; without arguments nothing is filled in. -/
def message (r : Record) : Except FormatError String :=
  let text := r.effectiveText.display
  if r.effectiveArguments.isEmpty then .ok text
  else percentFormat text r.effectiveArguments.supply

end Record

end RenderBench.Log
