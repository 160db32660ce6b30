import RenderBench.Calendar.Civil
import RenderBench.Log.Record

/-!
# `Log.Format` — the two forms of a log line

A record is written either for people, as a line that starts with the time, or as one JSON object. For people the error
and the stack follow on lines of their own.

## Contents
- `reserved`: attribute names that are never copied into the object.
- `Record.payload`: the members of the object, in three layers.
- `LineError`, `LineError.message`: why a record has no line.
- `Record.bareLine`, `Record.consoleLine`, `Record.jsonLine`: the forms of a record.
- `Style`, `Record.line`: the written line.
-/

namespace RenderBench.Log

/-- The attributes every record has; their values are not copied into the object. -/
def reserved : List String :=
  ["name", "msg", "args", "levelname", "levelno", "pathname", "filename", "module", "exc_info",
   "exc_text", "stack_info", "lineno", "funcName", "created", "msecs", "relativeCreated",
   "thread", "threadName", "processName", "process", "message", "asctime", "extra"]

/-- Whether an attribute is copied into the object. -/
def isPromoted (name : String) : Bool := !reserved.contains name && !name.startsWith "_"

/-- Sets a member; one that is there keeps its place. -/
def setMember (name : String) (value : Datum) : List (String × Datum) → List (String × Datum)
  | [] => [(name, value)]
  | (k, v) :: ms => if k = name then (name, value) :: ms else (k, v) :: setMember name value ms

/-- Sets members one after the other. -/
def setMembers (members : List (String × Datum)) (updates : List (String × Datum)) :
    List (String × Datum) :=
  updates.foldl (fun ms (k, v) => setMember k v ms) members

/-- Why a record has no line. -/
inductive LineError where
  | format (e : FormatError)
  /-- A key of a kind that no document has. -/
  | key (kind : String)

def LineError.message : LineError → String
  | .format e => e.message
  | .key kind => "keys must be str, int, float, bool or None, not " ++ kind

namespace Record

/-- The text of the reported error, if there is one. -/
def failureText (r : Record) : Option Datum :=
  match r.added? "exc_info" with
  | some d => if d.isTruthy then some (.text d.display) else none
  | none => r.failure.map fun f => .text f.text

/-- The stack description, if there is one. -/
def stackText (r : Record) : Option Datum :=
  let d := (r.added? "stack_info").getD r.stack
  if d.isTruthy then some d else none

/-- The members every line has. -/
def base (r : Record) (message : String) : List (String × Datum) :=
  [("level", (r.added? "levelname").getD (.text r.level.name)),
   ("logger", (r.added? "name").getD (.text r.logger)),
   ("message", .text message)] ++
  (r.failureText.map fun d => ("exc_info", d)).toList ++
  (r.stackText.map fun d => ("stack_info", d)).toList

/-- The members of an attribute `extra` that is a mapping. -/
def nested (r : Record) : List (String × Datum) :=
  match r.added? "extra" with
  | some (.dict es) => es
  | _ => []

/-- The members of the object: the base, then the promoted attributes, then the nested ones; later
    layers replace members of the earlier ones. -/
def payload (r : Record) (message : String) : List (String × Datum) :=
  setMembers (setMembers (r.base message) (r.extra.filter fun (k, _) => isPromoted k)) r.nested

/-- The kind of the first key in the record that no document has, in the mapping `extra` itself or in a member. -/
def oddKey? (r : Record) (message : String) : Option String :=
  match r.added? "extra" with
  | some (.foreign f) => f.oddKey?.or (Datum.oddKeyOf? (r.payload message))
  | _ => Datum.oddKeyOf? (r.payload message)

/-- The record as one JSON object. -/
def jsonLine (r : Record) : Except LineError String := do
  let m ← r.message.mapError .format
  match r.oddKey? m with
  | some kind => throw (.key kind)
  | none => return (Datum.dict (r.payload m)).toJson.write

/-- A text with another one below it, if there is one. -/
def below (s : String) (t : Option String) : String :=
  match t with
  | none => s
  | some t => (if s.toList.getLast? = some '\n' then s else s ++ "\n") ++ t

/-- A text with the error and the stack of the record below it. -/
def withDetails (r : Record) (s : String) : String :=
  below (below s (r.failure.map Failure.text)) (if r.stack.isTruthy then some r.stack.display else none)

/-- The message alone, with what stands below it. -/
def bareLine (r : Record) : Except LineError String := do
  let m ← r.message.mapError .format
  return r.withDetails m

/-- The record for people, at an instant. -/
def consoleLine (now : Int) (r : Record) : Except LineError String := do
  let m ← r.message.mapError .format
  return r.withDetails
    ((Civil.ofMicros now).clockTime ++ " | " ++ r.level.name ++ " | " ++ r.logger ++ " | " ++ m)

end Record

/-- How lines are written. -/
inductive Style where
  | console
  | json
  deriving DecidableEq

def Record.line (style : Style) (now : Int) (r : Record) : Except LineError String :=
  match style with
  | .console => r.consoleLine now
  | .json => r.jsonLine

end RenderBench.Log
