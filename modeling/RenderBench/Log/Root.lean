import RenderBench.Log.Format

/-!
# `Log.Root` — where log lines go

All loggers pass their records to one root, which has a level and handlers. A handler writes the records
from its own level on, in its style. Without any handler, warnings and worse are written as bare messages.

## Contents
- `Root`, `Root.initial`, `Root.verbose`: the state of logging.
- `Root.reconfigure`: one handler and one level instead of what was there; an unknown level changes nothing.
- `Root.accepts`, `Root.write`: which records are let through, and the text they leave.
-/

namespace RenderBench.Log

/-- Writes records from a level on in a style. -/
structure Handler where
  style : Style
  level : Level
  deriving DecidableEq

structure Root where
  level : Level
  handlers : List Handler
  deriving DecidableEq

/-- A level name that is none. -/
structure UnknownLevel where
  name : String
  deriving DecidableEq

def UnknownLevel.message (_ : UnknownLevel) : String := "Unable to configure handler 'default'"

def readLevel (name : String) : Except UnknownLevel Level :=
  match Level.ofName? name with
  | some level => .ok level
  | none => .error ⟨name⟩

/-- A handler of the level with a name. -/
def Handler.make (levelName : String) (style : Style) : Except UnknownLevel Handler := do
  return ⟨style, ← readLevel levelName⟩

/-- An attribute that callers must not set. -/
structure Overwrite where
  name : String
  deriving DecidableEq

def Overwrite.message (o : Overwrite) : String :=
  quoted ("Attempt to overwrite " ++ quoted o.name ++ " in LogRecord")

namespace Root

/-- Logging before any configuration. -/
def initial : Root := ⟨Level.warning, []⟩

/-- Logging that lets every record of a positive level through. -/
def verbose : Root := ⟨1, []⟩

/-- The level of the handler that stands in when there is none. -/
def lastResort : Level := Level.warning

def detach (root : Root) (h : Handler) : Root := { root with handlers := root.handlers.erase h }

def attach (root : Root) (h : Handler) : Root := { root with handlers := root.handlers ++ [h] }

/-- All handlers are taken away, one after the other. -/
def detachAll (root : Root) : Root := root.handlers.foldl detach root

/-- The new handler comes first, so that an unknown level leaves everything as it was; then the root takes the same
    level and the new handler in place of all that it has. -/
def reconfigure (root : Root) (levelName : String) (style : Style) : Except UnknownLevel Root := do
  let handler ← Handler.make levelName style
  let level ← readLevel levelName
  return ({ root with level }.detachAll).attach handler

theorem detachAll_eq (root : Root) : root.detachAll = { root with handlers := [] } := by
  have hall (handlers : List Handler) (level : Level) : handlers.foldl detach ⟨level, handlers⟩ = ⟨level, []⟩ := by
    induction handlers with
    | nil => rfl
    | cons h handlers ih =>
      rw [List.foldl_cons, detach, List.erase_cons_head, ih]
  exact hall root.handlers root.level

/-- Nothing is left of the root that there was. -/
theorem reconfigure_eq (root : Root) (levelName : String) (style : Style) :
    root.reconfigure levelName style = (readLevel levelName).map fun level => ⟨level, [⟨style, level⟩]⟩ := by
  unfold reconfigure Handler.make
  cases readLevel levelName with
  | error e => rfl
  | ok level =>
    show Except.ok (({ root with level }.detachAll).attach ⟨style, level⟩) = _
    rw [detachAll_eq]
    rfl

/-- The first configuration. -/
def configure (levelName : String) (style : Style) : Except UnknownLevel Root := initial.reconfigure levelName style

/-- Records of positive levels from the root's level on are let through. -/
def accepts (root : Root) (level : Level) : Bool := 0 < level && root.level ≤ level

/-- The text a handler writes for a record; one that has no line writes nothing. -/
def handle (now : Int) (r : Record) (h : Handler) : String :=
  if h.level ≤ r.level then
    match r.line h.style now with
    | .ok line => line ++ "\n"
    | .error _ => ""
  else ""

/-- The text a record leaves. -/
def write (root : Root) (now : Int) (r : Record) : String :=
  if !root.accepts r.level then ""
  else if root.handlers.isEmpty then
    if lastResort ≤ r.level then
      match r.bareLine with
      | .ok line => line ++ "\n"
      | .error _ => ""
    else ""
  else String.join (root.handlers.map (handle now r))

/-- The text several records leave. -/
def writeAll (root : Root) (now : Int) (rs : List Record) : String :=
  String.join (rs.map (root.write now))

end Root

/-- The first attribute a caller must not set: those every record has, and those of the written line. -/
def firstOverwrite (extra : List (String × Datum)) : Option Overwrite :=
  (extra.find? fun (k, _) => k != "extra" && reserved.contains k).map fun (k, _) => ⟨k⟩

/-- Logging a record with attributes: refused when one of them is taken and the record would be let
    through. -/
def Root.log (root : Root) (now : Int) (r : Record) : Except Overwrite String :=
  if !root.accepts r.level then .ok ""
  else match firstOverwrite r.extra with
    | some o => .error o
    | none => .ok (root.write now r)

end RenderBench.Log
