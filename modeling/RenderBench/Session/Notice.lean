import RenderBench.FileStore.Path
import RenderBench.Log.Record
import RenderBench.RunConfig
import RenderBench.Session.Result
import RenderBench.Template.Basic

/-!
# `Session.Notice` — what a session logs

Every step of a session that a reader of the log wants to know of is one record, with the figures as
attributes.
-/

namespace RenderBench

open Log (Record Level)

/-- A record of a session with attributes. -/
def sessionRecord (level : Level) (text : String) (extra : List (String × Datum)) : Record where
  logger := "tablebench.runner"
  level
  text := .text text
  extra

def sessionStart (c : RunConfig) : Record :=
  sessionRecord Level.info ("[SESSION START] " ++ c.label)
    [("label", .text c.label), ("template", .text c.templatePath), ("items", .int c.itemCount),
     ("runs", .int c.runCount), ("shape", .text c.shape)]

def sessionAborted (c : RunConfig) (e : LoadError) : Record :=
  sessionRecord Level.error ("[SESSION ABORTED] " ++ e.message)
    [("template", .text c.templatePath)]

def renderErrors (c : RunConfig) (n : Nat) : Record :=
  sessionRecord Level.warning
    ("[RENDER ERRORS] " ++ natText n ++ "/" ++ intText c.runCount ++ " renders failed")
    [("render_errors", .int n), ("runs", .int c.runCount)]

def sessionComplete (r : SessionResult) (duration : Binary64) : Record :=
  sessionRecord Level.info ("[SESSION COMPLETE] " ++ r.label)
    [("label", .text r.label), ("min", .int r.min), ("max", .int r.max),
     ("average", .int r.average), ("duration_seconds", .real (duration.roundTo 3))]

/-- The notice of the first failed render. -/
def failedRender (subTemplate : String) (iteration : Nat) (e : RenderError) : Record :=
  sessionRecord Level.warning ("Render failed, timing kept: " ++ e.message)
    [("iteration", .int iteration), ("sub_template", .text subTemplate)]

/-- The notice of a saved result. -/
def persisted (latest archive : FilePath) : Record :=
  sessionRecord Level.info "Results persisted"
    [("latest", .text latest.text), ("archive", .text archive.text)]

end RenderBench
