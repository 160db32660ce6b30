import RenderBench.Number.Decimal
import RenderBench.Text.CaseMap

/-!
# `Log.Level` — severity levels

Levels are whole numbers; five of them, and the zero level, have names.
-/

namespace RenderBench.Log

abbrev Level := Int

namespace Level

def debug : Level := 10
def info : Level := 20
def warning : Level := 30
def error : Level := 40
def critical : Level := 50

/-- The level of a name, in any letter case; some levels have two names. -/
def ofName? (name : String) : Option Level :=
  [("CRITICAL", critical), ("FATAL", critical), ("ERROR", error), ("WARN", warning),
   ("WARNING", warning), ("INFO", info), ("DEBUG", debug), ("NOTSET", 0)].lookup (upper name)

/-- The name of a level; a level without a name is called by its number. -/
def name (level : Level) : String :=
  match [(50, "CRITICAL"), (40, "ERROR"), (30, "WARNING"), (20, "INFO"), (10, "DEBUG"),
      (0, "NOTSET")].lookup level with
  | some n => n
  | none => "Level " ++ intText level

end Level

end RenderBench.Log
