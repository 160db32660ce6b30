import RenderBench.Session.Result

/-!
# `Report.Lines` — the report of a session

Four lines of plain text: what was measured, and the three figures of the summary.
-/

namespace RenderBench

/-- What the lines with figures may end with. -/
def microsSuffix : String := " (micros)"

/-- The lines of a report; the flag tells whether they name the unit. -/
def reportLines (r : SessionResult) (withUnit : Bool) : List String :=
  let unit := if withUnit then microsSuffix else ""
  ["Table with " ++ intText r.itemCount ++ " items, " ++ intText r.runCount ++ " runs:",
   "Min: " ++ intText r.min ++ unit,
   "Max: " ++ intText r.max ++ unit,
   "Average: " ++ intText r.average ++ unit]

end RenderBench
