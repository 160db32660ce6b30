import RenderBench.Host.Profile
import RenderBench.Statistics.Basic

/-!
# `Session.Result` — the outcome of a session

The samples of a session with their summary, and what it cost the machine.

## Contents
- `SessionResult`: the outcome.
- `SessionResult.toJson`: the document that is reported and archived.
-/

namespace RenderBench

structure SessionResult where
  label : String
  itemCount : Int
  runCount : Int
  /-- Elapsed times in whole microseconds. -/
  samples : List Int
  min : Int
  max : Int
  average : Int
  renderErrors : Int := 0
  warmupRuns : Int := 0
  profile : Option ProfileStats := none
  deriving DecidableEq

namespace SessionResult

def median (r : SessionResult) : Except SpreadError Figure := RenderBench.median r.samples

def stddev (r : SessionResult) : Except SpreadError Binary64 := RenderBench.stddev r.samples

/-- The result as a document. The deviation has two places; the samples themselves come last, if they are
    asked for. -/
def toJson (r : SessionResult) (withSamples : Bool) : Except SpreadError Json := do
  let median ← r.median
  let stddev ← r.stddev
  return .object ([
    ("label", .text r.label),
    ("items", .int r.itemCount),
    ("runs", .int r.runCount),
    ("min_micros", .int r.min),
    ("max_micros", .int r.max),
    ("average_micros", .int r.average),
    ("median_micros", median.toJson),
    ("stddev_micros", .real (stddev.roundTo 2)),
    ("render_errors", .int r.renderErrors),
    ("warmup_runs", .int r.warmupRuns),
    ("profile", Json.ofOption ProfileStats.toJson r.profile)] ++
    if withSamples then [("samples", .list (r.samples.map .int))] else [])

end SessionResult

end RenderBench
