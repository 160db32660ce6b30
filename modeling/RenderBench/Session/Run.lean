import RenderBench.Host.Profile
import RenderBench.RunConfig
import RenderBench.Session.Measure
import RenderBench.Session.Result

/-!
# `Session.Run` — one session from its parameters

The parameters are checked first, then the template is loaded and the items are made; only then the clock
is read. What logging lets through is kept in order and written by whoever runs the session.

## Contents
- `prepare`: everything before the first reading of the clock.
- `runSession`: a session on a machine, and `SessionRun`, what it leaves.
-/

namespace RenderBench

open Log (Record)

/-- The items as they are given to a template. -/
def itemsValue (items : List Item) : Template.Value := .list (items.map .item)

/-- The template of a session, after its parameters have been checked, the items have been made and the renders that
    are not timed are done. A failure of the engine's is not told. -/
def prepare (files : FileStore) (c : RunConfig) : Session Template := do
  if c.runCount < 1 then throw (.runCount c.runCount)
  if c.warmupRuns < 0 then throw (.warmupRuns c.warmupRuns)
  Session.log (sessionStart c)
  match Template.load files c.templatePath with
  | .error (.refused e) =>
    Session.log (sessionAborted c e)
    throw (.load e)
  | .error (.escaped f) => throw (.engine f)
  | .ok template =>
    match generateRange c.itemCount c.shape with
    | .error e => throw (.generate e)
    | .ok items =>
      modify fun s => { s with items := itemsValue items }
      warmUp (renderOnce template c.subTemplate) c.warmupRuns.toNat
      return template

/-- What a session leaves: its result, the records that were let through, how often the clock was read, and
    the machine. -/
structure SessionRun where
  result : Except SessionError SessionResult
  logs : List Record
  clockCalls : Nat
  host : HostState

/-- The result of a measurement with the figures of the machine. -/
def conclude (c : RunConfig) (m : Measurement) (stats : ProfileStats) : Session SessionResult := do
  let summary ← match aggregate m.samples c.runCount with
    | .ok s => pure s
    | .error e => throw (.aggregate e)
  if m.renderErrors ≠ 0 then Session.log (renderErrors c m.renderErrors)
  let result : SessionResult :=
    { label := c.label
      itemCount := c.itemCount
      runCount := c.runCount
      samples := m.samples
      min := summary.min
      max := summary.max
      average := summary.average
      renderErrors := m.renderErrors
      warmupRuns := c.warmupRuns
      profile := some stats }
  Session.log (sessionComplete result stats.duration)
  return result

/-- A session with the given parameters, while logging is configured in some way. -/
def runSession (files : FileStore) (clock : Clock) (host : Host) (c : RunConfig)
    (root : Log.Root := .verbose) : SessionRun :=
  let start : SessionState := { clock := { clock }, root }
  match (prepare files c).run start with
  | (.error e, s) =>
    { result := .error e, logs := s.logs, clockCalls := s.clock.calls, host := host.fresh }
  | (.ok template, s) =>
    let measure (_ : ProfileStats) :=
      (measureRenders template s.items c.subTemplate c.runCount).run s
    let (((measured, s), stats), host) :=
      (profileBlock c.label
        { sampleMemory := c.sampleMemory, traceAllocations := c.traceAllocations } measure).run
        host.fresh
    let (result, s) : Except SessionError SessionResult × SessionState := match measured with
      | .error e => (.error e, s)
      | .ok m => (conclude c m stats).run s
    { result, logs := s.logs, clockCalls := s.clock.calls, host }

end RenderBench
