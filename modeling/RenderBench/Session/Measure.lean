import RenderBench.Clock
import RenderBench.Item.Generate
import RenderBench.Log.Root
import RenderBench.Session.Notice
import RenderBench.Statistics.Basic
import RenderBench.Template.Basic

/-!
# `Session.Measure` — timing renders

A sub-template is rendered again and again into an empty sink, between two readings of the clock. A
failed render is timed like any other; failures are counted and the first one is logged. All renders are
given the same items, and what one takes of them the next one misses.

## Contents
- `SessionError`: why a session ends without a result.
- `SessionState`, `Session`: the clock, the items and the log while a session runs.
- `Session.log`, `Session.readClock`, `Session.attempt`: what a session does.
- `renderOnce`, `warmUp`: renders, and renders that nothing is kept of.
- `measureRenders`: the samples and the number of failed renders.
-/

namespace RenderBench

open Log (Record)

inductive SessionError where
  | runCount (n : Int)
  | warmupRuns (n : Int)
  | load (e : LoadError)
  | engine (f : Template.CodeFault)
  | generate (e : GenerateError)
  | render (e : RenderError)
  | clock
  | aggregate (e : AggregateError)
  | attribute (o : Log.Overwrite)
  deriving DecidableEq

def SessionError.message : SessionError → String
  | .runCount n => runCountMessage n
  | .warmupRuns n => "warmup runs must be non-negative, got " ++ intText n
  | .load e => e.message
  | .engine f => f.message
  | .generate e => e.message
  | .render e => e.message
  | .clock => clockExhausted
  | .aggregate e => e.message
  | .attribute o => o.message

/-- The clock, how logging is configured, the records it has let through so far, and the items that the renders
    share. -/
structure SessionState where
  clock : ClockState
  root : Log.Root := .verbose
  logs : List Record := []
  items : Template.Value := .list []

abbrev Session := ExceptT SessionError (StateM SessionState)

namespace Session

/-- Keeps a record, unless it sets an attribute that every record has. -/
def keep (r : Record) : Session Unit :=
  match Log.firstOverwrite r.extra with
  | some o => throw (.attribute o)
  | none => modify fun s => { s with logs := s.logs ++ [r] }

/-- Logs a record. Its attributes are looked at only when its level is let through. -/
def log (r : Record) : Session Unit := do
  if (← get).root.accepts r.level then keep r

/-- A reading, or the clock's failure. -/
def ofReading : Option Int → Session Int
  | some r => pure r
  | none => throw .clock

def readClock : Session Int := do
  let s ← get
  let (reading, clock) := s.clock.read
  set { s with clock }
  ofReading reading

/-- A render's failure as a value; every other failure ends the session. -/
def attempt (render : Session Unit) : Session (Option RenderError) :=
  tryCatch (do render; return none) fun
    | .render e => return some e
    | e => throw e

end Session

/-- A render into an empty sink that is thrown away. The items are those that it leaves. -/
def renderOnce (t : Template) (subTemplate : String) : Session Unit := do
  let s ← get
  set { s with items := t.left subTemplate s.items }
  match (t.renderInto {} subTemplate s.items).2 with
  | .ok _ => pure ()
  | .error e => throw (.render e)

/-- So many renders that are not timed; their failures are not told. -/
def warmUp (render : Session Unit) : Nat → Session Unit
  | 0 => pure ()
  | n + 1 => do
    discard (Session.attempt render)
    warmUp render n

/-- The samples of a session and how many of its renders failed. -/
structure Measurement where
  samples : List Int
  renderErrors : Nat
  deriving DecidableEq

/-- One timed render: the elapsed whole microseconds, and its failure. -/
def timeRender (render : Session Unit) : Session (Int × Option RenderError) := do
  let start ← Session.readClock
  let failure ← Session.attempt render
  let stop ← Session.readClock
  return ((stop - start).fdiv 1000, failure)

/-- So many timed renders from an iteration on; the samples so far are the latest first. -/
def timeRenders (render : Session Unit) (subTemplate : String) :
    Nat → Nat → Measurement → Session Measurement
  | 0, _, m => return { m with samples := m.samples.reverse }
  | n + 1, iteration, m => do
    let (sample, failure) ← timeRender render
    match failure with
    | none =>
      timeRenders render subTemplate n (iteration + 1) { m with samples := sample :: m.samples }
    | some e =>
      if m.renderErrors = 0 then Session.log (failedRender subTemplate iteration e)
      timeRenders render subTemplate n (iteration + 1)
        ⟨sample :: m.samples, m.renderErrors + 1⟩

/-- Timed renders of a sub-template for some items. -/
def measureRenders (t : Template) (items : Template.Value) (subTemplate : String) (runCount : Int) :
    Session Measurement := do
  if runCount < 1 then throw (.runCount runCount)
  modify fun s => { s with items }
  timeRenders (renderOnce t subTemplate) subTemplate runCount.toNat 0 ⟨[], 0⟩

end RenderBench
