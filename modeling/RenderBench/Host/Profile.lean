import RenderBench.Host.Basic
import RenderBench.Json.Basic

/-!
# `Host.Profile` — what a session costs the machine

A session is profiled as a whole: the time it takes, the processor's share, the greatest amount of memory
seen, and on request the greatest amount of traced allocations. The machine is left as it was found,
however the session ends.

## Contents
- `ProfileOptions`, `ProfileStats`: what is asked for, and the figures.
- `samplePeak`, `peakOf`: the greatest memory reading.
- `openBlock`, `closeBlock`: what comes before and after the body of a block.
- `profileAround`, `profileBlock`: a body between the two.
-/

namespace RenderBench

structure ProfileOptions where
  sampleMemory : Bool := false
  traceAllocations : Bool := false
  deriving DecidableEq

structure ProfileStats where
  label : String
  startTime : Binary64 := .zero false
  endTime : Binary64 := .zero false
  duration : Binary64 := .zero false
  peakMemory : Option Int := none
  peakTraced : Option Int := none
  processor : Option Binary64 := none
  deriving DecidableEq

def ProfileStats.toJson (p : ProfileStats) : Json :=
  .object [("label", .text p.label), ("start_ts", .real p.startTime), ("end_ts", .real p.endTime),
    ("duration_seconds", .real p.duration),
    ("peak_rss_bytes", Json.ofOption .int p.peakMemory),
    ("peak_traced_bytes", Json.ofOption .int p.peakTraced),
    ("cpu_percent", Json.ofOption .real p.processor)]

/-- What the sampling thread makes of the greatest reading so far. It ends at its first failure. -/
def samplePeak : Int → List MemorySample → Int
  | peak, .bytes n :: rest => samplePeak (max peak n) rest
  | peak, _ => peak

/-- The greatest of the readings before and after and of the sampled ones. -/
def peakOf (before : Int) (sampled : List MemorySample) (after : Int) : Int :=
  max (samplePeak before sampled) after

/-- A positive peak; any other is none. -/
def positivePeak (peak : Int) : Option Int := if 0 < peak then some peak else none

/-- What is kept from the beginning of a block for its end. -/
structure BlockStart where
  memory : Int
  startsTracing : Bool
  time : Binary64

/-- What comes before the body of a block. Tracing is started only where it is off. -/
def openBlock (label : String) (o : ProfileOptions) : OnHost BlockStart := do
  let memory ← OnHost.readMemory
  let startsTracing := o.traceAllocations && !(← OnHost.isTracing)
  if startsTracing then OnHost.startTracing
  discard OnHost.readProcessor
  if o.sampleMemory then OnHost.startSampler label
  return { memory, startsTracing, time := ← OnHost.readSeconds }

/-- What comes after the body of a block, however it ends. Only tracing that was started for the block is
    stopped. -/
def closeBlock (label : String) (o : ProfileOptions) (start : BlockStart) : OnHost ProfileStats := do
  let endTime ← OnHost.readSeconds
  let sampled ← if o.sampleMemory then OnHost.joinSampler else pure []
  let after ← OnHost.readMemory
  let processor ← OnHost.readProcessor
  let traced := o.traceAllocations && (← OnHost.isTracing)
  let peakTraced ← if traced then some <$> OnHost.readTraced else pure none
  if traced && start.startsTracing then OnHost.stopTracing
  return {
    label, startTime := start.time, endTime
    duration := endTime.sub start.time
    peakMemory := positivePeak (peakOf start.memory sampled after)
    peakTraced
    processor := some processor }

/-- A body under a label, with the figures at its end. The body sees the figures known at its start and may
    use the machine; its outcome, whether a result or a failure, is handed through. -/
def profileAround {β : Type} (label : String) (o : ProfileOptions) (body : ProfileStats → OnHost β) :
    OnHost (β × ProfileStats) := do
  let start ← openBlock label o
  let outcome ← body { label, startTime := start.time }
  return (outcome, ← closeBlock label o start)

/-- A session that asks nothing of the machine itself. -/
def profileBlock {β : Type} (label : String) (o : ProfileOptions) (session : ProfileStats → β) :
    OnHost (β × ProfileStats) :=
  profileAround label o fun stats => pure (session stats)

end RenderBench
