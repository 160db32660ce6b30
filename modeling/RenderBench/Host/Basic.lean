import RenderBench.Number.Binary64

/-!
# `Host.Basic` — the machine a session runs on

The machine answers questions about time, memory and processor from a script, and traces allocations.
What happens on it is recorded in order.

## Contents
- `Host`: the script.
- `HostEvent`: what is recorded.
- `HostState`: the script with how far it has been read.
- `readSeconds`, `readMemory`, …: the questions and commands.
-/

namespace RenderBench

/-- What the sampling thread sees at one reading; it ends at the first failure. -/
inductive MemorySample where
  | bytes (n : Int)
  | failure
  deriving DecidableEq

/-- The scripted readings of a machine. Those of time and memory repeat their last one. -/
structure Host where
  seconds : List Binary64 := [.ofInt 10, .ofRatio false 1025 100]
  memory : List Int := [1048576, 2097152]
  processor : Binary64 := .ofRatio false 25 2
  sampler : List MemorySample := []
  /-- Whether allocations are traced already. -/
  tracing : Bool := false
  tracedPeak : Int := 4096

inductive HostEvent where
  | traceStart
  | samplerStart (label : String)
  | traceRead
  | traceStop
  deriving DecidableEq

def HostEvent.text : HostEvent → String
  | .traceStart => "start"
  | .samplerStart label => "thread rss-sampler-" ++ label
  | .traceRead => "read"
  | .traceStop => "stop"

/-- A machine, with the number of readings of each kind made so far. -/
structure HostState where
  host : Host
  secondsCalls : Nat := 0
  memoryCalls : Nat := 0
  processorCalls : Nat := 0
  tracing : Bool
  events : List HostEvent := []

/-- A machine nothing has been asked of. -/
def Host.fresh (h : Host) : HostState := { host := h, tracing := h.tracing }

/-- The `k`-th reading of a script that repeats its last one. -/
def scripted {α : Type} (default : α) (readings : List α) (k : Nat) : α :=
  match readings[k]? with
  | some r => r
  | none => readings.getLast?.getD default

/-- What is done with a machine. -/
abbrev OnHost := StateM HostState

namespace OnHost

def readSeconds : OnHost Binary64 := do
  let s ← get
  set { s with secondsCalls := s.secondsCalls + 1 }
  return scripted (.zero false) s.host.seconds s.secondsCalls

def readMemory : OnHost Int := do
  let s ← get
  set { s with memoryCalls := s.memoryCalls + 1 }
  return scripted 0 s.host.memory s.memoryCalls

/-- The processor's share since the previous reading; the first reading has none and gives zero. -/
def readProcessor : OnHost Binary64 := do
  let s ← get
  set { s with processorCalls := s.processorCalls + 1 }
  return if s.processorCalls = 0 then .zero false else s.host.processor

def record (e : HostEvent) : OnHost Unit :=
  modify fun s => { s with events := s.events ++ [e] }

def isTracing : OnHost Bool := return (← get).tracing

def startTracing : OnHost Unit := do
  record .traceStart
  modify fun s => { s with tracing := true }

def stopTracing : OnHost Unit := do
  record .traceStop
  modify fun s => { s with tracing := false }

def readTraced : OnHost Int := do
  record .traceRead
  return (← get).host.tracedPeak

def startSampler (label : String) : OnHost Unit := record (.samplerStart label)

/-- The readings the sampling thread made until it was stopped. -/
def joinSampler : OnHost (List MemorySample) := return (← get).host.sampler

end OnHost

end RenderBench
