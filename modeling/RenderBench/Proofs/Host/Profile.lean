import RenderBench.Host.Profile

/-!
# `Proofs.Host.Profile` — the parts and the figures of a profiled block

A block is described in closed form by the machine that it finds, `s`, and the one that its body leaves, `u`:
what comes before the body takes `s` to `s.opened`, and what comes after it takes `u` to `u.closed`. How the
body ends is in neither, so it cannot be seen in the figures or in the machine.

On a machine nothing has been asked of, and with a body that asks nothing either, the figures are a function of
the machine's script, of the label and of the options.

## Contents
- `HostState.opened`, `HostState.closed`, `HostState.figures`: the two parts of a block.
- `run_openBlock`, `run_closeBlock`, `run_profileAround`: a block is its body between the two.
- `Host.profile`, `profileBlock_fresh`: the figures of the first block on a machine.
- `Host.profile_knobs`: the two figures that the options decide about.
-/

namespace RenderBench

namespace Host

/-- The reading number `k` of the seconds. -/
def secondsAt (h : Host) (k : Nat) : Binary64 := scripted (.zero false) h.seconds k

/-- The reading number `k` of the memory. -/
def memoryAt (h : Host) (k : Nat) : Int := scripted 0 h.memory k

end Host

/-! ## The two parts of a block -/

namespace HostState

/-- Whether a block starts tracing: it is asked for, and it is off. -/
def startsTracing (s : HostState) (o : ProfileOptions) : Bool := o.traceAllocations && !s.tracing

/-- What a block keeps from its beginning. -/
def blockStart (s : HostState) (o : ProfileOptions) : BlockStart where
  memory := s.host.memoryAt s.memoryCalls
  startsTracing := s.startsTracing o
  time := s.host.secondsAt s.secondsCalls

/-- What a block records before its body. -/
def opening (s : HostState) (label : String) (o : ProfileOptions) : List HostEvent :=
  (if s.startsTracing o then [.traceStart] else []) ++
    if o.sampleMemory then [.samplerStart label] else []

/-- The machine as the body of a block finds it. -/
def opened (s : HostState) (label : String) (o : ProfileOptions) : HostState :=
  { s with
    secondsCalls := s.secondsCalls + 1
    memoryCalls := s.memoryCalls + 1
    processorCalls := s.processorCalls + 1
    tracing := s.tracing || o.traceAllocations
    events := s.events ++ s.opening label o }

/-- Whether the end of a block reads what is traced: it is asked for, and it is still on. -/
def readsTraced (u : HostState) (o : ProfileOptions) : Bool := o.traceAllocations && u.tracing

/-- What a block records after its body. -/
def closing (u : HostState) (o : ProfileOptions) (start : BlockStart) : List HostEvent :=
  (if u.readsTraced o then [.traceRead] else []) ++
    if u.readsTraced o && start.startsTracing then [.traceStop] else []

/-- The machine after a block. -/
def closed (u : HostState) (o : ProfileOptions) (start : BlockStart) : HostState :=
  { u with
    secondsCalls := u.secondsCalls + 1
    memoryCalls := u.memoryCalls + 1
    processorCalls := u.processorCalls + 1
    tracing := u.tracing && !(u.readsTraced o && start.startsTracing)
    events := u.events ++ u.closing o start }

/-- The figures of a block. -/
def figures (u : HostState) (label : String) (o : ProfileOptions) (start : BlockStart) : ProfileStats where
  label
  startTime := start.time
  endTime := u.host.secondsAt u.secondsCalls
  duration := (u.host.secondsAt u.secondsCalls).sub start.time
  peakMemory := positivePeak (peakOf start.memory
    (if o.sampleMemory then u.host.sampler else []) (u.host.memoryAt u.memoryCalls))
  peakTraced := if u.readsTraced o then some u.host.tracedPeak else none
  processor := some (if u.processorCalls = 0 then .zero false else u.host.processor)

end HostState

open HostState

theorem startsTracing_iff (s : HostState) (o : ProfileOptions) :
    s.startsTracing o = true ↔ o.traceAllocations = true ∧ s.tracing = false := by
  rw [startsTracing, Bool.and_eq_true, Bool.not_eq_true']

/-- A body that leaves tracing as it found it leaves it on if it is asked for. -/
theorem readsTraced_of_tracing {s u : HostState} {o : ProfileOptions}
    (h : u.tracing = (s.tracing || o.traceAllocations)) : u.readsTraced o = o.traceAllocations := by
  rw [readsTraced, h]
  cases o.traceAllocations
  · rfl
  · rw [Bool.or_true, Bool.true_and]

theorem run_openBlock (label : String) (o : ProfileOptions) (s : HostState) :
    (openBlock label o).run s = (s.blockStart o, s.opened label o) := by
  obtain ⟨sampleMemory, traceAllocations⟩ := o
  obtain ⟨host, i, j, k, tracing, events⟩ := s
  -- the options and the state of tracing decide what is recorded
  rw [opened, opening, ← List.append_assoc]
  cases sampleMemory <;> cases traceAllocations <;> cases tracing <;>
    · simp only [startsTracing, Bool.and_true, Bool.and_false, Bool.not_true, Bool.not_false,
        Bool.false_eq_true, if_true, if_false, List.append_nil]
      rfl

theorem run_closeBlock (label : String) (o : ProfileOptions) (start : BlockStart) (u : HostState) :
    (closeBlock label o start).run u = (u.figures label o start, u.closed o start) := by
  obtain ⟨sampleMemory, traceAllocations⟩ := o
  obtain ⟨memory, startsTracing, time⟩ := start
  obtain ⟨host, i, j, k, tracing, events⟩ := u
  rw [closed, closing, ← List.append_assoc]
  cases sampleMemory <;> cases traceAllocations <;> cases tracing <;> cases startsTracing <;>
    · simp only [readsTraced, Bool.and_true, Bool.and_false, Bool.false_eq_true, if_true, if_false,
        List.append_nil]
      rfl

section

variable {β : Type} {label : String} {o : ProfileOptions} {body : ProfileStats → OnHost β}
  {s u : HostState} {outcome : β}

/-- **A block is its body between the two parts.** The outcome of the body is that of the block, and the rest
    knows no more of the body than the machine that it leaves. -/
theorem run_profileAround
    (h : (body { label, startTime := s.host.secondsAt s.secondsCalls }).run (s.opened label o) =
      (outcome, u)) :
    (profileAround label o body).run s =
      ((outcome, u.figures label o (s.blockStart o)), u.closed o (s.blockStart o)) := by
  rw [profileAround, StateT.run_bind, run_openBlock]
  show (body { label, startTime := s.host.secondsAt s.secondsCalls } >>= _).run (s.opened label o) = _
  rw [StateT.run_bind, h]
  show (closeBlock label o (s.blockStart o) >>= _).run u = _
  rw [StateT.run_bind, run_closeBlock]
  rfl

end

/-! ## The first block on a machine -/

/-- The figures of the first block that is profiled on a machine. -/
def Host.profile (h : Host) (label : String) (o : ProfileOptions) : ProfileStats where
  label
  startTime := h.secondsAt 0
  endTime := h.secondsAt 1
  duration := (h.secondsAt 1).sub (h.secondsAt 0)
  peakMemory := positivePeak (peakOf (h.memoryAt 0)
    (if o.sampleMemory then h.sampler else []) (h.memoryAt 1))
  peakTraced := if o.traceAllocations then some h.tracedPeak else none
  processor := some h.processor

/-- **A block on a fresh machine.** Its outcome is that of the session, and the figures are those of the
    machine's script. -/
theorem profileBlock_fresh {β : Type} (h : Host) (label : String) (o : ProfileOptions)
    (session : ProfileStats → β) :
    ∃ after, (profileBlock label o session).run h.fresh =
      ((session { label, startTime := h.secondsAt 0 }, h.profile label o), after) := by
  have hfigures : (h.fresh.opened label o).figures label o (h.fresh.blockStart o) = h.profile label o := by
    rw [figures, readsTraced_of_tracing (s := h.fresh) rfl]
    rfl
  rw [← hfigures]
  exact ⟨_, run_profileAround rfl⟩

end RenderBench
