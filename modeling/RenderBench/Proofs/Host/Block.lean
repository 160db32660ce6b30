import RenderBench.Proofs.Host.Profile

/-!
# `Proofs.Host.Block` — a profiled block, whatever its body does

The body of a block may use the machine and may fail. If it leaves tracing alone, it finds it on if it is asked
for, and the block leaves it as it was; what is read and what is reported does not depend on how the body ends.
Blocks that are not traced are such bodies themselves, so blocks may be nested.

## Contents
- `HostState.Spares`, `SparesTracing`: work that leaves tracing alone; its rules.
- `sparesTracing_profileAround`: a block that is not traced is such work itself.
- `BlockRun`, `blockRun_of_spares`: what a block does to a machine, and what it reports.
- `profileAround_restores`: blocks whose bodies return and blocks whose bodies fail.
-/

namespace RenderBench

open HostState

/-! ## Work that leaves tracing alone -/

/-- Whether an event is about tracing. -/
def HostEvent.isTracing : HostEvent → Bool
  | .samplerStart _ => false
  | _ => true

/-- From `s` on, work was done that leads to `u` and leaves tracing alone. -/
structure HostState.Spares (s u : HostState) : Prop where
  host : u.host = s.host
  tracing : u.tracing = s.tracing
  processorCalls : s.processorCalls ≤ u.processorCalls
  events : ∃ own, u.events = s.events ++ own ∧ ∀ e ∈ own, e.isTracing = false

theorem HostState.Spares.refl (s : HostState) : s.Spares s where
  host := rfl
  tracing := rfl
  processorCalls := Nat.le_refl _
  events := ⟨[], (List.append_nil _).symm, fun _ he => absurd he List.not_mem_nil⟩

theorem HostState.Spares.trans {s t u : HostState} (h : s.Spares t) (h' : t.Spares u) : s.Spares u where
  host := h'.host.trans h.host
  tracing := h'.tracing.trans h.tracing
  processorCalls := Nat.le_trans h.processorCalls h'.processorCalls
  events := by
    obtain ⟨own, hown, hspared⟩ := h.events
    obtain ⟨own', hown', hspared'⟩ := h'.events
    refine ⟨own ++ own', ?_, ?_⟩
    · rw [hown', hown, List.append_assoc]
    · intro e he
      exact (List.mem_append.mp he).elim (hspared e) (hspared' e)

/-- Work that leaves tracing alone on every machine. -/
def SparesTracing {β : Type} (p : OnHost β) : Prop := ∀ s : HostState, s.Spares (p.run s).2

section

variable {α β : Type}

theorem sparesTracing_pure (b : β) : SparesTracing (pure b) := fun s => .refl s

theorem SparesTracing.bind {p : OnHost α} {f : α → OnHost β} (hp : SparesTracing p)
    (hf : ∀ a, SparesTracing (f a)) : SparesTracing (p >>= f) := by
  intro s
  rw [StateT.run_bind]
  exact (hp s).trans (hf _ _)

/-- **A block that is not traced leaves tracing alone**, if its body does. So blocks may be nested. -/
theorem sparesTracing_profileAround {label : String} {o : ProfileOptions} {body : ProfileStats → OnHost β}
    (ho : o.traceAllocations = false) (hbody : ∀ stats, SparesTracing (body stats)) :
    SparesTracing (profileAround label o body) := by
  intro s
  rw [run_profileAround (u := (StateT.run (body _) (s.opened label o)).2) rfl]
  -- before the body, nothing but the start of the sampling thread is recorded
  have hopened : s.Spares (s.opened label o) := by
    refine ⟨rfl, ?_, Nat.le_succ _, s.opening label o, rfl, ?_⟩
    · rw [opened, ho, Bool.or_false]
    · intro e he
      rw [opening, startsTracing, ho, Bool.false_and, if_neg Bool.false_ne_true, List.nil_append] at he
      split at he
      · rw [List.mem_singleton.mp he]
        rfl
      · cases he
  -- and after it nothing at all
  have hclosed (u : HostState) : u.Spares (u.closed o (s.blockStart o)) := by
    refine ⟨rfl, ?_, Nat.le_succ _, [], ?_, fun _ he => absurd he List.not_mem_nil⟩
    · rw [closed, readsTraced, ho, Bool.false_and, Bool.false_and, Bool.not_false, Bool.and_true]
    · rw [closed, closing, readsTraced, ho, Bool.false_and, Bool.false_and]
      rfl
  exact (hopened.trans (hbody _ _)).trans (hclosed _)

end

/-! ## What a block does to a machine -/

/-- A block takes the machine from `s` to `v`, and its body takes it from `t` to `u`. -/
structure BlockRun (label : String) (o : ProfileOptions) (s t u v : HostState) (stats : ProfileStats) :
    Prop where
  /-- For the body, tracing is on if it was on or is asked for. -/
  traced : t.tracing = true ↔ s.tracing = true ∨ o.traceAllocations = true
  /-- Afterwards it is as it was. -/
  restored : v.tracing = s.tracing
  /-- Before the body, tracing is started if it is asked for and off, and then the sampling thread. -/
  before : t.events = s.events ++
    (if o.traceAllocations = true ∧ s.tracing = false then [.traceStart] else []) ++
    (if o.sampleMemory = true then [.samplerStart label] else [])
  /-- The body records nothing about tracing. -/
  between : ∃ own, u.events = t.events ++ own ∧ ∀ e ∈ own, e.isTracing = false
  /-- After the body, what is traced is read if that is asked for, and then tracing is stopped if it was
      started. -/
  after : v.events = u.events ++ (if o.traceAllocations = true then [.traceRead] else []) ++
    (if o.traceAllocations = true ∧ s.tracing = false then [.traceStop] else [])
  /-- The clock is read once before the body and once after it, and so is the processor. -/
  secondsCalls : t.secondsCalls = s.secondsCalls + 1 ∧ v.secondsCalls = u.secondsCalls + 1
  processorCalls : t.processorCalls = s.processorCalls + 1 ∧ v.processorCalls = u.processorCalls + 1
  label_eq : stats.label = label
  startTime : stats.startTime = s.host.secondsAt s.secondsCalls
  endTime : stats.endTime = s.host.secondsAt u.secondsCalls
  duration : stats.duration = stats.endTime.sub stats.startTime
  /-- The reading after the body, which is never the first one. -/
  processor : stats.processor = some s.host.processor
  peakTraced : stats.peakTraced = if o.traceAllocations = true then some s.host.tracedPeak else none

/-- A body that leaves tracing alone makes the run of a block. -/
theorem blockRun_of_spares {label : String} {o : ProfileOptions} {s u : HostState}
    (h : (s.opened label o).Spares u) :
    BlockRun label o s (s.opened label o) u (u.closed o (s.blockStart o))
      (u.figures label o (s.blockStart o)) := by
  have htracing : u.tracing = (s.tracing || o.traceAllocations) := h.tracing
  have hhost : u.host = s.host := h.host
  have hreads : u.readsTraced o = o.traceAllocations := readsTraced_of_tracing htracing
  have hstops : (u.readsTraced o && (s.blockStart o).startsTracing) = s.startsTracing o := by
    rw [hreads]
    show (o.traceAllocations && (o.traceAllocations && !s.tracing)) = _
    rw [← Bool.and_assoc, Bool.and_self]
    rfl
  constructor
  case traced =>
    show (s.tracing || o.traceAllocations) = true ↔ _
    exact Bool.or_eq_true_iff
  case restored =>
    show (u.tracing && !(u.readsTraced o && (s.blockStart o).startsTracing)) = _
    rw [hstops, htracing, startsTracing]
    cases s.tracing <;> cases o.traceAllocations <;> rfl
  case before =>
    show s.events ++ s.opening label o = _
    simp only [opening, startsTracing_iff, List.append_assoc]
  case between => exact h.events
  case after =>
    show u.events ++ u.closing o (s.blockStart o) = _
    rw [closing, hstops, hreads]
    simp only [startsTracing_iff, List.append_assoc]
  case secondsCalls => exact ⟨rfl, rfl⟩
  case processorCalls => exact ⟨rfl, rfl⟩
  case label_eq => rfl
  case startTime => rfl
  case endTime => exact congrArg (fun host => Host.secondsAt host u.secondsCalls) hhost
  case duration => rfl
  case processor =>
    -- the machine was asked before the body
    have hcalls : u.processorCalls ≠ 0 :=
      Nat.ne_of_gt (Nat.lt_of_lt_of_le (Nat.succ_pos s.processorCalls) h.processorCalls)
    show some (if u.processorCalls = 0 then Binary64.zero false else u.host.processor) = _
    rw [if_neg hcalls, hhost]
  case peakTraced =>
    show (if u.readsTraced o then some u.host.tracedPeak else none) = _
    rw [hreads, hhost]

/-- **A block leaves tracing as it found it, and reports the same however its body ends.** The body leaves tracing
    alone. It is run once, on the machine that the beginning of the block leaves, and its outcome, whether a
    result or a failure, comes out as it is. Another body that does the same to the machine gives the same
    figures and leaves the same machine, whichever way the two end. -/
theorem profileAround_restores {ε α : Type} (label : String) (o : ProfileOptions)
    (body : ProfileStats → ExceptT ε OnHost α) (hbody : ∀ stats, SparesTracing (body stats).run)
    (s : HostState) :
    ∃ outcome stats t u v,
      (profileAround label o fun stats => (body stats).run).run s = ((outcome, stats), v) ∧
      (body { label, startTime := stats.startTime }).run.run t = (outcome, u) ∧
      BlockRun label o s t u v stats ∧
      ∀ {ε' α' : Type} (body' : ProfileStats → ExceptT ε' OnHost α'),
        (∀ stats t, ((body' stats).run.run t).2 = ((body stats).run.run t).2) →
        ∃ outcome', (profileAround label o fun stats => (body' stats).run).run s =
          ((outcome', stats), v) := by
  rcases hrun : StateT.run (body { label, startTime := s.host.secondsAt s.secondsCalls }).run
    (s.opened label o) with ⟨outcome, u⟩
  have hspares : (s.opened label o).Spares u := by
    have h := hbody { label, startTime := s.host.secondsAt s.secondsCalls } (s.opened label o)
    rwa [hrun] at h
  refine ⟨outcome, u.figures label o (s.blockStart o), s.opened label o, u, u.closed o (s.blockStart o),
    run_profileAround hrun, hrun, blockRun_of_spares hspares, ?_⟩
  -- another body that leaves the same machine is closed in the same way
  intro ε' α' body' hsame
  have hleft := hsame { label, startTime := s.host.secondsAt s.secondsCalls } (s.opened label o)
  rw [hrun] at hleft
  exact ⟨_, run_profileAround (Prod.ext rfl hleft)⟩

/-- A body that profiles a block of its own, without tracing, and ends in some way. -/
def nestedBody (ending : Except String Nat) (_ : ProfileStats) : ExceptT String OnHost Nat :=
  ExceptT.mk (profileBlock "inner" { sampleMemory := true } (fun _ => ()) >>= fun _ => pure ending)

theorem sparesTracing_nestedBody (ending : Except String Nat) (stats : ProfileStats) :
    SparesTracing (nestedBody ending stats).run :=
  (sparesTracing_profileAround rfl fun _ => sparesTracing_pure ()).bind fun _ => sparesTracing_pure ending

/-- A block within a block that is traced: the outer one hands the failure through, and without a failure it has
    the same figures and leaves the same machine. -/
theorem profileAround_restores_nested :
    (∀ stats, SparesTracing (nestedBody (.error "boom") stats).run) ∧
    ∃ stats v,
      (profileAround "outer" ⟨true, true⟩ fun stats => (nestedBody (.error "boom") stats).run).run
        (Host.fresh {}) = ((.error "boom", stats), v) ∧
      (profileAround "outer" ⟨true, true⟩ fun stats => (nestedBody (.ok 1) stats).run).run
        (Host.fresh {}) = ((.ok 1, stats), v) ∧
      v.tracing = false ∧
      v.events = [.traceStart, .samplerStart "outer", .samplerStart "inner", .traceRead, .traceStop] ∧
      stats.peakTraced = some 4096 := by
  refine ⟨sparesTracing_nestedBody _, ?_⟩
  obtain ⟨outcome, stats, t, u, v, hrun, hbody, hblock, hsame⟩ :=
    profileAround_restores "outer" ⟨true, true⟩ (nestedBody (.error "boom")) (sparesTracing_nestedBody _)
      (Host.fresh {})
  obtain ⟨outcome', hother⟩ := hsame (nestedBody (.ok 1)) fun _ _ => rfl
  have houtcome : .error "boom" = outcome := congrArg (fun r => r.1) hbody
  have houtcome' : .ok 1 = outcome' := congrArg (fun r => r.1.1) hother
  have hinner : t.events ++ [.samplerStart "inner"] = u.events := congrArg (fun r => r.2.events) hbody
  refine ⟨stats, v, houtcome ▸ hrun, houtcome' ▸ hother, hblock.restored, ?_, hblock.peakTraced⟩
  rw [hblock.after, ← hinner, hblock.before]
  rfl

end RenderBench
