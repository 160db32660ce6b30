import Mathlib.Data.List.Range
import RenderBench.Proofs.Session.Steps

/-!
# `Proofs.Session.Loop` — the measuring loop in closed form

The loop reads the clock twice for every render and keeps the whole microseconds between. It is described
once, for any number of runs and any clock: where the clock gives the readings, the samples are the elapsed
times between them, in order; where it does not, the loop ends with the clock's failure.

## Contents
- `SessionState.Supplies`: the next readings of the clock.
- `elapsed`: the samples that readings make.
- `run_timeRender`: one iteration.
- `run_timeRenders`, `run_timeRenders_clock`: the whole loop, with and without enough readings.
- `run_measureRenders`: the measurement of a session.
-/

namespace RenderBench

namespace SessionState

/-- The next `n` readings of the clock are the first `n` of `r`. -/
def Supplies (s : SessionState) (r : Nat → Int) (n : Nat) : Prop :=
  ∀ k < n, s.clock.clock.reading? (s.clock.calls + k) = some (r k)

/-- After some readings the clock supplies the ones after them. -/
theorem Supplies.ticked {s : SessionState} {r : Nat → Int} {m n : Nat} (h : s.Supplies r (m + n)) :
    (s.ticked m).Supplies (fun k => r (m + k)) n := by
  intro k hk
  rw [ticked_clock, ticked_calls, Nat.add_assoc]
  exact h (m + k) (by omega)

theorem Supplies.of_clock_eq {s s' : SessionState} {r : Nat → Int} {n : Nat} (h : s.Supplies r n)
    (hc : s'.clock = s.clock) : s'.Supplies r n := by
  intro k hk
  rw [hc]
  exact h k hk

/-- A clock that does not fail at the next readings supplies them. -/
theorem supplies_of_reads {s : SessionState} {n : Nat}
    (h : ∀ k < n, s.clock.clock.reading? (s.clock.calls + k) ≠ none) :
    s.Supplies (fun k => (s.clock.clock.reading? (s.clock.calls + k)).getD 0) n := by
  intro k hk
  cases hread : s.clock.clock.reading? (s.clock.calls + k) with
  | none => exact absurd hread (h k hk)
  | some a =>
    show some a = some ((s.clock.clock.reading? (s.clock.calls + k)).getD 0)
    rw [hread, Option.getD_some]

end SessionState

/-- The elapsed whole microseconds between the readings of each of `n` renders. -/
def elapsed (r : Nat → Int) (n : Nat) : List Int :=
  (List.range n).map fun i => (r (2 * i + 1) - r (2 * i)).fdiv 1000

@[simp] theorem length_elapsed (r : Nat → Int) (n : Nat) : (elapsed r n).length = n := by
  simp [elapsed]

theorem elapsed_zero (r : Nat → Int) : elapsed r 0 = [] := rfl

theorem elapsed_succ (r : Nat → Int) (n : Nat) :
    elapsed r (n + 1) = (r 1 - r 0).fdiv 1000 :: elapsed (fun k => r (2 + k)) n := by
  unfold elapsed
  rw [List.range_succ_eq_map, List.map_cons, List.map_map]
  congr 1
  apply List.map_congr_left
  intro i _
  show (r (2 * (i + 1) + 1) - r (2 * (i + 1))).fdiv 1000 = _
  rw [show 2 * (i + 1) + 1 = 2 + (2 * i + 1) from by omega, show 2 * (i + 1) = 2 + 2 * i from by omega]

open Session (failure? RendersBy)

variable {render : Session Unit} {ends : ClockState → Template.Value → Except RenderError Unit}
  {leaves : Template.Value → Template.Value} {subTemplate : String} {s : SessionState}

/-! ## One iteration -/

/-- A timed render takes two readings and leaves nothing else behind but items. It ends as the clock stands between
    them. -/
theorem run_timeRender {r : Nat → Int} (hrender : RendersBy render ends leaves) (h : s.Supplies r 2) :
    ExceptT.run (timeRender render) s =
      (.ok ((r 1 - r 0).fdiv 1000, failure? (ends (s.ticked 1).clock s.items)),
        (s.ticked 2).leaving (leaves s.items)) := by
  have hstart := Session.run_readClock_some (s := s) (h 0 (by omega))
  have hstop := Session.run_readClock_some (s := (s.ticked 1).leaving (leaves s.items)) (h 1 (by omega))
  rw [timeRender, Stepwise.run_bind_ok _ hstart, Stepwise.run_bind_ok _ (Session.run_attempt hrender _)]
  exact Stepwise.run_bind_ok _ hstop

/-- A timed render ends with the clock's failure when one of its two readings is missing. -/
theorem run_timeRender_clock {k : Nat} (hrender : RendersBy render ends leaves) (hk : k < 2)
    (h : s.clock.clock.reading? (s.clock.calls + k) = none) :
    (ExceptT.run (timeRender render) s).1 = .error .clock := by
  cases hstart : s.clock.clock.reading? s.clock.calls with
  | none =>
    rw [timeRender, Stepwise.run_bind_error _ (Session.run_readClock_none hstart)]
  | some a =>
    have hstop : s.clock.clock.reading? (s.clock.calls + 1) = none := by
      rcases Nat.lt_succ_iff_lt_or_eq.mp hk with h0 | h1
      · rw [Nat.lt_one_iff.mp h0, Nat.add_zero, hstart] at h
        exact absurd h (by simp)
      · exact h1 ▸ h
    rw [timeRender, Stepwise.run_bind_ok _ (Session.run_readClock_some hstart),
      Stepwise.run_bind_ok _ (Session.run_attempt hrender _)]
    exact Session.fst_run_bind_error _ (congrArg Prod.fst (Session.run_readClock_none hstop))

/-! ## The loop -/

/-- A measurement with one more sample, the latest first. -/
def Measurement.add (m : Measurement) (sample : Int) : Option RenderError → Measurement
  | none => { m with samples := sample :: m.samples }
  | some _ => ⟨sample :: m.samples, m.renderErrors + 1⟩

theorem add_samples (m : Measurement) (sample : Int) (f : Option RenderError) :
    (m.add sample f).samples = sample :: m.samples := by
  cases f <;> rfl

/-- How timed renders end, one after the other: each of them between two readings of the clock, with the items that the
    one before it has left. -/
def timedFailures (ends : ClockState → Template.Value → Except RenderError Unit) (leaves : Template.Value → Template.Value) :
    Nat → ClockState → Template.Value → List (Option RenderError)
  | 0, _, _ => []
  | n + 1, clock, items => failure? (ends { clock with calls := clock.calls + 1 } items) ::
      timedFailures ends leaves n { clock with calls := clock.calls + 2 } (leaves items)

/-- How many of them failed. -/
def failed (fs : List (Option RenderError)) : Nat := fs.countP Option.isSome

/-- What the loop logs from an iteration on, when some renders have failed before: the first failure of all. -/
def notices (subTemplate : String) : Nat → Nat → List (Option RenderError) → List Log.Record
  | _, _, [] => []
  | i, k, none :: fs => notices subTemplate (i + 1) k fs
  | i, k, some e :: fs =>
    (if k = 0 then [failedRender subTemplate i e] else []) ++ notices subTemplate (i + 1) (k + 1) fs

/-- What one iteration logs. -/
def notice (subTemplate : String) (i k : Nat) : Option RenderError → List Log.Record
  | none => []
  | some e => if k = 0 then [failedRender subTemplate i e] else []

theorem notices_cons (i : Nat) (m : Measurement) (sample : Int) (f : Option RenderError)
    (fs : List (Option RenderError)) :
    notices subTemplate i m.renderErrors (f :: fs) =
      notice subTemplate i m.renderErrors f ++ notices subTemplate (i + 1) (m.add sample f).renderErrors fs := by
  cases f <;> rfl

theorem failed_cons (m : Measurement) (sample : Int) (f : Option RenderError) (fs : List (Option RenderError)) :
    m.renderErrors + failed (f :: fs) = (m.add sample f).renderErrors + failed fs := by
  cases f with
  | none => rfl
  | some e =>
    show m.renderErrors + (some e :: fs).countP Option.isSome = m.renderErrors + 1 + fs.countP Option.isSome
    rw [List.countP_cons_of_pos rfl]
    omega

/-- **One step of the loop.** An iteration that gets its two readings adds a sample and gives the notice;
    the loop goes on from there. -/
theorem run_timeRenders_succ {r : Nat → Int} (hrender : RendersBy render ends leaves) (h : s.Supplies r 2) (n i : Nat)
    (m : Measurement) :
    ExceptT.run (timeRenders render subTemplate (n + 1) i m) s =
      ExceptT.run
        (timeRenders render subTemplate n (i + 1)
          (m.add ((r 1 - r 0).fdiv 1000) (failure? (ends (s.ticked 1).clock s.items))))
        (((s.ticked 2).leaving (leaves s.items)).loggedAll
          (notice subTemplate i m.renderErrors (failure? (ends (s.ticked 1).clock s.items)))) := by
  rw [timeRenders, Stepwise.run_bind_ok _ (run_timeRender hrender h)]
  -- only a failed render may give a notice, and only the first one does
  cases failure? (ends (s.ticked 1).clock s.items) with
  | none => rfl
  | some e =>
    show ExceptT.run (do
      if m.renderErrors = 0 then Session.log (failedRender subTemplate i e)
      timeRenders render subTemplate n (i + 1)
        ⟨(r 1 - r 0).fdiv 1000 :: m.samples, m.renderErrors + 1⟩ : Session Measurement) _ = _
    by_cases h0 : m.renderErrors = 0
    · rw [if_pos h0, Stepwise.run_bind_ok _ (Session.run_log (firstOverwrite_failedRender subTemplate i e) _), notice,
        if_pos h0]
      rfl
    · rw [if_neg h0, notice, if_neg h0]
      rfl

/-- **The loop with enough readings.** Every iteration adds its elapsed time, a render that fails is counted, and the
    first one that fails is told. -/
theorem run_timeRenders (hrender : RendersBy render ends leaves) (n : Nat) :
    ∀ (i : Nat) (m : Measurement) (s : SessionState) (r : Nat → Int), s.Supplies r (2 * n) →
    ExceptT.run (timeRenders render subTemplate n i m) s =
      (.ok ⟨m.samples.reverse ++ elapsed r n, m.renderErrors + failed (timedFailures ends leaves n s.clock s.items)⟩,
        ((s.loggedAll (notices subTemplate i m.renderErrors (timedFailures ends leaves n s.clock s.items))).ticked
          (2 * n)).leaving (leaves^[n] s.items)) := by
  -- on the number of runs: what is left of the readings are those after the first two
  induction n with
  | zero =>
    intro i m s r _
    show (_, s) = _
    rw [elapsed_zero, List.append_nil]
    rfl
  | succ n ih =>
    intro i m s r h
    have htwo : s.Supplies r 2 := fun k hk => h k (by omega)
    have hrest : (s.ticked 2).Supplies (fun k => r (2 + k)) (2 * n) :=
      SessionState.Supplies.ticked (by rwa [show 2 + 2 * n = 2 * (n + 1) from by omega])
    have hfailures : timedFailures ends leaves (n + 1) s.clock s.items =
      failure? (ends (s.ticked 1).clock s.items) :: timedFailures ends leaves n (s.ticked 2).clock (leaves s.items) := rfl
    rw [run_timeRenders_succ hrender htwo, ih _ _ _ (fun k => r (2 + k)) (hrest.of_clock_eq (by simp)),
      SessionState.loggedAll_clock, SessionState.loggedAll_items, SessionState.leaving_clock,
      SessionState.leaving_items, hfailures, failed_cons m ((r 1 - r 0).fdiv 1000),
      notices_cons i m ((r 1 - r 0).fdiv 1000), ← SessionState.loggedAll_append, SessionState.loggedAll_leaving,
      SessionState.loggedAll_ticked, SessionState.ticked_leaving, SessionState.leaving_leaving,
      SessionState.ticked_ticked, add_samples, List.reverse_cons, List.append_assoc, List.singleton_append,
      ← elapsed_succ, Function.iterate_succ_apply, show 2 + 2 * n = 2 * (n + 1) from by omega]

/-- The loop ends with the clock's failure when one of its readings is missing. -/
theorem run_timeRenders_clock (hrender : RendersBy render ends leaves) (n : Nat) :
    ∀ (i : Nat) (m : Measurement) (s : SessionState) (k : Nat),
    k < 2 * n → s.clock.clock.reading? (s.clock.calls + k) = none →
    (ExceptT.run (timeRenders render subTemplate n i m) s).1 = .error .clock := by
  induction n with
  | zero =>
    intro i m s k hk
    exact absurd hk (by omega)
  | succ n ih =>
    intro i m s k hk h
    -- either this iteration misses one of its two readings, or a later one does
    by_cases hmissing : ∃ j < 2, s.clock.clock.reading? (s.clock.calls + j) = none
    · obtain ⟨j, hj, hnone⟩ := hmissing
      rw [timeRenders]
      exact Session.fst_run_bind_error _ (run_timeRender_clock hrender hj hnone)
    · have htwo := SessionState.supplies_of_reads fun j hj hnone => hmissing ⟨j, hj, hnone⟩
      have hk2 : 2 ≤ k := by
        by_contra hlt
        exact hmissing ⟨k, by omega, h⟩
      rw [run_timeRenders_succ hrender htwo]
      refine ih _ _ _ (k - 2) (by omega) ?_
      rw [SessionState.loggedAll_clock, SessionState.leaving_clock, SessionState.ticked_clock,
        SessionState.ticked_calls, show s.clock.calls + 2 + (k - 2) = s.clock.calls + k from by omega]
      exact h

/-! ## The measurement -/

/-- How so many renders of a sub-template end, each of them with the items that the one before it has left. -/
def renderFailuresFrom (t : Template) (subTemplate : String) (n : Nat) (items : Template.Value) :
    List (Option RenderError) :=
  (List.range n).map fun i => failure? (t.renderInto {} subTemplate ((t.left subTemplate)^[i] items)).2

theorem timedFailures_renderOnce (t : Template) (subTemplate : String) (n : Nat) (clock : ClockState)
    (items : Template.Value) :
    timedFailures (fun _ items => (t.renderInto {} subTemplate items).2) (t.left subTemplate) n clock items =
      renderFailuresFrom t subTemplate n items := by
  induction n generalizing clock items with
  | zero => rfl
  | succ n ih =>
    rw [timedFailures, ih, renderFailuresFrom, renderFailuresFrom, List.range_succ_eq_map, List.map_cons, List.map_map]
    rfl

/-- **The measurement of a session with enough readings.** -/
theorem run_measureRenders (t : Template) (items : Template.Value) (subTemplate : String)
    {runCount : Int} {r : Nat → Int} (hruns : 1 ≤ runCount) (h : s.Supplies r (2 * runCount.toNat)) :
    ExceptT.run (measureRenders t items subTemplate runCount) s =
      (.ok ⟨elapsed r runCount.toNat, failed (renderFailuresFrom t subTemplate runCount.toNat items)⟩,
        ((s.loggedAll (notices subTemplate 0 0 (renderFailuresFrom t subTemplate runCount.toNat items))).ticked
          (2 * runCount.toNat)).leaving ((t.left subTemplate)^[runCount.toNat] items)) := by
  rw [measureRenders, if_neg (by omega)]
  show ExceptT.run (timeRenders _ subTemplate runCount.toNat 0 ⟨[], 0⟩) (s.leaving items) = _
  rw [run_timeRenders (Session.rendersBy_renderOnce t subTemplate) _ _ _ (s.leaving items) r (h.of_clock_eq rfl),
    timedFailures_renderOnce, SessionState.loggedAll_leaving, SessionState.ticked_leaving,
    SessionState.leaving_leaving, SessionState.leaving_items]
  simp only [List.reverse_nil, List.nil_append, Nat.zero_add]

/-- The measurement of a session ends with the clock's failure when one of its readings is missing. -/
theorem run_measureRenders_clock {t : Template} {items : Template.Value} {runCount : Int} {k : Nat}
    (hk : k < 2 * runCount.toNat) (h : s.clock.clock.reading? (s.clock.calls + k) = none) :
    (ExceptT.run (measureRenders t items subTemplate runCount) s).1 = .error .clock := by
  rw [measureRenders, if_neg (by omega)]
  exact run_timeRenders_clock (Session.rendersBy_renderOnce t subTemplate) runCount.toNat 0 ⟨[], 0⟩
    (s.leaving items) k hk h

end RenderBench
