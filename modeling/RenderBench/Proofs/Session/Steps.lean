import Mathlib.Logic.Function.Iterate
import RenderBench.Proofs.Stepwise
import RenderBench.Session.Run

/-!
# `Proofs.Session.Steps` — what each step of a session does to its state

A session is run on a state; every step has one equation that says what it gives and which state it
leaves, and later proofs rewrite with these equations instead of opening the steps.

## Contents
- `SessionState.ticked`, `SessionState.logged`, `SessionState.leaving`: the three ways in which a state changes.
- `Session.RendersBy`: renders, whose ends may differ from one to the next, and which may take items away.
- `Session.run_readClock_some`, `Session.run_log`, `Session.run_attempt`, `Session.run_warmUp`: the steps.
- `firstOverwrite_…`: no record of a session touches an attribute that every record has.
-/

namespace RenderBench

open Log (Record)

namespace SessionState

/-- The state after so many readings of the clock. -/
def ticked (s : SessionState) (n : Nat) : SessionState :=
  { s with clock := { s.clock with calls := s.clock.calls + n } }

/-- The state after a record has been logged. -/
def logged (s : SessionState) (r : Record) : SessionState :=
  if s.root.accepts r.level then { s with logs := s.logs ++ [r] } else s

/-- The state with other items. -/
def leaving (s : SessionState) (items : Template.Value) : SessionState := { s with items }

@[simp] theorem leaving_clock (s : SessionState) (items : Template.Value) : (s.leaving items).clock = s.clock := rfl

@[simp] theorem leaving_root (s : SessionState) (items : Template.Value) : (s.leaving items).root = s.root := rfl

@[simp] theorem leaving_logs (s : SessionState) (items : Template.Value) : (s.leaving items).logs = s.logs := rfl

@[simp] theorem leaving_items (s : SessionState) (items : Template.Value) : (s.leaving items).items = items := rfl

@[simp] theorem leaving_leaving (s : SessionState) (items items' : Template.Value) :
    (s.leaving items).leaving items' = s.leaving items' := rfl

@[simp] theorem leaving_same (s : SessionState) : s.leaving s.items = s := rfl

@[simp] theorem ticked_items (s : SessionState) (n : Nat) : (s.ticked n).items = s.items := rfl

@[simp] theorem ticked_leaving (s : SessionState) (items : Template.Value) (n : Nat) :
    (s.leaving items).ticked n = (s.ticked n).leaving items := rfl

@[simp] theorem ticked_root (s : SessionState) (n : Nat) : (s.ticked n).root = s.root := rfl

@[simp] theorem ticked_logs (s : SessionState) (n : Nat) : (s.ticked n).logs = s.logs := rfl

@[simp] theorem ticked_calls (s : SessionState) (n : Nat) :
    (s.ticked n).clock.calls = s.clock.calls + n := rfl

@[simp] theorem ticked_clock (s : SessionState) (n : Nat) :
    (s.ticked n).clock.clock = s.clock.clock := rfl

@[simp] theorem ticked_zero (s : SessionState) : s.ticked 0 = s := rfl

@[simp] theorem ticked_ticked (s : SessionState) (m n : Nat) :
    (s.ticked m).ticked n = s.ticked (m + n) := by
  simp [ticked, Nat.add_assoc]

@[simp] theorem logged_clock (s : SessionState) (r : Record) : (s.logged r).clock = s.clock := by
  unfold logged
  split <;> rfl

@[simp] theorem logged_root (s : SessionState) (r : Record) : (s.logged r).root = s.root := by
  unfold logged
  split <;> rfl

@[simp] theorem logged_items (s : SessionState) (r : Record) : (s.logged r).items = s.items := by
  unfold logged
  split <;> rfl

/-- The state after records have been logged one after the other. -/
def loggedAll (s : SessionState) (rs : List Record) : SessionState := rs.foldl logged s

theorem loggedAll_eq (rs : List Record) : ∀ s : SessionState,
    s.loggedAll rs = { s with logs := s.logs ++ rs.filter fun r => s.root.accepts r.level } := by
  induction rs with
  | nil =>
    intro s
    rw [List.filter_nil, List.append_nil]
    rfl
  | cons r rs ih =>
    intro s
    show (s.logged r).loggedAll rs = _
    rw [ih, logged_root, List.filter_cons, logged]
    by_cases haccepts : s.root.accepts r.level
    · rw [if_pos haccepts, if_pos haccepts, List.append_assoc]
      rfl
    · rw [if_neg haccepts, if_neg haccepts]

theorem loggedAll_append (s : SessionState) (rs rs' : List Record) :
    s.loggedAll (rs ++ rs') = (s.loggedAll rs).loggedAll rs' := List.foldl_append

@[simp] theorem loggedAll_clock (s : SessionState) (rs : List Record) : (s.loggedAll rs).clock = s.clock := by
  rw [loggedAll_eq]

@[simp] theorem loggedAll_root (s : SessionState) (rs : List Record) : (s.loggedAll rs).root = s.root := by
  rw [loggedAll_eq]

@[simp] theorem loggedAll_items (s : SessionState) (rs : List Record) : (s.loggedAll rs).items = s.items := by
  rw [loggedAll_eq]

/-- Logging does not see the items. -/
theorem loggedAll_leaving (s : SessionState) (rs : List Record) (items : Template.Value) :
    (s.leaving items).loggedAll rs = (s.loggedAll rs).leaving items := by
  rw [loggedAll_eq, loggedAll_eq]
  rfl

/-- Logging and reading the clock do not see each other. -/
theorem loggedAll_ticked (s : SessionState) (rs : List Record) (n : Nat) :
    (s.ticked n).loggedAll rs = (s.loggedAll rs).ticked n := by
  rw [loggedAll_eq, loggedAll_eq]
  rfl

end SessionState

namespace Session

variable {α β : Type} {s s' : SessionState}

/-! ## Sequencing -/

@[simp] theorem run_pure (a : α) (s : SessionState) :
    ExceptT.run (pure a : Session α) s = (.ok a, s) := rfl

@[simp] theorem run_throw (e : SessionError) (s : SessionState) :
    ExceptT.run (throw e : Session α) s = (.error e, s) := rfl

theorem fst_run_bind_error {p : Session α} {e : SessionError} (f : α → Session β)
    (h : (ExceptT.run p s).1 = .error e) : (ExceptT.run (p >>= f) s).1 = .error e := by
  have hp : ExceptT.run p s = (.error e, (ExceptT.run p s).2) := Prod.ext h rfl
  rw [Stepwise.run_bind_error f hp]

/-! ## The clock and the log -/

theorem run_readClock (s : SessionState) :
    ExceptT.run readClock s =
      ExceptT.run (ofReading (s.clock.clock.reading? s.clock.calls)) (s.ticked 1) := rfl

theorem run_readClock_some {r : Int} (h : s.clock.clock.reading? s.clock.calls = some r) :
    ExceptT.run readClock s = (.ok r, s.ticked 1) := by
  rw [run_readClock, h]
  rfl

theorem run_readClock_none (h : s.clock.clock.reading? s.clock.calls = none) :
    ExceptT.run readClock s = (.error .clock, s.ticked 1) := by
  rw [run_readClock, h]
  rfl

theorem run_keep {r : Record} (h : Log.firstOverwrite r.extra = none) (s : SessionState) :
    ExceptT.run (keep r) s = (.ok (), { s with logs := s.logs ++ [r] }) := by
  rw [keep, h]
  rfl

/-- A record whose attributes are all its own is logged without a complaint. -/
theorem run_log {r : Record} (h : Log.firstOverwrite r.extra = none) (s : SessionState) :
    ExceptT.run (log r) s = (.ok (), s.logged r) := by
  show ExceptT.run (if s.root.accepts r.level then keep r else pure () : Session Unit) s = _
  unfold SessionState.logged
  by_cases haccepts : s.root.accepts r.level
  · rw [if_pos haccepts, if_pos haccepts, run_keep h]
  · rw [if_neg haccepts, if_neg haccepts, run_pure]

/-! ## Renders -/

/-- The failure of a render's outcome. -/
def failure? (outcome : Except RenderError Unit) : Option RenderError :=
  match outcome with
  | .ok _ => none
  | .error e => some e

/-- A render changes nothing of the session but the items, of which it leaves some. How it ends may depend on the clock
    and on the items. -/
def RendersBy (render : Session Unit) (ends : ClockState → Template.Value → Except RenderError Unit)
    (leaves : Template.Value → Template.Value) : Prop :=
  ∀ s : SessionState, ExceptT.run render s = ((ends s.clock s.items).mapError .render, s.leaving (leaves s.items))

theorem rendersBy_renderOnce (t : Template) (subTemplate : String) :
    RendersBy (renderOnce t subTemplate) (fun _ items => (t.renderInto {} subTemplate items).2) (t.left subTemplate) := by
  intro s
  show ExceptT.run (do
    set { s with items := t.left subTemplate s.items }
    match (t.renderInto {} subTemplate s.items).2 with
    | .ok _ => pure ()
    | .error e => throw (.render e) : Session Unit) s =
      ((t.renderInto {} subTemplate s.items).2.mapError .render, s.leaving (t.left subTemplate s.items))
  cases (t.renderInto {} subTemplate s.items).2 <;> rfl

variable {render : Session Unit} {ends : ClockState → Template.Value → Except RenderError Unit}
  {leaves : Template.Value → Template.Value}

/-- An attempted render never ends the session. -/
theorem run_attempt (h : RendersBy render ends leaves) (s : SessionState) :
    ExceptT.run (attempt render) s = (.ok (failure? (ends s.clock s.items)), s.leaving (leaves s.items)) := by
  have hrender := h s
  cases hends : ends s.clock s.items with
  | ok _ =>
    rw [hends] at hrender
    exact Stepwise.run_tryCatch_ok _ (Stepwise.run_bind_ok _ hrender)
  | error e =>
    rw [hends] at hrender
    exact Stepwise.run_tryCatch_error _ (Stepwise.run_bind_error _ hrender)

/-- Renders that are not timed leave the session as it was but for the items, whether or not they fail. -/
theorem run_warmUp (h : RendersBy render ends leaves) (n : Nat) (s : SessionState) :
    ExceptT.run (warmUp render n) s = (.ok (), s.leaving (leaves^[n] s.items)) := by
  induction n generalizing s with
  | zero => rfl
  | succ n ih =>
    have hone : ExceptT.run (discard (attempt render)) s = (.ok (), s.leaving (leaves s.items)) :=
      Stepwise.run_bind_ok _ (run_attempt h s)
    rw [warmUp, Stepwise.run_bind_ok _ hone, ih]
    rfl

end Session

/-! ## The records of a session -/

theorem firstOverwrite_sessionStart (c : RunConfig) :
    Log.firstOverwrite (sessionStart c).extra = none := by rfl

theorem firstOverwrite_sessionAborted (c : RunConfig) (e : LoadError) :
    Log.firstOverwrite (sessionAborted c e).extra = none := by rfl

theorem firstOverwrite_failedRender (subTemplate : String) (i : Nat) (e : RenderError) :
    Log.firstOverwrite (failedRender subTemplate i e).extra = none := by rfl

theorem firstOverwrite_renderErrors (c : RunConfig) (n : Nat) :
    Log.firstOverwrite (renderErrors c n).extra = none := by rfl

theorem firstOverwrite_sessionComplete (r : SessionResult) (d : Binary64) :
    Log.firstOverwrite (sessionComplete r d).extra = none := by rfl

end RenderBench
