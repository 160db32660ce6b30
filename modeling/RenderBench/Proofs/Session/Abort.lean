import RenderBench.Proofs.Session.Outcome

/-!
# `Proofs.Session.Abort` — sessions that end before they measure

Five checks stand before the first reading of the clock, in a fixed order: the number of runs, the number of
warmup renders, the template, the number of items and their shape. A session that one of them refuses has
not touched the clock or the machine, and has logged no more than how it began. A template may also be refused
for a fault that is none of the engine's own, which ends the session as it is. A session that passes all checks
reads the clock, and from then on only the clock can fail.

## Contents
- `refusal?`, `refusalRecords`: the first check that fails, and what has been logged by then.
- `run_prepare_refused`: a check that fails is the end of a session.
- `lengthLimit`, `RunConfig.FitsLists`: counts that are lengths of lists.
- `Accepted`: what the checks leave open.
- `Session.Counts`: steps that add to the readings of the clock; its rules.
- `runSession_of_accepted`, `result_of_accepted`: how a session ends that all checks let through.
- `exists_concluded_of_ok`: what is in a result.
- `runSession_refusal`: how a session ends before it measures; `runSession_escaped`: a fault that the engine does not
  know.
-/

namespace RenderBench

open Log (Record)

variable {files : FileStore} {c : RunConfig} {s : SessionState} {e : SessionError}

/-! ## The checks -/

/-- How a template that is not loaded ends a session. -/
def SessionError.ofLoad : LoadFailure → SessionError
  | .refused e => .load e
  | .escaped f => .engine f

/-- What ends a session before its first reading: the first of five checks that fails. -/
def refusal? (files : FileStore) (c : RunConfig) : Option SessionError :=
  if c.runCount < 1 then some (.runCount c.runCount)
  else if c.warmupRuns < 0 then some (.warmupRuns c.warmupRuns)
  else
    match Template.load files c.templatePath with
    | .error failure => some (.ofLoad failure)
    | .ok _ =>
      if c.itemCount < 0 then some (.generate (.negativeCount c.itemCount))
      else if (Shape.ofName? c.shape).isNone then some (.generate (.unknownShape c.shape))
      else none

/-- The records that a refused session has given to the log. -/
def refusalRecords (c : RunConfig) : SessionError → List Record
  | .load e => [sessionStart c, sessionAborted c e]
  | .engine _ => [sessionStart c]
  | .generate _ => [sessionStart c]
  | _ => []

theorem generateRange_negative {n : Int} (h : n < 0) (shape : String) :
    generateRange n shape = .error (.negativeCount n) := by
  rw [generateRange, if_pos h]

theorem generateRange_unknown {n : Int} {shape : String} (h : 0 ≤ n)
    (hshape : Shape.ofName? shape = none) :
    generateRange n shape = .error (.unknownShape shape) := by
  rw [generateRange, if_neg (not_lt.mpr h), hshape]

/-- **A refused session** has logged how it began, and nothing else has changed. -/
theorem run_prepare_refused (h : refusal? files c = some e) (s : SessionState) :
    ExceptT.run (prepare files c) s = (.error e, s.loggedAll (refusalRecords c e)) := by
  unfold refusal? at h
  by_cases hruns : c.runCount < 1
  · rw [if_pos hruns] at h
    obtain rfl := Option.some.inj h
    rw [prepare, if_pos hruns]
    rfl
  rw [if_neg hruns] at h
  by_cases hwarm : c.warmupRuns < 0
  · rw [if_pos hwarm] at h
    obtain rfl := Option.some.inj h
    rw [prepare, if_neg hruns, if_pos hwarm]
    rfl
  rw [if_neg hwarm] at h
  -- from here on the start of the session is in the log
  have hstart := Session.run_log (firstOverwrite_sessionStart c) s
  rw [prepare, if_neg hruns, if_neg hwarm]
  show ExceptT.run (Session.log (sessionStart c) >>= _) s = _
  rw [Stepwise.run_bind_ok _ hstart]
  cases hload : Template.load files c.templatePath with
  | error failure =>
    rw [hload] at h
    obtain rfl := Option.some.inj h
    cases failure with
    | refused f =>
      exact Stepwise.run_bind_ok _
        (Session.run_log (firstOverwrite_sessionAborted c f) (s.logged (sessionStart c)))
    | escaped f =>
      -- such a fault is not logged
      rfl
  | ok t =>
    rw [hload] at h
    simp only at h ⊢
    by_cases hitems : c.itemCount < 0
    · rw [if_pos hitems] at h
      obtain rfl := Option.some.inj h
      rw [generateRange_negative hitems]
      rfl
    rw [if_neg hitems] at h
    by_cases hshape : (Shape.ofName? c.shape).isNone
    · rw [if_pos hshape] at h
      obtain rfl := Option.some.inj h
      rw [generateRange_unknown (not_lt.mp hitems) (Option.isNone_iff_eq_none.mp hshape)]
      rfl
    · rw [if_neg hshape] at h
      cases h

/-- A list has fewer elements. -/
def lengthLimit : Int := 2 ^ 63

/-- Counts of which each is the length of a list. -/
structure RunConfig.FitsLists (c : RunConfig) : Prop where
  items : c.itemCount < lengthLimit
  runs : c.runCount < lengthLimit
  warmup : c.warmupRuns < lengthLimit

/-- What a session has that no check refuses. -/
structure Accepted (files : FileStore) (c : RunConfig) : Prop where
  runs : 1 ≤ c.runCount
  warmup : 0 ≤ c.warmupRuns
  template : ∃ t, Template.load files c.templatePath = .ok t
  items : 0 ≤ c.itemCount
  shape : ∃ shape, Shape.ofName? c.shape = some shape

theorem accepted_of_refusal?_eq_none (h : refusal? files c = none) : Accepted files c := by
  unfold refusal? at h
  -- check by check: what is not refused has passed it
  by_cases hruns : c.runCount < 1
  · rw [if_pos hruns] at h
    cases h
  by_cases hwarm : c.warmupRuns < 0
  · rw [if_neg hruns, if_pos hwarm] at h
    cases h
  rw [if_neg hruns, if_neg hwarm] at h
  cases hload : Template.load files c.templatePath with
  | error failure =>
    rw [hload] at h
    cases h
  | ok t =>
    rw [hload] at h
    simp only at h
    by_cases hitems : c.itemCount < 0
    · rw [if_pos hitems] at h
      cases h
    rw [if_neg hitems] at h
    cases hshape : Shape.ofName? c.shape with
    | none =>
      rw [hshape] at h
      cases h
    | some shape =>
      exact ⟨not_lt.mp hruns, not_lt.mp hwarm, ⟨t, hload⟩, not_lt.mp hitems, ⟨shape, hshape⟩⟩

/-! ## Readings are counted -/

namespace Session

variable {α β : Type}

/-- A step after which the clock has been read at least `k` times more, however the step ends. -/
def Counts (p : Session α) (k : Nat) : Prop :=
  ∀ s : SessionState, s.clock.calls + k ≤ (ExceptT.run p s).2.clock.calls

theorem counts_pure (a : α) : Counts (pure a) 0 := fun _ => Nat.le_refl _

/-- What the first step counts stays counted, whatever comes after it. -/
theorem counts_bind {p : Session α} {f : α → Session β} {k : Nat} (hp : Counts p k)
    (hf : ∀ a, Counts (f a) 0) : Counts (p >>= f) k := by
  intro s
  have hfirst := hp s
  rw [Stepwise.run_bind]
  rcases hrun : ExceptT.run p s with ⟨e | a, t⟩
  · rw [hrun] at hfirst
    exact hfirst
  · rw [hrun] at hfirst
    exact Nat.le_trans hfirst (hf a t)

theorem counts_readClock : Counts readClock 1 := by
  intro s
  cases hread : s.clock.clock.reading? s.clock.calls with
  | none =>
    rw [run_readClock_none hread]
    exact Nat.le_refl _
  | some r =>
    rw [run_readClock_some hread]
    exact Nat.le_refl _

theorem Counts.of_le {p : Session α} {k l : Nat} (h : Counts p k) (hl : l ≤ k) : Counts p l :=
  fun s => Nat.le_trans (Nat.add_le_add_left hl _) (h s)

theorem counts_log {r : Record} (h : Log.firstOverwrite r.extra = none) : Counts (log r) 0 := by
  intro s
  rw [run_log h, SessionState.logged_clock]
  exact Nat.le_refl _

end Session

open Session

section Renders

variable {render : Session Unit} {ends : ClockState → Template.Value → Except RenderError Unit}
  {leaves : Template.Value → Template.Value} (hrender : RendersBy render ends leaves)

include hrender

theorem counts_attempt : Counts (Session.attempt render) 0 := by
  intro s
  rw [run_attempt hrender]
  exact Nat.le_refl _

theorem counts_timeRender : Counts (timeRender render) 1 := by
  refine counts_bind counts_readClock fun _ => ?_
  refine counts_bind (counts_attempt hrender) fun _ => ?_
  exact counts_bind (counts_readClock.of_le (Nat.zero_le 1)) fun _ => counts_pure _

/-- **A loop with a run to do reads the clock.** -/
theorem counts_timeRenders (subTemplate : String) (n : Nat) :
    ∀ (i : Nat) (m : Measurement), Counts (timeRenders render subTemplate n i m) (if n = 0 then 0 else 1) := by
  induction n with
  | zero => exact fun _ _ => counts_pure _
  | succ n ih =>
    intro i m
    rw [if_neg (Nat.succ_ne_zero n)]
    -- the first iteration counts, and the others take nothing back
    refine counts_bind (counts_timeRender hrender) ?_
    rintro ⟨sample, failure⟩
    cases failure with
    | none => exact (ih _ _).of_le (Nat.zero_le _)
    | some e =>
      by_cases h0 : m.renderErrors = 0
      · simp only [h0, if_true]
        exact counts_bind (counts_log (firstOverwrite_failedRender subTemplate i e))
          fun _ => (ih _ _).of_le (Nat.zero_le _)
      · simp only [h0, if_false]
        exact (ih _ _).of_le (Nat.zero_le _)

end Renders

theorem counts_measureRenders (t : Template) (items : Template.Value) (subTemplate : String)
    {runCount : Int} (hruns : 1 ≤ runCount) :
    Counts (measureRenders t items subTemplate runCount) 1 := by
  have hloop := counts_timeRenders (rendersBy_renderOnce t subTemplate) subTemplate runCount.toNat 0 ⟨[], 0⟩
  rw [if_neg (by omega)] at hloop
  intro s
  rw [measureRenders, if_neg (by omega)]
  exact hloop (s.leaving items)

theorem counts_conclude (m : Measurement) (stats : ProfileStats) : Counts (conclude c m stats) 0 := by
  intro s
  cases hsummary : aggregate m.samples c.runCount with
  | error e =>
    -- the figures are refused before anything is logged
    rw [conclude, hsummary]
    exact Nat.le_refl _
  | ok summary =>
    rw [run_conclude hsummary, SessionState.logged_clock, SessionState.counted_clock]
    exact Nat.le_refl _

/-! ## The whole session -/

/-- A session that a check refuses leaves the clock and the machine alone. -/
theorem runSession_of_refused (clock : Clock) (host : Host) (root : Log.Root)
    (h : refusal? files c = some e) :
    runSession files clock host c root =
      { result := .error e
        logs := (refusalRecords c e).filter fun r => root.accepts r.level
        clockCalls := 0
        host := host.fresh } := by
  rw [runSession, run_prepare_refused h, SessionState.loggedAll_eq]
  rfl

/-- **A session that no check refuses** reads the clock. It ends with the clock's failure if one of the
    readings it needs is missing, and with a result if none is. -/
theorem runSession_of_accepted (clock : Clock) (host : Host) (root : Log.Root)
    (h : Accepted files c) :
    0 < (runSession files clock host c root).clockCalls ∧
      ((∃ k < 2 * c.runCount.toNat, clock.reading? k = none) →
        (runSession files clock host c root).result = .error .clock) ∧
      ∀ r : Nat → Int, (∀ k < 2 * c.runCount.toNat, clock.reading? k = some (r k)) →
        ∃ failures summary, failures ≤ c.runCount.toNat ∧
          aggregate (elapsed r c.runCount.toNat) c.runCount = .ok summary ∧
          (runSession files clock host c root).result =
            .ok (concluded c ⟨elapsed r c.runCount.toNat, failures⟩ summary
              (host.profile c.label c.profileOptions)) := by
  obtain ⟨t, hload⟩ := h.template
  obtain ⟨shape, hshape⟩ := h.shape
  have hprepare := run_prepare (s := .start clock root) h.runs h.warmup h.items hshape hload
  obtain ⟨_, hsession⟩ := runSession_eq host hprepare
  rw [SessionState.leaving_items] at hsession
  generalize c.itemsFor t (firstItems c.itemCount.toNat shape) = items at hprepare hsession
  have hclock : (((SessionState.start clock root).logged (sessionStart c)).leaving items).clock = { clock } :=
    SessionState.logged_clock _ _
  refine ⟨?_, ?_, ?_⟩
  · have hcounts := counts_bind (counts_measureRenders t items c.subTemplate h.runs)
      (fun m => counts_conclude (c := c) m (host.profile c.label c.profileOptions))
    have hone := hcounts (((SessionState.start clock root).logged (sessionStart c)).leaving items)
    rw [hclock] at hone
    rw [hsession]
    exact hone
  · rintro ⟨k, hk, hnone⟩
    -- nothing has been read before the measurement
    have hreading : (((SessionState.start clock root).logged (sessionStart c)).leaving items).clock.clock.reading?
        ((((SessionState.start clock root).logged (sessionStart c)).leaving items).clock.calls + k) = none := by
      rw [hclock, Nat.zero_add]
      exact hnone
    rw [hsession, measureAndConclude]
    exact Session.fst_run_bind_error _ (run_measureRenders_clock hk hreading)
  · intro r hr
    obtain ⟨m, summary, rfl, hsummary, hresult, -⟩ := runSession_of_readings host hprepare h.runs hr
    refine ⟨_, summary, ?_, hsummary, hresult⟩
    exact List.countP_le_length.trans (by simp [renderFailuresFrom])

/-- A session that no check refuses ends with the clock's failure, or with the result of a measurement. -/
theorem result_of_accepted (clock : Clock) (host : Host) (root : Log.Root) (h : Accepted files c) :
    (runSession files clock host c root).result = .error .clock ∨
      ∃ m summary, (runSession files clock host c root).result =
        .ok (concluded c m summary (host.profile c.label c.profileOptions)) := by
  obtain ⟨_, hmissing, hread⟩ := runSession_of_accepted clock host root h
  by_cases hnone : ∃ k < 2 * c.runCount.toNat, clock.reading? k = none
  · exact .inl (hmissing hnone)
  · -- every reading is there, and so is a result
    have hall (k : Nat) (hk : k < 2 * c.runCount.toNat) :
        clock.reading? k = some ((clock.reading? k).getD 0) := by
      cases hreading : clock.reading? k with
      | none => exact absurd ⟨k, hk, hreading⟩ hnone
      | some r => rfl
    obtain ⟨_, summary, -, -, hok⟩ := hread _ hall
    exact .inr ⟨_, summary, hok⟩

/-- A result carries the parameters of its session. -/
theorem exists_concluded_of_ok {clock : Clock} {host : Host} {root : Log.Root} {r : SessionResult}
    (h : (runSession files clock host c root).result = .ok r) :
    ∃ m summary, r = concluded c m summary (host.profile c.label c.profileOptions) := by
  cases hrefusal : refusal? files c with
  | some e =>
    rw [runSession_of_refused clock host root hrefusal] at h
    cases h
  | none =>
    rcases result_of_accepted clock host root (accepted_of_refusal?_eq_none hrefusal) with
      hclock | ⟨m, summary, hok⟩
    · rw [hclock] at h
      cases h
    · rw [hok] at h
      exact ⟨m, summary, (Except.ok.inj h).symm⟩

/-- The first two checks do not look at the files. -/
theorem refusal?_files (h : c.runCount < 1 ∨ c.warmupRuns < 0) (files files' : FileStore) :
    refusal? files' c = refusal? files c := by
  unfold refusal?
  by_cases hruns : c.runCount < 1
  · rw [if_pos hruns, if_pos hruns]
  · have hwarm := h.resolve_left hruns
    rw [if_neg hruns, if_neg hruns, if_pos hwarm, if_pos hwarm]

/-- A session that one of the first two checks refuses is nothing but the refusal. -/
theorem refusal?_of_count (files : FileStore) (h : c.runCount < 1 ∨ c.warmupRuns < 0) :
    ∃ e, refusal? files c = some e ∧ refusalRecords c e = [] := by
  unfold refusal?
  by_cases hruns : c.runCount < 1
  · exact ⟨_, if_pos hruns, rfl⟩
  · have hwarm := h.resolve_left hruns
    rw [if_neg hruns, if_pos hwarm]
    exact ⟨_, rfl, rfl⟩

/-- **How a session ends before it measures.** A session that one of the five checks refuses ends with the
    failure of the first such check. It has not read the clock or asked anything of the machine, and its
    log is how it began, with the failure if the template was what failed, unless the fault of the template is
    none of the engine's own. If a check of the two counts fails there is no log, and the files make no
    difference. A session that no check refuses, and whose samples fit a list, reads the clock, and no failure but the
    clock's comes out of it. -/
theorem runSession_refusal (files : FileStore) (clock : Clock) (host : Host) (c : RunConfig)
    (root : Log.Root) :
    (∀ e, refusal? files c = some e →
      (runSession files clock host c root).result = .error e ∧
      (runSession files clock host c root).clockCalls = 0 ∧
      (runSession files clock host c root).host = host.fresh ∧
      (runSession files clock host c root).logs =
        (refusalRecords c e).filter fun r => root.accepts r.level) ∧
    (c.runCount < 1 ∨ c.warmupRuns < 0 →
      (runSession files clock host c root).logs = [] ∧
      ∀ files', runSession files' clock host c root = runSession files clock host c root) ∧
    (refusal? files c = none → c.runCount < lengthLimit →
      0 < (runSession files clock host c root).clockCalls ∧
      ∀ e, (runSession files clock host c root).result = .error e → e = .clock) := by
  refine ⟨fun e h => ?_, fun h => ?_, fun h _ => ?_⟩
  · rw [runSession_of_refused clock host root h]
    exact ⟨rfl, rfl, rfl, rfl⟩
  · obtain ⟨e, hrefusal, hrecords⟩ := refusal?_of_count files h
    have hsame := runSession_of_refused clock host root hrefusal
    refine ⟨?_, fun files' => ?_⟩
    · rw [hsame, hrecords, List.filter_nil]
    · have hrefusal' := (refusal?_files h files files').trans hrefusal
      rw [hsame, runSession_of_refused clock host root hrefusal']
  · have haccepted := accepted_of_refusal?_eq_none h
    refine ⟨(runSession_of_accepted clock host root haccepted).1, fun e herror => ?_⟩
    rcases result_of_accepted clock host root haccepted with hclock | ⟨_, _, hok⟩
    · exact Except.error.inj (herror.symm.trans hclock)
    · cases herror.symm.trans hok

/-- Everything is wrong, and the number of runs is told, with other files too; without it the template is
    told, and no reading is taken; with a template that can be loaded the clock is read. -/
theorem runSession_refusal_inOrder (clock : Clock) (host : Host) :
    (runSession .empty clock host { runCount := 0, warmupRuns := -1, itemCount := -1 }).result =
        .error (.runCount 0) ∧
      runSession failingFiles clock host { runCount := 0, warmupRuns := -1, itemCount := -1 } =
        runSession .empty clock host { runCount := 0, warmupRuns := -1, itemCount := -1 } ∧
      (runSession .empty clock host { templatePath := "t.html", itemCount := -1 }).clockCalls = 0 ∧
      0 < (runSession failingFiles clock host { templatePath := "t.html", runCount := 2 }).clockCalls := by
  have hall := runSession_refusal .empty clock host
    { runCount := 0, warmupRuns := -1, itemCount := -1 } .verbose
  have hitems := runSession_refusal .empty clock host
    { templatePath := "t.html", itemCount := -1 } .verbose
  have hnone := runSession_refusal failingFiles clock host
    { templatePath := "t.html", runCount := 2 } .verbose
  refine ⟨(hall.1 _ rfl).1, (hall.2.1 (.inl (by decide))).2 _, (hitems.1 _ rfl).2.1, ?_⟩
  exact (hnone.2.2 (by decide +kernel) (by decide)).1

/-- A page whose block gives an argument twice. -/
def repeatingFiles : FileStore :=
  ⟨[(["work"], .directory),
    (["work", "t.html"], .file (encodeUtf8
      "\x7b% block table %\x7d\x7b\x7b range(a=1, a=2) \x7d\x7d\x7b% endblock %\x7d".toList))]⟩

/-- **A fault that the engine does not know** ends a session whose counts are in order before its first reading, and
    is not logged. -/
theorem runSession_escaped :
    (runSession repeatingFiles (.steady 0 1000) {} { templatePath := "t.html" }).result =
        .error (.engine (.repeatedArgument "a")) ∧
      (runSession repeatingFiles (.steady 0 1000) {} { templatePath := "t.html" }).clockCalls = 0 ∧
      (runSession repeatingFiles (.steady 0 1000) {} { templatePath := "t.html" }).logs =
        [sessionStart { templatePath := "t.html" }] := by
  rw [runSession_of_refused _ _ _ (show refusal? repeatingFiles { templatePath := "t.html" } =
    some (.engine (.repeatedArgument "a")) by decide +kernel)]
  exact ⟨rfl, rfl, rfl⟩

end RenderBench
