import RenderBench.Proofs.Json.Writing
import RenderBench.Proofs.Log.Configuration
import RenderBench.Proofs.Session.Abort

/-!
# `Proofs.Session.Trace` — what a session logs

A session with a result has told how it began, the first of its timed renders that failed and how many did, if any did,
and how it ended. Of these records the log has those from the configured level on, each on a line of its own when the
lines are JSON.

## Contents
- `renderFailures`: how the timed renders end, one after the other.
- `notices_cases`: the loop tells at most one failure, the first.
- `TraceOf`: the records of a session.
- `runSession_logs`: the log of a session with a result.
-/

namespace RenderBench

open Log (Record)
open Session (failure? RendersBy)

/-! ## Timed renders -/

/-- How so many timed renders end, one after the other, as far as the clock gives its readings. -/
def renderFailures (render : Session Unit) : Nat → SessionState → List (Option RenderError)
  | 0, _ => []
  | n + 1, s =>
    match ExceptT.run (timeRender render) s with
    | (.ok timed, after) => timed.2 :: renderFailures render n after
    | (.error _, _) => []

theorem renderFailures_eq {render : Session Unit} {ends : ClockState → Template.Value → Except RenderError Unit}
    {leaves : Template.Value → Template.Value} (hrender : RendersBy render ends leaves) (n : Nat) (s : SessionState)
    (r : Nat → Int) (h : s.Supplies r (2 * n)) :
    renderFailures render n s = timedFailures ends leaves n s.clock s.items := by
  induction n generalizing s r with
  | zero => rfl
  | succ n ih =>
    have htwo : s.Supplies r 2 := fun k hk => h k (by omega)
    have hrest : (s.ticked 2).Supplies (fun k => r (2 + k)) (2 * n) :=
      SessionState.Supplies.ticked (by rwa [show 2 + 2 * n = 2 * (n + 1) from by omega])
    rw [renderFailures, run_timeRender hrender htwo]
    exact congrArg (_ :: ·) (ih ((s.ticked 2).leaving (leaves s.items)) _ (hrest.of_clock_eq rfl))

/-! ## Notices -/

variable {subTemplate : String}

/-- After a failure nothing more is told. -/
theorem notices_of_pos {k : Nat} (hk : k ≠ 0) (i : Nat) (fs : List (Option RenderError)) :
    notices subTemplate i k fs = [] := by
  induction fs generalizing i k with
  | nil => rfl
  | cons f fs ih =>
    cases f with
    | none => exact ih hk (i + 1)
    | some e => rw [notices, if_neg hk, List.nil_append, ih (Nat.succ_ne_zero k)]

/-- **The loop tells at most one failure.** If there is one, it is told with the first iteration that failed. -/
theorem notices_cases (i : Nat) (fs : List (Option RenderError)) :
    (failed fs = 0 ∧ notices subTemplate i 0 fs = []) ∨
      ∃ k e, fs[k]? = some (some e) ∧ (∀ j < k, fs[j]? = some none) ∧ failed fs ≠ 0 ∧
        notices subTemplate i 0 fs = [failedRender subTemplate (i + k) e] := by
  induction fs generalizing i with
  | nil => exact .inl ⟨rfl, rfl⟩
  | cons f fs ih =>
    cases f with
    | none =>
      have hcount : failed (none :: fs) = failed fs := List.countP_cons_of_neg (by simp)
      rw [hcount, notices]
      rcases ih (i + 1) with hnone | ⟨k, e, hfails, hbefore, hcount, htold⟩
      · exact .inl hnone
      · refine .inr ⟨k + 1, e, hfails, ?_, hcount, ?_⟩
        · intro j hj
          cases j with
          | zero => rfl
          | succ j => exact hbefore j (by omega)
        · rw [htold, show i + 1 + k = i + (k + 1) from by omega]
    | some e =>
      -- from the first failure on nothing is told
      refine .inr ⟨0, e, rfl, fun j hj => absurd hj (Nat.not_lt_zero j), ?_, ?_⟩
      · rw [failed, List.countP_cons_of_pos rfl]
        exact Nat.succ_ne_zero _
      · rw [notices, if_pos rfl, notices_of_pos (Nat.succ_ne_zero 0)]
        rfl

/-! ## The records of a session -/

/-- The records of a session with a result, in order. -/
inductive TraceOf (c : RunConfig) (failures : List (Option RenderError)) (r : SessionResult) (duration : Binary64) :
    List Record → Prop
  | clean (hnone : r.renderErrors = 0) : TraceOf c failures r duration [sessionStart c, sessionComplete r duration]
  | failing {i : Nat} {e : RenderError} (hsome : 0 < r.renderErrors) (hfails : failures[i]? = some (some e))
      (hbefore : ∀ j < i, failures[j]? = some none) :
      TraceOf c failures r duration [sessionStart c, failedRender c.subTemplate i e, renderErrors c (failed failures),
        sessionComplete r duration]

variable {c : RunConfig} {failures : List (Option RenderError)} {r : SessionResult} {duration : Binary64}

theorem traceOf_sessionTrace (h : r.renderErrors = failed failures) :
    TraceOf c failures r duration (sessionTrace c failures r duration) := by
  rw [sessionTrace]
  rcases @notices_cases c.subTemplate 0 failures with
    ⟨hcount, htold⟩ | ⟨k, e, hfails, hbefore, hcount, htold⟩
  · rw [htold, if_neg (not_not.mpr hcount)]
    exact .clean (by omega)
  · rw [htold, if_pos hcount, Nat.zero_add]
    exact .failing (by omega) hfails hbefore

/-- A record of a session is one from the informing level on, with a message that needs no arguments and attributes that
    a document can hold. -/
structure Told (rec : Record) : Prop where
  level : Log.Level.info ≤ rec.level
  message : ∃ text, rec.message = .ok text ∧ rec.oddKey? text = none

theorem told_sessionRecord {level : Log.Level} {text : String} {extra : List (String × Datum)}
    (hlevel : Log.Level.info ≤ level) (hmessage : (sessionRecord level text extra).message = .ok text)
    (hextra : ∀ e ∈ extra, e.2.oddKey? = none) : Told (sessionRecord level text extra) :=
  ⟨hlevel, text, hmessage, Log.Record.oddKey?_of_names hextra rfl text⟩

theorem told_sessionStart (c : RunConfig) : Told (sessionStart c) :=
  told_sessionRecord (Int.le_refl _) rfl (by simp [Datum.oddKey?])

theorem told_sessionComplete (r : SessionResult) (duration : Binary64) : Told (sessionComplete r duration) :=
  told_sessionRecord (Int.le_refl _) rfl (by simp [Datum.oddKey?])

theorem told_failedRender (subTemplate : String) (i : Nat) (e : RenderError) : Told (failedRender subTemplate i e) :=
  told_sessionRecord (by decide) rfl (by simp [Datum.oddKey?])

theorem told_renderErrors (c : RunConfig) (n : Nat) : Told (renderErrors c n) :=
  told_sessionRecord (by decide) rfl (by simp [Datum.oddKey?])

theorem TraceOf.told {trace : List Record} (h : TraceOf c failures r duration trace) : ∀ rec ∈ trace, Told rec := by
  cases h with
  | clean hnone =>
    simp only [List.forall_mem_cons]
    exact ⟨told_sessionStart c, told_sessionComplete r duration, fun _ h => absurd h List.not_mem_nil⟩
  | failing hsome hfails hbefore =>
    simp only [List.forall_mem_cons]
    exact ⟨told_sessionStart c, told_failedRender _ _ _, told_renderErrors c _, told_sessionComplete r duration,
      fun _ h => absurd h List.not_mem_nil⟩

/-! ## Levels and lines -/

variable {name : String} {style : Log.Style} {root : Log.Root} {rec : Record}

theorem configure_eq (h : Log.Root.configure name style = .ok root) : root.handlers = [⟨style, root.level⟩] := by
  rw [Log.Root.configure, Log.Root.reconfigure_eq] at h
  cases hlevel : Log.readLevel name with
  | error e =>
    rw [hlevel] at h
    cases h
  | ok level =>
    rw [hlevel] at h
    obtain rfl := Except.ok.inj h
    rfl

theorem Told.accepts_iff (h : Told rec) : root.accepts rec.level = decide (root.level ≤ rec.level) := by
  have hpositive : (0 : Int) < rec.level := Int.lt_of_lt_of_le (by decide) h.level
  rw [Log.Root.accepts, decide_eq_true hpositive, Bool.true_and]

/-- A record of a session has a line in either style, and a JSON line does not break. -/
theorem Told.exists_line (h : Told rec) (style : Log.Style) (now : Int) :
    ∃ line, rec.line style now = .ok line ∧ (style = .json → '\n' ∉ line.toList) := by
  obtain ⟨text, hmessage, hkeys⟩ := h.message
  cases style with
  | console =>
    have hkeys : Log.Style.console = .json → rec.oddKey? text = none := nofun
    obtain ⟨line, hline⟩ := Log.exists_line hmessage hkeys now
    exact ⟨line, hline, nofun⟩
  | json => exact ⟨_, Log.Record.jsonLine_eq_ok hmessage hkeys, fun _ => Json.not_mem_write (by decide) _⟩

/-- What a configured root writes for a record that it lets through. -/
theorem write_configured (h : Log.Root.configure name style = .ok root) (haccepts : root.accepts rec.level = true)
    (hlevel : root.level ≤ rec.level) {now : Int} {line : String} (hline : rec.line style now = .ok line) :
    root.write now rec = line ++ "\n" :=
  Log.write_of_handler (configure_eq h) haccepts hlevel hline

/-! ## The log -/

variable {files : FileStore} {clock : Clock} {host : Host}

/-- A result comes of a session that no check refuses, by a clock that gives all its readings. -/
theorem reads_of_ok (h : (runSession files clock host c root).result = .ok r) :
    Accepted files c ∧ ∀ k < 2 * c.runCount.toNat, clock.reading? k = some ((clock.reading? k).getD 0) := by
  -- a refused session has no result
  have haccepted : Accepted files c := by
    cases hrefusal : refusal? files c with
    | none => exact accepted_of_refusal?_eq_none hrefusal
    | some e =>
      rw [runSession_of_refused clock host root hrefusal] at h
      cases h
  refine ⟨haccepted, ?_⟩
  intro k hk
  cases hreading : clock.reading? k with
  | some a => rfl
  | none =>
    have hclock := (runSession_of_accepted clock host root haccepted).2.1 ⟨k, hk, hreading⟩
    rw [hclock] at h
    cases h

/-- The records of a session with a result are those of its renders, as far as they are let through. -/
theorem exists_trace_of_ok (h : (runSession files clock host c root).result = .ok r) :
    ∃ t s stats trace, ExceptT.run (prepare files c) (.start clock root) = (.ok t, s) ∧ r.profile = some stats ∧
      r.renderErrors = failed (renderFailures (renderOnce t c.subTemplate) c.runCount.toNat s) ∧
      TraceOf c (renderFailures (renderOnce t c.subTemplate) c.runCount.toNat s) r stats.duration trace ∧
      (runSession files clock host c root).logs = trace.filter fun rec => root.accepts rec.level := by
  obtain ⟨haccepted, hread⟩ := reads_of_ok h
  obtain ⟨t, hload⟩ := haccepted.template
  obtain ⟨shape, hshape⟩ := haccepted.shape
  have hprepare := run_prepare (s := .start clock root) haccepted.runs haccepted.warmup haccepted.items hshape hload
  generalize c.itemsFor t (firstItems c.itemCount.toNat shape) = items at hprepare
  obtain ⟨m, summary, hm, -, hresult, hlogs⟩ := runSession_of_readings host hprepare haccepted.runs hread
  rw [hresult] at h
  obtain rfl := Except.ok.inj h
  have hsupplies : (((SessionState.start clock root).logged (sessionStart c)).leaving items).Supplies
      (fun k => (clock.reading? k).getD 0) (2 * c.runCount.toNat) := by
    intro k hk
    rw [SessionState.leaving_clock, SessionState.logged_clock]
    show clock.reading? (0 + k) = _
    rw [Nat.zero_add]
    exact hread k hk
  have hfailures := renderFailures_eq (Session.rendersBy_renderOnce t c.subTemplate) _ _ _ hsupplies
  rw [timedFailures_renderOnce, SessionState.leaving_items] at hfailures
  have hcount : (m.renderErrors : Int) = failed (renderFailuresFrom t c.subTemplate c.runCount.toNat items) := by
    rw [hm]
  refine ⟨t, _, _, _, hprepare, rfl, ?_, ?_, hlogs⟩
  · rw [hfailures]
    exact hcount
  · rw [hfailures]
    exact traceOf_sessionTrace hcount

/-- **The log of a session with a result.** Its records are those of its trace from the configured level on: how the
    session began, the first failed render and the number of them if there are any, and how it ended. Every one of them
    is written, and is one line if the lines are JSON. -/
theorem runSession_logs (hroot : Log.Root.configure name style = .ok root)
    (h : (runSession files clock host c root).result = .ok r) (now : Int) :
    ∃ t s stats trace, ExceptT.run (prepare files c) (.start clock root) = (.ok t, s) ∧ r.profile = some stats ∧
      r.renderErrors = failed (renderFailures (renderOnce t c.subTemplate) c.runCount.toNat s) ∧
      TraceOf c (renderFailures (renderOnce t c.subTemplate) c.runCount.toNat s) r stats.duration trace ∧
      (runSession files clock host c root).logs = trace.filter (fun rec => root.level ≤ rec.level) ∧
      (root.level ≤ Log.Level.info → (runSession files clock host c root).logs = trace) ∧
      ∀ rec ∈ (runSession files clock host c root).logs, ∃ line, rec.line style now = .ok line ∧
        root.write now rec = line ++ "\n" ∧ (style = .json → '\n' ∉ line.toList) := by
  obtain ⟨t, s, stats, trace, hprepare, hprofile, hcount, htrace, hlogs⟩ := exists_trace_of_ok h
  have htold := htrace.told
  have hfilter : (runSession files clock host c root).logs = trace.filter fun rec => root.level ≤ rec.level := by
    rw [hlogs]
    exact List.filter_congr fun rec hrec => (htold rec hrec).accepts_iff
  refine ⟨t, s, stats, trace, hprepare, hprofile, hcount, htrace, hfilter, ?_, ?_⟩
  · intro hinfo
    rw [hfilter, List.filter_eq_self]
    intro rec hrec
    exact decide_eq_true (hinfo.trans (htold rec hrec).level)
  · intro rec hrec
    rw [hfilter] at hrec
    obtain ⟨hmem, hlevel⟩ := List.mem_filter.mp hrec
    obtain ⟨line, hline, hjson⟩ := (htold rec hmem).exists_line style now
    have haccepts : root.accepts rec.level = true := by
      rw [(htold rec hmem).accepts_iff]
      exact hlevel
    exact ⟨line, hline, write_configured hroot haccepts (of_decide_eq_true hlevel) hline, hjson⟩

/-- Two runs of a block that cannot be rendered. -/
def failingConfig : RunConfig := { templatePath := "t.html", itemCount := 0, runCount := 2 }

/-- The log of two runs that fail, from the warning level on. -/
theorem runSession_logs_failing :
    ∃ root, Log.Root.configure "warning" .json = .ok root ∧
      ∃ i e, (runSession failingFiles (.steady 0 1500) {} failingConfig root).logs =
          [failedRender failingConfig.subTemplate i e, renderErrors failingConfig 2] ∧
        ∀ rec ∈ [failedRender failingConfig.subTemplate i e, renderErrors failingConfig 2],
          ∃ line, root.write 0 rec = line ++ "\n" ∧ '\n' ∉ line.toList := by
  have hroot : Log.Root.configure "warning" .json = .ok ⟨30, [⟨.json, 30⟩]⟩ := by decide +kernel
  obtain ⟨r, hresult⟩ := exists_ok_of_isOk (show (runSession failingFiles (.steady 0 1500) {} failingConfig
    ⟨30, [⟨.json, 30⟩]⟩).result.isOk by decide +kernel)
  have hcount : (runSession failingFiles (.steady 0 1500) {} failingConfig ⟨30, [⟨.json, 30⟩]⟩).result.map
      SessionResult.renderErrors = .ok 2 := by decide +kernel
  rw [hresult] at hcount
  have htwo : r.renderErrors = 2 := Except.ok.inj hcount
  obtain ⟨t, s, stats, trace, -, -, hfailed, htrace, hlogs, -, hlines⟩ := runSession_logs hroot hresult 0
  refine ⟨_, hroot, ?_⟩
  cases htrace with
  | clean hnone =>
    rw [htwo] at hnone
    cases hnone
  | @failing i e hsome hfails hbefore =>
    have hlog : (runSession failingFiles (.steady 0 1500) {} failingConfig ⟨30, [⟨.json, 30⟩]⟩).logs =
        [failedRender failingConfig.subTemplate i e, renderErrors failingConfig 2] := by
      rw [hlogs, show failed _ = 2 by omega]
      rfl
    refine ⟨i, e, hlog, ?_⟩
    intro rec hrec
    obtain ⟨line, -, hwrite, hjson⟩ := hlines rec (hlog ▸ hrec)
    exact ⟨line, hwrite, hjson rfl⟩

end RenderBench
