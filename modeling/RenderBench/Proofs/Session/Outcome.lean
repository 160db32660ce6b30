import Mathlib.Tactic.IntervalCases
import RenderBench.Proofs.Host.Profile
import RenderBench.Proofs.Session.Loop
import RenderBench.Proofs.Statistics.Summary

/-!
# `Proofs.Session.Outcome` — what comes out of a session

A session with acceptable parameters and a template that can be loaded ends in one of two ways, and the
clock alone decides which: it gives two readings for every run, and the result's samples are the elapsed
times between them, or it fails at one of them, and there is no result. Failing renders decide nothing.

## Contents
- `run_prepare`, `run_conclude`: the two ends of a session.
- `runSession_eq`: a session is its measurement between the two.
- `sessionTrace`, `runSession_of_readings`: its result and its log.
- `sum_elapsed_le`: the samples take no longer than the session.
- `runSession_measures`: the outcome of a session.
-/

namespace RenderBench

variable {files : FileStore} {clock : Clock} {host : Host} {c : RunConfig} {root : Log.Root}
  {s : SessionState}

/-! ## Before and after the measurement -/

/-- The items that the timed renders of a session start with: those that the renders before them have left. -/
def RunConfig.itemsFor (c : RunConfig) (t : Template) (items : List Item) : Template.Value :=
  (t.left c.subTemplate)^[c.warmupRuns.toNat] (itemsValue items)

/-- Acceptable parameters and a template that can be loaded: the session start is logged and the items are
    made. -/
theorem run_prepare {t : Template} {shape : Shape} (hruns : 1 ≤ c.runCount)
    (hwarm : 0 ≤ c.warmupRuns) (hitems : 0 ≤ c.itemCount) (hshape : Shape.ofName? c.shape = some shape)
    (hload : Template.load files c.templatePath = .ok t) :
    ExceptT.run (prepare files c) s =
      (.ok t, (s.logged (sessionStart c)).leaving (c.itemsFor t (firstItems c.itemCount.toNat shape))) := by
  have hrange : generateRange c.itemCount c.shape = .ok (firstItems c.itemCount.toNat shape) := by
    rw [generateRange, if_neg (by omega), hshape]
  rw [prepare, if_neg (by omega), if_neg (by omega)]
  show ExceptT.run (Session.log (sessionStart c) >>= _) s = _
  rw [Stepwise.run_bind_ok _ (Session.run_log (firstOverwrite_sessionStart c) s), hload, hrange]
  exact Stepwise.run_bind_ok _ (Session.run_warmUp (Session.rendersBy_renderOnce t c.subTemplate) _
    ((s.logged (sessionStart c)).leaving (itemsValue (firstItems c.itemCount.toNat shape))))

/-- The result that a measurement and its figures make. -/
def concluded (c : RunConfig) (m : Measurement) (summary : Summary) (stats : ProfileStats) :
    SessionResult where
  label := c.label
  itemCount := c.itemCount
  runCount := c.runCount
  samples := m.samples
  min := summary.min
  max := summary.max
  average := summary.average
  renderErrors := m.renderErrors
  warmupRuns := c.warmupRuns
  profile := some stats

/-- The state after the count of failed renders, which is logged when there are any. -/
def SessionState.counted (s : SessionState) (c : RunConfig) (n : Nat) : SessionState :=
  if n ≠ 0 then s.logged (renderErrors c n) else s

@[simp] theorem SessionState.counted_clock (s : SessionState) (c : RunConfig) (n : Nat) :
    (s.counted c n).clock = s.clock := by
  by_cases hn : n ≠ 0
  · rw [counted, if_pos hn, logged_clock]
  · rw [counted, if_neg hn]

theorem run_conclude {m : Measurement} {summary : Summary} {stats : ProfileStats}
    (h : aggregate m.samples c.runCount = .ok summary) :
    ExceptT.run (conclude c m stats) s =
      (.ok (concluded c m summary stats),
        (s.counted c m.renderErrors).logged
          (sessionComplete (concluded c m summary stats) stats.duration)) := by
  have hcomplete (s : SessionState) : ExceptT.run (do
      Session.log (sessionComplete (concluded c m summary stats) stats.duration)
      return concluded c m summary stats : Session SessionResult) s = _ :=
    Stepwise.run_bind_ok _ (Session.run_log (firstOverwrite_sessionComplete _ _) s)
  rw [conclude, h]
  show ExceptT.run (do
    if m.renderErrors ≠ 0 then Session.log (renderErrors c m.renderErrors)
    Session.log (sessionComplete (concluded c m summary stats) stats.duration)
    return concluded c m summary stats : Session SessionResult) s = _
  by_cases hn : m.renderErrors ≠ 0
  · rw [SessionState.counted, if_pos hn, if_pos hn,
      Stepwise.run_bind_ok _ (Session.run_log (firstOverwrite_renderErrors c _) s)]
    exact hcomplete _
  · rw [SessionState.counted, if_neg hn, if_neg hn]
    exact hcomplete s

/-! ## The whole session -/

/-- The options that a session's parameters ask of the profile. -/
def RunConfig.profileOptions (c : RunConfig) : ProfileOptions where
  sampleMemory := c.sampleMemory
  traceAllocations := c.traceAllocations

/-- A measurement and, if it has not failed, its conclusion. -/
def measureAndConclude (c : RunConfig) (t : Template) (items : Template.Value) (stats : ProfileStats) :
    Session SessionResult := do
  conclude c (← measureRenders t items c.subTemplate c.runCount) stats

/-- **A session once it is prepared.** The profile around the measurement adds its figures and nothing
    else. -/
theorem runSession_eq (host : Host) {t : Template}
    (h : ExceptT.run (prepare files c) { clock := { clock }, root } = (.ok t, s)) :
    ∃ after : HostState, runSession files clock host c root =
      { result := (ExceptT.run (measureAndConclude c t s.items (host.profile c.label c.profileOptions)) s).1
        logs := (ExceptT.run (measureAndConclude c t s.items (host.profile c.label c.profileOptions)) s).2.logs
        clockCalls :=
          (ExceptT.run (measureAndConclude c t s.items (host.profile c.label c.profileOptions)) s).2.clock.calls
        host := after } := by
  obtain ⟨after, hprofile⟩ := profileBlock_fresh host c.label c.profileOptions fun _ =>
    ExceptT.run (measureRenders t s.items c.subTemplate c.runCount) s
  refine ⟨after, ?_⟩
  rw [runSession, h, measureAndConclude, Stepwise.run_bind]
  simp only [RunConfig.profileOptions] at hprofile ⊢
  rw [hprofile]
  -- the measurement ends with samples or with a failure, and both are handed on
  rcases ExceptT.run (measureRenders t s.items c.subTemplate c.runCount) s with ⟨_ | _, _⟩ <;>
    rfl

/-- What a session logs whose timed renders end in some way, and whose result took so long. -/
def sessionTrace (c : RunConfig) (failures : List (Option RenderError)) (r : SessionResult) (duration : Binary64) :
    List Log.Record :=
  sessionStart c :: (notices c.subTemplate 0 0 failures ++
    ((if failed failures ≠ 0 then [renderErrors c (failed failures)] else []) ++ [sessionComplete r duration]))

/-- The state in which a session starts. -/
def SessionState.start (clock : Clock) (root : Log.Root) : SessionState := { clock := { clock }, root }

theorem SessionState.counted_eq (s : SessionState) (c : RunConfig) (n : Nat) :
    s.counted c n = s.loggedAll (if n ≠ 0 then [renderErrors c n] else []) := by
  unfold counted
  split
  · rfl
  · rfl

/-- The records of a session are given to the log one after the other, whatever readings lie between them. -/
theorem logs_sessionTrace (s : SessionState) (c : RunConfig) (failures : List (Option RenderError))
    (r : SessionResult) (duration : Binary64) (n : Nat) (items items' : Template.Value) :
    ((((((s.logged (sessionStart c)).leaving items).loggedAll (notices c.subTemplate 0 0 failures)).ticked n).leaving
      items').counted c (failed failures) |>.logged (sessionComplete r duration)).logs =
        (s.loggedAll (sessionTrace c failures r duration)).logs := by
  have hcomplete (s : SessionState) : s.logged (sessionComplete r duration) =
      s.loggedAll [sessionComplete r duration] := rfl
  have hstart : s.logged (sessionStart c) = s.loggedAll [sessionStart c] := rfl
  -- neither the items nor the readings are seen by the log
  simp only [SessionState.counted_eq, hcomplete, hstart, SessionState.loggedAll_leaving, SessionState.ticked_leaving,
    SessionState.leaving_leaving, SessionState.leaving_logs, SessionState.loggedAll_ticked, SessionState.ticked_logs,
    ← SessionState.loggedAll_append, List.append_assoc]
  rfl

/-- **A prepared session by a clock that gives all its readings.** It has a result, and logs what its renders and its
    result make it log. -/
theorem runSession_of_readings (host : Host) {t : Template} {items : Template.Value} {r : Nat → Int}
    (hprepare : ExceptT.run (prepare files c) (.start clock root) =
      (.ok t, ((SessionState.start clock root).logged (sessionStart c)).leaving items))
    (hruns : 1 ≤ c.runCount) (hr : ∀ k < 2 * c.runCount.toNat, clock.reading? k = some (r k)) :
    ∃ m summary,
      m = ⟨elapsed r c.runCount.toNat, failed (renderFailuresFrom t c.subTemplate c.runCount.toNat items)⟩ ∧
      aggregate m.samples c.runCount = .ok summary ∧
      (runSession files clock host c root).result =
        .ok (concluded c m summary (host.profile c.label c.profileOptions)) ∧
      (runSession files clock host c root).logs =
        (sessionTrace c (renderFailuresFrom t c.subTemplate c.runCount.toNat items)
          (concluded c m summary (host.profile c.label c.profileOptions))
          (host.profile c.label c.profileOptions).duration).filter fun rec => root.accepts rec.level := by
  obtain ⟨after, hsession⟩ := runSession_eq host hprepare
  have hsupplies : (((SessionState.start clock root).logged (sessionStart c)).leaving items).Supplies r
      (2 * c.runCount.toNat) := by
    intro k hk
    rw [SessionState.leaving_clock, SessionState.logged_clock]
    show clock.reading? (0 + k) = _
    rw [Nat.zero_add]
    exact hr k hk
  have hmeasure := run_measureRenders t items c.subTemplate hruns hsupplies
  -- there is a run, and so there is a sample
  obtain ⟨n, hn⟩ : ∃ n, c.runCount.toNat = n + 1 := ⟨c.runCount.toNat - 1, by omega⟩
  have hne : elapsed r c.runCount.toNat ≠ [] := by
    rw [hn, elapsed_succ]
    exact List.cons_ne_nil _ _
  obtain ⟨summary, hsummary, -⟩ := aggregate_describes hruns hne
  refine ⟨_, summary, rfl, hsummary, ?_⟩
  rw [hsession, SessionState.leaving_items, measureAndConclude, Stepwise.run_bind_ok _ hmeasure,
    run_conclude hsummary]
  have hlogs := logs_sessionTrace (.start clock root) c (renderFailuresFrom t c.subTemplate c.runCount.toNat items)
    (concluded c ⟨elapsed r c.runCount.toNat, failed (renderFailuresFrom t c.subTemplate c.runCount.toNat items)⟩
      summary (host.profile c.label c.profileOptions)) (host.profile c.label c.profileOptions).duration
    (2 * c.runCount.toNat) items ((t.left c.subTemplate)^[c.runCount.toNat] items)
  refine ⟨rfl, hlogs.trans ?_⟩
  rw [SessionState.loggedAll_eq]
  rfl

/-! ## Readings that never go back -/

theorem elapsed_nonneg {r : Nat → Int} {n : Nat} (h : ∀ k, k + 1 < 2 * n → r k ≤ r (k + 1)) :
    ∀ x ∈ elapsed r n, 0 ≤ x := by
  intro x hx
  obtain ⟨i, hi, rfl⟩ := List.mem_map.mp hx
  have hi' := List.mem_range.mp hi
  have hstep := h (2 * i) (by omega)
  rw [Int.fdiv_eq_ediv_of_nonneg _ (by decide)]
  omega

/-- **The samples take no longer than the session.** Flooring loses time, and the time between two renders
    is in no sample. -/
theorem sum_elapsed_le {r : Nat → Int} (n : Nat)
    (h : ∀ k, k + 1 < 2 * (n + 1) → r k ≤ r (k + 1)) :
    1000 * (elapsed r (n + 1)).sum ≤ r (2 * n + 1) - r 0 := by
  induction n with
  | zero =>
    have hsum : (elapsed r 1).sum = (r 1 - r 0).fdiv 1000 := by simp [elapsed]
    have hfloor := Int.mul_fdiv_self_le (x := r 1 - r 0) (k := 1000) (by decide)
    rwa [Nat.mul_zero, Nat.zero_add, hsum]
  | succ n ih =>
    have hsum : (elapsed r (n + 1 + 1)).sum =
        (elapsed r (n + 1)).sum + (r (2 * (n + 1) + 1) - r (2 * (n + 1))).fdiv 1000 := by
      rw [elapsed, List.range_succ, List.map_append, List.sum_append, ← elapsed]
      simp
    have hfloor := Int.mul_fdiv_self_le (x := r (2 * (n + 1) + 1) - r (2 * (n + 1))) (k := 1000)
      (by decide)
    -- what passes between two renders is in no sample
    have hbetween : r (2 * n + 1) ≤ r (2 * (n + 1)) := h (2 * n + 1) (by omega)
    have hbefore := ih fun k hk => h k (by omega)
    rw [hsum]
    linarith

/-! ## The outcome -/

/-- **The outcome of a session.** Its parameters are acceptable and its template can be loaded. If the
    clock gives two readings for every run, there is a result with one sample for every run, the floored
    microseconds between its readings, and the clock is read no further; and if the readings never go back,
    the figures are those of the samples and bound them, and the samples take no longer than the time
    from the first reading to the last. If the clock fails at one of these readings, that is how the session
    ends. -/
theorem runSession_measures (files : FileStore) (clock : Clock) (host : Host) (c : RunConfig)
    (root : Log.Root) (hruns : 1 ≤ c.runCount) (hwarm : 0 ≤ c.warmupRuns) (hitems : 0 ≤ c.itemCount)
    (hshape : (Shape.ofName? c.shape).isSome) (hload : (Template.load files c.templatePath).isOk) :
    (∀ r : Nat → Int, (∀ k < 2 * c.runCount.toNat, clock.reading? k = some (r k)) →
      ∃ result, (runSession files clock host c root).result = .ok result ∧
        (runSession files clock host c root).clockCalls = 2 * c.runCount.toNat ∧
        result.samples.length = c.runCount.toNat ∧
        (∀ i < c.runCount.toNat,
          result.samples[i]? = some ((r (2 * i + 1) - r (2 * i)).fdiv 1000)) ∧
        ((∀ k, k + 1 < 2 * c.runCount.toNat → r k ≤ r (k + 1)) →
          (0 ≤ result.min ∧ result.min ≤ result.average ∧ result.average ≤ result.max) ∧
          (result.min ∈ result.samples ∧ result.max ∈ result.samples ∧
            ∀ x ∈ result.samples, result.min ≤ x ∧ x ≤ result.max) ∧
          result.average = result.samples.sum.fdiv c.runCount ∧
          1000 * result.samples.sum ≤ r (2 * c.runCount.toNat - 1) - r 0)) ∧
    ((∃ k < 2 * c.runCount.toNat, clock.reading? k = none) →
      (runSession files clock host c root).result = .error .clock) := by
  obtain ⟨shape, hshape⟩ := Option.isSome_iff_exists.mp hshape
  obtain ⟨t, hload⟩ := exists_ok_of_isOk hload
  have hprepare := run_prepare (s := { clock := { clock }, root }) hruns hwarm hitems hshape hload
  obtain ⟨after, hsession⟩ := runSession_eq host hprepare
  rw [hsession, SessionState.leaving_items]
  generalize c.itemsFor t (firstItems c.itemCount.toNat shape) = items
  -- nothing has been read before the measurement
  have hcalls (k : Nat) : ((({ clock := { clock }, root } : SessionState).logged
      (sessionStart c)).leaving items).clock.clock.reading?
        (((({ clock := { clock }, root } : SessionState).logged (sessionStart c)).leaving items).clock.calls + k) =
      clock.reading? k := by
    rw [SessionState.leaving_clock, SessionState.logged_clock, Nat.zero_add]
  constructor
  · intro r hr
    have hmeasure := run_measureRenders t items c.subTemplate hruns fun k hk => (hcalls k).trans (hr k hk)
    -- there is a run, and so there is a sample
    obtain ⟨n, hn⟩ : ∃ n, c.runCount.toNat = n + 1 := ⟨c.runCount.toNat - 1, by omega⟩
    have hne : elapsed r c.runCount.toNat ≠ [] := by
      rw [hn, elapsed_succ]
      exact List.cons_ne_nil _ _
    obtain ⟨summary, hsummary, hdescribes⟩ := aggregate_describes hruns hne
    have hlen : c.runCount = (elapsed r c.runCount.toNat).length := by
      rw [length_elapsed]
      omega
    rw [measureAndConclude, Stepwise.run_bind_ok _ hmeasure, run_conclude hsummary]
    refine ⟨_, rfl, ?_, length_elapsed r _, ?_, ?_⟩
    · simp
    · intro i hi
      simp [concluded, elapsed, hi]
    · intro hmono
      have hnonneg := elapsed_nonneg hmono
      refine ⟨⟨hnonneg _ hdescribes.min_mem, hdescribes.min_le_average hlen,
        hdescribes.average_le_max hlen⟩, ⟨hdescribes.min_mem,
        hdescribes.max_mem_of_nonneg hnonneg, ?_⟩, hdescribes.average_eq, ?_⟩
      · intro x hx
        exact ⟨hdescribes.min_le x hx, hdescribes.le_max x hx⟩
      · show 1000 * (elapsed r c.runCount.toNat).sum ≤ _
        rw [hn] at hmono ⊢
        exact sum_elapsed_le n hmono
  · rintro ⟨k, hk, hnone⟩
    rw [measureAndConclude]
    exact Session.fst_run_bind_error _ (run_measureRenders_clock hk ((hcalls k).trans hnone))

/-- A file with one block, whose rendering fails. -/
def failingFiles : FileStore :=
  ⟨[(["work"], .directory),
    (["work", "t.html"], .file (encodeUtf8
      "\x7b% block table %\x7d<p>\x7b\x7b items.none.id \x7d\x7d\x7b% endblock %\x7d".toList))]⟩

/-- Two runs of a block whose rendering fails, by a clock with four readings and by one that fails at the
    last of them. -/
theorem runSession_measures_twice :
    (∃ result, (runSession failingFiles (.readings [0, 1500, 2000, 4999]) {}
        { templatePath := "t.html", itemCount := 0, runCount := 2 }).result = .ok result ∧
      result.samples.length = 2 ∧ result.samples[0]? = some 1 ∧ result.samples[1]? = some 2 ∧
      result.min ≤ result.average ∧ 1000 * result.samples.sum ≤ 4999) ∧
    (runSession failingFiles (.readings [0, 1500, 2000]) {}
      { templatePath := "t.html", itemCount := 0, runCount := 2 }).result = .error .clock := by
  have hmeasures (clock : Clock) := runSession_measures failingFiles clock {}
    { templatePath := "t.html", itemCount := 0, runCount := 2 } .verbose (by decide) (by decide)
    (by decide) (by decide) (by decide +kernel)
  constructor
  · obtain ⟨result, hresult, _, hlength, hsamples, hfigures⟩ :=
      (hmeasures (.readings [0, 1500, 2000, 4999])).1 (fun k => [0, 1500, 2000, 4999].getD k 0)
        (by decide)
    obtain ⟨⟨_, haverage, _⟩, _, _, hsum⟩ := hfigures (by
      intro k hk
      have hk' : k < 3 := Nat.lt_of_succ_lt_succ hk
      interval_cases k <;> decide)
    exact ⟨result, hresult, hlength, hsamples 0 (by decide), hsamples 1 (by decide), haverage, hsum⟩
  · exact (hmeasures (.readings [0, 1500, 2000])).2 ⟨3, by decide, rfl⟩

end RenderBench
