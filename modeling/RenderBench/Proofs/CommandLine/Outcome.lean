import RenderBench.Proofs.CommandLine.Bounds
import RenderBench.Proofs.FileStore.Saving
import RenderBench.Proofs.Report.Details
import RenderBench.Proofs.Statistics.Shift

/-!
# `Proofs.CommandLine.Outcome` — how a command line that asks for a session ends

There are five ends: the variants are listed, the variant is unknown, the template cannot be loaded, the template
has a fault that the engine does not know, or a session is measured and reported. Which one it is depends on names
and files only. Once a session is measured its report is complete, and what may still fail comes after the report: a
figure that is too large for a real number, or a file that cannot be written.

## Contents
- `Surroundings.InRange`, `inRange_concluded`: readings whose figures are not too large.
- `RunConfig.FitsLists`, `figures_concluded`: counts and summaries that are not too large.
- `run_completeReport`: what follows the report, when nothing stands against it.
- `execute_ending`: what each end leaves; `execute_escaped`: a fault that the engine does not know.
-/

namespace RenderBench.CommandLine

variable {s : Surroundings} {words : List String} {o : RunOptions} {settings : Settings}
  {root : Log.Root} {v : Variant} {w : Written}

/-! ## Readings and figures -/

/-- The first readings of the clock, and those of the memory, are far from the largest real number. -/
structure Surroundings.InRange (s : Surroundings) (count : Nat) : Prop where
  clock : ∀ k < count, ∀ r, s.clock.reading? k = some r → r.natAbs < 2 ^ rangeBits
  memory : ∀ n ∈ s.host.memory, n.natAbs < 2 ^ rangeBits

/-- Microseconds have fewer digits than the nanoseconds they are made of. -/
theorem natAbs_elapsed_lt {a b : Int} {k : Nat} (ha : a.natAbs < 2 ^ (k + 3))
    (hb : b.natAbs < 2 ^ (k + 3)) : ((b - a).fdiv 1000).natAbs < 2 ^ (k + 1) := by
  have hpos := Nat.two_pow_pos k
  rw [pow_add] at ha hb ⊢
  rw [Int.fdiv_eq_ediv_of_nonneg _ (by decide)]
  omega

theorem within_elapsed {r : Nat → Int} {n k : Nat} (h : ∀ i < 2 * n, (r i).natAbs < 2 ^ (k + 3)) :
    Within (k + 1) (elapsed r n) := by
  intro x hx
  obtain ⟨i, hi, rfl⟩ := List.mem_map.mp hx
  have hlt := List.mem_range.mp hi
  exact natAbs_elapsed_lt (h (2 * i) (by omega)) (h (2 * i + 1) (by omega))

theorem scripted_mem {α : Type} (default : α) (readings : List α) (k : Nat) :
    scripted default readings k = default ∨ scripted default readings k ∈ readings := by
  unfold scripted
  cases hk : readings[k]? with
  | some r => exact .inr (List.mem_of_getElem? hk)
  | none =>
    cases hlast : readings.getLast? with
    | none => exact .inl rfl
    | some r => exact .inr (List.mem_of_getLast? hlast)

theorem memoryAt_lt {count : Nat} (h : s.InRange count) (k : Nat) : (s.host.memoryAt k).natAbs < 2 ^ rangeBits := by
  rcases scripted_mem 0 s.host.memory k with hdefault | hmem
  · rw [Host.memoryAt, hdefault]
    exact Nat.two_pow_pos rangeBits
  · exact h.memory _ hmem

/-- The peak of a session that takes no samples is one of two readings. -/
theorem peakMemory_lt {count : Nat} (h : s.InRange count) {n : Int} {label : String}
    (hpeak : (s.host.profile label {}).peakMemory = some n) : n.natAbs < 2 ^ rangeBits := by
  have hmax : positivePeak (max (s.host.memoryAt 0) (s.host.memoryAt 1)) = some n := hpeak
  unfold positivePeak at hmax
  split at hmax
  case isFalse => cases hmax
  case isTrue =>
    obtain rfl := Option.some.inj hmax
    rcases max_choice (s.host.memoryAt 0) (s.host.memoryAt 1) with hchoice | hchoice
    · rw [hchoice]
      exact memoryAt_lt h 0
    · rw [hchoice]
      exact memoryAt_lt h 1

/-- **Readings in range** make a result in range. -/
theorem inRange_concluded {c : RunConfig} {r : Nat → Int} {failures : Nat} {summary : Summary}
    (h : s.InRange (2 * c.runCount.toNat)) (hruns : 1 ≤ c.runCount) (hmemory : c.sampleMemory = false)
    (htrace : c.traceAllocations = false)
    (hr : ∀ k < 2 * c.runCount.toNat, s.clock.reading? k = some (r k)) :
    ∃ k, (concluded c ⟨elapsed r c.runCount.toNat, failures⟩ summary
      (s.host.profile c.label c.profileOptions)).InRange k := by
  obtain ⟨k, hk⟩ : ∃ k, rangeBits = k + 3 := ⟨1019, rfl⟩
  have hoptions : c.profileOptions = {} := by rw [RunConfig.profileOptions, hmemory, htrace]
  have hwithin : Within (k + 1) (elapsed r c.runCount.toNat) :=
    within_elapsed fun i hi => hk ▸ h.clock i hi (r i) (hr i hi)
  have hne : elapsed r c.runCount.toNat ≠ [] := by
    intro hempty
    have hlength := length_elapsed r c.runCount.toNat
    rw [hempty, List.length_nil] at hlength
    omega
  refine ⟨k + 1, hk.ge, hne, hwithin, ?_⟩
  intro p n hp hn
  obtain rfl := Option.some.inj hp
  rw [hoptions] at hn
  rcases hn with hpeak | htraced
  · exact peakMemory_lt h hpeak
  · cases htraced

theorem natAbs_lt_of_count {n : Int} (hnonneg : 0 ≤ n) (h : n < lengthLimit) : n.natAbs < 2 ^ rangeBits := by
  have hsmall : n.natAbs < 2 ^ 63 := by
    rw [lengthLimit] at h
    omega
  exact hsmall.trans_le (Nat.pow_le_pow_right (by decide) (by decide))

/-- The summary of bounded samples has the same bound. -/
theorem describes_lt {summary : Summary} {samples : List Int} {runCount : Int} {k : Nat}
    (h : summary.Describes samples runCount) (hlen : runCount = samples.length) (hsamples : Within k samples) :
    summary.min.natAbs < 2 ^ k ∧ summary.max.natAbs < 2 ^ k ∧ summary.average.natAbs < 2 ^ k := by
  have hmin := hsamples _ h.min_mem
  have hmax : summary.max.natAbs < 2 ^ k := by
    rcases h.max_mem with hzero | hmem
    · rw [hzero]
      exact Nat.two_pow_pos k
    · exact hsamples _ hmem
  -- the mean lies between the two
  have hlow := h.min_le_average hlen
  have hhigh := h.average_le_max hlen
  exact ⟨hmin, hmax, by omega⟩

/-- **Small counts** and samples in range make small figures. -/
theorem figures_concluded {c : RunConfig} {m : Measurement} {summary : Summary} {stats : ProfileStats} {k : Nat}
    (haccepted : Accepted s.files c) (hfits : c.FitsLists) (hrange : (concluded c m summary stats).InRange k)
    (hlength : m.samples.length = c.runCount.toNat) (hsummary : aggregate m.samples c.runCount = .ok summary)
    (hfailures : m.renderErrors ≤ c.runCount.toNat) :
    ∀ i ∈ [c.itemCount, c.runCount, summary.min, summary.max, summary.average, (m.renderErrors : Int), c.warmupRuns],
      i.natAbs < 2 ^ rangeBits := by
  have hruns := haccepted.runs
  have hk := hrange.range
  obtain ⟨hmin, hmax, haverage⟩ :=
    describes_lt (aggregate_eq_ok_iff.mp hsummary).2 (by omega) hrange.samples
  have hle : 2 ^ k ≤ 2 ^ rangeBits := Nat.pow_le_pow_right (by decide) (by omega)
  simp only [List.forall_mem_cons]
  exact ⟨natAbs_lt_of_count haccepted.items hfits.items, natAbs_lt_of_count (by omega) hfits.runs, hmin.trans_le hle,
    hmax.trans_le hle, haverage.trans_le hle,
    natAbs_lt_of_count (by omega) (lt_of_le_of_lt (by omega) hfits.runs),
    natAbs_lt_of_count haccepted.warmup hfits.warmup, nofun⟩

/-! ## After the report -/

/-- What follows the report succeeds when the table can be written and the result can be saved. -/
theorem run_completeReport {result : SessionResult}
    (hdetails : o.details → ∃ text, detailsText (terminalWidth s.environment) false result = .ok text)
    (hsave : o.save → ∃ after saved,
      persist w.files s.now settings.resultsDirectory result = (after, .ok saved)) :
    ∃ after, ExceptT.run (completeReport s o settings root result) w = (.ok (), after) := by
  -- the table changes no file, so that the result is saved into the same files with it and without it
  have hpersist (w' : Written) (hfiles : w'.files = w.files) : ∃ after,
      ExceptT.run (if o.save then saveResult s settings root result else pure () : Action Unit) w' =
        (.ok (), after) := by
    by_cases hflag : o.save
    · obtain ⟨after, saved, hsaved⟩ := hsave hflag
      rw [← hfiles] at hsaved
      rw [if_pos hflag]
      exact ⟨_, run_saveResult_ok hsaved⟩
    · rw [if_neg hflag]
      exact ⟨w', rfl⟩
  unfold completeReport
  by_cases hflag : o.details
  · obtain ⟨text, htext⟩ := hdetails hflag
    rw [if_pos hflag, htext]
    exact hpersist (w.told text) rfl
  · rw [if_neg hflag]
    exact hpersist w rfl

/-! ## The four ends -/

/-- Other files with the same settings, another clock and another machine ask for the same session. -/
theorem AsksRun.of_readFile (h : AsksRun s words o settings root) {files : FileStore}
    (hfile : Settings.readFile files s.environment = Settings.readFile s.files s.environment)
    (clock : Clock) (host : Host) :
    AsksRun { s with files, clock, host } words o settings root := by
  refine ⟨h.interrupt, h.read, ?_, h.level⟩
  have hload := h.load
  unfold Settings.load at hload ⊢
  rwa [hfile]

/-- The listing depends on the settings only. -/
theorem execute_list_of_readFile (h : AsksRun s words o settings root)
    (hname : o.variantName settings = listName) {files : FileStore}
    (hfile : Settings.readFile files s.environment = Settings.readFile s.files s.environment)
    (clock : Clock) (host : Host) :
    execute { s with files, clock, host } words =
      ⟨none, { (execute s words).written with files }⟩ := by
  rw [(h.of_readFile hfile clock host).execute_list hname, h.execute_list hname]
  have hwarnings : settingsWarnings { s with files, clock, host } = settingsWarnings s := by
    unfold settingsWarnings
    rw [hfile]
  rw [Written.begun, hwarnings]
  rfl

theorem execute_noTemplate (h : AsksRun s words o settings root) {e : LoadError}
    (hvariant : Variant.ofName (o.variantName settings) = .ok v)
    (hload : Template.load s.files (o.effectiveTemplate settings) = .error (.refused e)) :
    execute s words = ⟨some .reported, ((Written.begun s).told (root.writeAll s.now
      ((refusalRecords (o.effective settings v) (.load e)).filter fun r => root.accepts r.level))).told
        (e.message ++ "\n")⟩ := by
  have hrefused := runSession_of_refused s.clock s.host root (refusal?_of_bounded
    (bounded_of_read h.read) (Settings.bounded_of_load h.load)
    (Variant.bounded_of_mem (Variant.mem_of_ofName hvariant)) hload)
  rw [h.execute_variant hvariant, o.config_eq_effective settings v,
    run_reportSession_load (by rw [hrefused]; rfl), hrefused]
  rfl

/-- A fault that the engine does not know is not told. -/
theorem execute_unknownFault (h : AsksRun s words o settings root) {f : Template.CodeFault}
    (hvariant : Variant.ofName (o.variantName settings) = .ok v)
    (hload : Template.load s.files (o.effectiveTemplate settings) = .error (.escaped f)) :
    execute s words = ⟨some (.failed (.session (.engine f))), (Written.begun s).told (root.writeAll s.now
      ((refusalRecords (o.effective settings v) (.engine f)).filter fun r => root.accepts r.level))⟩ := by
  have hrefused := runSession_of_refused s.clock s.host root (refusal?_of_bounded
    (bounded_of_read h.read) (Settings.bounded_of_load h.load)
    (Variant.bounded_of_mem (Variant.mem_of_ofName hvariant)) hload)
  rw [h.execute_variant hvariant, o.config_eq_effective settings v,
    run_reportSession_error (e := .engine f) (by rw [hrefused]; rfl) nofun, hrefused]
  rfl

theorem AsksRun.accepted (h : AsksRun s words o settings root) {t : Template}
    (hvariant : Variant.ofName (o.variantName settings) = .ok v)
    (hload : Template.load s.files (o.effectiveTemplate settings) = .ok t) :
    Accepted s.files (o.effective settings v) :=
  accepted_of_bounded (bounded_of_read h.read) (Settings.bounded_of_load h.load)
    (Variant.bounded_of_mem (Variant.mem_of_ofName hvariant)) hload

/-- A clock's failure ends a session without a word on the first text. -/
theorem output_of_error (h : AsksRun s words o settings root)
    (hvariant : Variant.ofName (o.variantName settings) = .ok v)
    (hclock : (runSession s.files s.clock s.host (o.effective settings v) root).result =
      .error .clock) : (execute s words).written.output = "" := by
  rw [h.execute_variant hvariant, o.config_eq_effective settings v,
    run_reportSession_error hclock nofun]
  rfl

theorem readMarkup_label {v : Variant} (h : v ∈ Variant.all) :
    (Terminal.readMarkup ("tablebench: " ++ v.name)).isOk := by
  rcases List.mem_cons.mp h with rfl | h
  · decide +kernel
  · obtain rfl := List.mem_singleton.mp h
    decide +kernel

/-- A session with a result in range, whose document holds short integers, is done when its files can be written. -/
theorem exitCode_of_result (h : AsksRun s words o settings root)
    (hvariant : Variant.ofName (o.variantName settings) = .ok v) {result : SessionResult}
    (hresult : (runSession s.files s.clock s.host (o.effective settings v) root).result = .ok result)
    (hrange : o.details → ∃ k, result.InRange k)
    (hjson : o.save → ∃ json, result.toJson true = .ok json ∧ json.AllShort)
    (hwritable : o.save → s.files.Writable (FilePath.ofString settings.resultsDirectory)
      [latestName, archiveName s.now]) : (execute s words).exitCode = 0 := by
  obtain ⟨_, _, hconcluded⟩ := exists_concluded_of_ok hresult
  have hdetails (hflag : o.details) :
      ∃ text, detailsText (terminalWidth s.environment) false result = .ok text := by
    obtain ⟨k, hk⟩ := hrange hflag
    refine exists_detailsText hk ?_ _ _
    rw [hconcluded]
    exact readMarkup_label (Variant.mem_of_ofName hvariant)
  have hsave (hflag : o.save) : ∃ after saved,
      persist s.files s.now settings.resultsDirectory result = (after, .ok saved) :=
    exists_persist (hwritable hflag) (hjson hflag)
  -- nothing before this step has touched a file
  have hdone (w : Written) (hfiles : w.files = s.files) : ∃ after,
      ExceptT.run (completeReport s o settings root result) w = (.ok (), after) :=
    run_completeReport hdetails (by rwa [hfiles])
  rw [h.execute_variant hvariant, o.config_eq_effective settings v, run_reportSession_ok hresult]
  obtain ⟨after, hafter⟩ := hdone (((Written.begun s).told (root.writeAll s.now
    (runSession s.files s.clock s.host (o.effective settings v) root).logs)).printed
      (reportLines result (o.withUnit.getD v.microsSuffix))) rfl
  rw [hafter]
  rfl

/-- **How a command line that asks for a session ends.** Asked for the variants it lists them, whatever the
    files are apart from the settings. A variant that is unknown and a template that cannot be loaded are
    failures before anything is written, and the second is told. A template with a fault that the engine does not know
    is a failure too, which is not told. Otherwise, with counts that are lengths of lists, the session is measured: no
    failure but the clock's can come out of it, and then there is no report either; if the clock does not
    fail, the report of the result is written, and the command is done if no figure that is asked for is out
    of range and the results can be written. -/
theorem execute_ending (h : AsksRun s words o settings root) :
    (o.variantName settings = listName →
      (execute s words).exitCode = 0 ∧ (execute s words).written.output = variantsLine ++ "\n" ∧
      (execute s words).written.files = s.files ∧
      ∀ files clock host,
        Settings.readFile files s.environment = Settings.readFile s.files s.environment →
        execute { s with files, clock, host } words =
          ⟨none, { (execute s words).written with files }⟩) ∧
    (∀ u, o.variantName settings ≠ listName → Variant.ofName (o.variantName settings) = .error u →
      (execute s words).exitCode = 2 ∧ (execute s words).stop = some (.usage (.unknownVariant u)) ∧
      (execute s words).written.output = "" ∧ (execute s words).written.files = s.files) ∧
    ∀ v, Variant.ofName (o.variantName settings) = .ok v →
      (∀ e, Template.load s.files (o.effectiveTemplate settings) = .error (.refused e) →
        (execute s words).exitCode = 1 ∧ (execute s words).written.output = "" ∧
        (∃ before, (execute s words).written.errors = before ++ (e.message ++ "\n")) ∧
        (execute s words).written.files = s.files) ∧
      (∀ f, Template.load s.files (o.effectiveTemplate settings) = .error (.escaped f) →
        (execute s words).exitCode = 1 ∧ (execute s words).stop = some (.failed (.session (.engine f))) ∧
        (execute s words).written.output = "" ∧ (execute s words).written.files = s.files) ∧
      ∀ t, Template.load s.files (o.effectiveTemplate settings) = .ok t → (o.effective settings v).FitsLists →
        (∀ e, (runSession s.files s.clock s.host (o.effective settings v) root).result = .error e →
          e = .clock ∧ (execute s words).written.output = "") ∧
        ((∀ k < 2 * (o.effectiveRuns settings v).toNat, ∃ r, s.clock.reading? k = some r) →
          ∃ result,
            (runSession s.files s.clock s.host (o.effective settings v) root).result =
              .ok result ∧
            (execute s words).written.output =
              String.join ((reportLines result (o.effectiveUnit v)).map (· ++ "\n")) ∧
            ((o.details ∨ o.save → s.InRange (2 * (o.effectiveRuns settings v).toNat)) →
              (o.save → s.files.Writable (FilePath.ofString settings.resultsDirectory)
                [latestName, archiveName s.now]) →
              (execute s words).exitCode = 0)) := by
  refine ⟨fun hname => ⟨?_, ?_, ?_, fun files clock host hfile => ?_⟩, fun u hname hvariant => ?_,
    fun v hvariant => ⟨fun e hload => ?_, fun f hload => ?_,
      fun t hload hfits => ⟨fun e herror => ?_, fun hclock => ?_⟩⟩⟩
  -- the listing
  · rw [h.execute_list hname]
    rfl
  · rw [h.execute_list hname]
    exact String.empty_append
  · rw [h.execute_list hname]
    rfl
  · exact execute_list_of_readFile h hname hfile clock host
  -- the three failures
  · rw [h.execute_unknown hname hvariant]
    exact ⟨rfl, rfl, rfl, rfl⟩
  · rw [execute_noTemplate h hvariant hload]
    exact ⟨rfl, rfl, ⟨_, rfl⟩, rfl⟩
  · rw [execute_unknownFault h hvariant hload]
    exact ⟨rfl, rfl, rfl, rfl⟩
  -- the session
  · rcases result_of_accepted s.clock s.host root (h.accepted hvariant hload) with
      hfails | ⟨_, _, hok⟩
    · exact ⟨Except.error.inj (herror.symm.trans hfails), output_of_error h hvariant hfails⟩
    · cases herror.symm.trans hok
  · have haccepted := h.accepted hvariant hload
    choose! r hr using hclock
    obtain ⟨_, _, hread⟩ := runSession_of_accepted s.clock s.host root haccepted
    obtain ⟨failures, summary, hfailures, hsummary, hresult⟩ := hread r hr
    refine ⟨_, hresult, output_of_result h hvariant hresult, fun hrange hwritable => ?_⟩
    have hsmall (hflag : o.details ∨ o.save) : ∃ k, (concluded (o.effective settings v)
        ⟨elapsed r (o.effectiveRuns settings v).toNat, failures⟩ summary
        (s.host.profile v.name {})).InRange k :=
      inRange_concluded (hrange hflag) haccepted.runs rfl rfl hr
    refine exitCode_of_result h hvariant hresult (fun hflag => hsmall (.inl hflag)) (fun hflag => ?_) hwritable
    obtain ⟨k, hk⟩ := hsmall (.inr hflag)
    exact exists_toJson hk (figures_concluded haccepted hfits hk (length_elapsed r _) hsummary hfailures) true

/-- A page with one block that holds nothing. -/
def pageFiles : FileStore :=
  ⟨[(["work"], .directory),
    (["work", "t.html"],
      .file (encodeUtf8 "\x7b% block table %\x7d\x7b% endblock %\x7d".toList))]⟩

/-- A page and a clock that ticks. -/
def ticking : Surroundings where
  environment := [("LOG_LEVEL", "ERROR")]
  files := pageFiles
  now := 1700000000000000
  clock := .steady 0 1000
  host := {}

/-- The four ends of command lines over one page; the last one asks for everything. -/
theorem execute_ending_each :
    (execute ticking ["run", "-v", "list"]).exitCode = 0 ∧
    (execute ticking ["run", "-v", "tables"]).exitCode = 2 ∧
    (execute ticking ["run", "-t", "u.html", "--save"]).written.files = pageFiles ∧
    (execute ticking ["run", "-t", "t.html", "-r", "2", "--details", "--save"]).exitCode = 0 := by
  have hasks (words : List String) (o : RunOptions) (hread : Command.read words = .ok (.run o)) :
      AsksRun ticking words o { logLevel := "ERROR" } ⟨40, [⟨.console, 40⟩]⟩ :=
    ⟨rfl, hread, by decide +kernel, by decide +kernel⟩
  have hlisted := execute_ending (hasks ["run", "-v", "list"] { variant := some "list" }
    (by decide +kernel))
  have hunknown := execute_ending (hasks ["run", "-v", "tables"] { variant := some "tables" }
    (by decide +kernel))
  have hmissing := execute_ending (hasks ["run", "-t", "u.html", "--save"]
    { template := some "u.html", save := true } (by decide +kernel))
  have hmeasured := execute_ending (hasks ["run", "-t", "t.html", "-r", "2", "--details", "--save"]
    { template := some "t.html", runs := some 2, details := true, save := true } (by decide +kernel))
  refine ⟨(hlisted.1 rfl).1, (hunknown.2.1 ⟨"tables"⟩ (by decide) (by decide +kernel)).1,
    ((hmissing.2.2 .table (by decide +kernel)).1 ⟨"u.html", .notFound⟩ rfl).2.2.2, ?_⟩
  obtain ⟨t, hload⟩ := exists_ok_of_isOk (show (Template.load ticking.files "t.html").isOk by
    decide +kernel)
  have hsession := ((hmeasured.2.2 .table (by decide +kernel)).2.2 t hload ⟨by decide, by decide, by decide⟩).2
  have hclock : ∀ k < 4, ∃ r, ticking.clock.reading? k = some r := fun k _ => ⟨_, rfl⟩
  obtain ⟨_, _, _, hdone⟩ := hsession hclock
  refine hdone (fun _ => ⟨?_, ?_⟩) fun _ => ⟨by decide +kernel, by decide +kernel⟩
  · intro k hk r hr
    have hk4 : k < 4 := hk
    obtain rfl := Option.some.inj hr
    have hsmall : ((0 : Int) + 1000 * (k + 1)).natAbs < 2 ^ 12 := by omega
    exact hsmall.trans_le (Nat.pow_le_pow_right (by decide) (by decide))
  · decide +kernel

/-- A page whose block gives an argument twice, and a clock that ticks. -/
def repeating : Surroundings := { ticking with files := repeatingFiles }

/-- **A fault that the engine does not know** ends a command line whose template cannot be loaded, and nothing is told
    of it. -/
theorem execute_escaped :
    ∃ o settings root v,
      AsksRun repeating ["run", "-t", "t.html"] o settings root ∧
      Variant.ofName (o.variantName settings) = .ok v ∧
      (Template.load repeating.files (o.effectiveTemplate settings)).isOk = false ∧
      (execute repeating ["run", "-t", "t.html"]).stop =
        some (.failed (.session (.engine (.repeatedArgument "a")))) ∧
      (execute repeating ["run", "-t", "t.html"]).written.output = "" ∧
      (execute repeating ["run", "-t", "t.html"]).written.errors = "" := by
  have hasks : AsksRun repeating ["run", "-t", "t.html"] { template := some "t.html" } { logLevel := "ERROR" }
      ⟨40, [⟨.console, 40⟩]⟩ :=
    { interrupt := rfl
      read := by decide +kernel
      load := by decide +kernel
      level := by decide +kernel }
  have hvariant : Variant.ofName (RunOptions.variantName { template := some "t.html" } { logLevel := "ERROR" }) =
      .ok .table := by decide +kernel
  have hload : Template.load repeatingFiles "t.html" = .error (.escaped (.repeatedArgument "a")) := by
    have hmap : (Template.load repeatingFiles "t.html").map (fun _ => ()) =
        .error (.escaped (.repeatedArgument "a")) := by decide +kernel
    cases hresult : Template.load repeatingFiles "t.html" with
    | error failure =>
      rw [hresult] at hmap
      exact congrArg Except.error (Except.error.inj hmap)
    | ok t =>
      rw [hresult] at hmap
      cases hmap
  have hends := execute_unknownFault hasks hvariant hload
  refine ⟨_, _, _, _, hasks, hvariant, congrArg Except.isOk hload, ?_, ?_, ?_⟩
  · rw [hends]
  · rw [hends]
    rfl
  · rw [hends]
    decide +kernel

end RenderBench.CommandLine
