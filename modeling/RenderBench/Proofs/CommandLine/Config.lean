import RenderBench.Proofs.CommandLine.Steps
import RenderBench.Proofs.Session.Abort

/-!
# `Proofs.CommandLine.Config` — the session that a command line runs

A parameter of the session is set on three layers: options count before settings, and settings before the
variant. What is absent differs: for most parameters it is a value that was not given, so a zero counts; for
the template it is the empty text too. The number of items falls back on the number of runs, once
that is settled.

## Contents
- `RunOptions.effective`: the parameters, layer by layer.
- `config_eq_effective`: they are those that the overrides make.
- `execute_effective`: the session of a command line, and the first line of its report.
-/

namespace RenderBench.CommandLine

namespace RunOptions

variable (o : RunOptions) (settings : Settings) (v : Variant)

/-- The template: the option's, if it is not empty. -/
def effectiveTemplate : String :=
  match o.template with
  | some path => if path = "" then settings.templatePath else path
  | none => settings.templatePath

def effectiveRuns : Int := (o.runs.or settings.runs).getD v.runCount

/-- The number of items; one per run where nobody gives it. -/
def effectiveItems : Int :=
  ((o.items.or settings.items).or v.itemCount).getD (o.effectiveRuns settings v)

/-- The parameters of the session, layer by layer. -/
def effective : RunConfig where
  templatePath := o.effectiveTemplate settings
  subTemplate := settings.subTemplate
  itemCount := o.effectiveItems settings v
  runCount := o.effectiveRuns settings v
  shape := (o.shape.map Shape.name).getD v.shape
  warmupRuns := o.warmupRuns.getD settings.warmupRuns
  sampleMemory := false
  traceAllocations := false
  label := v.name

/-- Whether the report names its unit. -/
def effectiveUnit : Bool := o.withUnit.getD v.microsSuffix

/-- An empty text counts as none. -/
theorem textOr_some (path default : String) :
    textOr (some path) default = if path = "" then default else path := by
  by_cases hempty : path = ""
  · rw [if_pos hempty, hempty]
    rfl
  · rw [if_neg hempty]
    unfold textOr
    split
    case h_1 hnone => cases hnone
    case h_2 heq => exact absurd (Option.some.inj heq) hempty
    case h_3 heq => exact (Option.some.inj heq).symm

theorem textOr_template : textOr o.template settings.templatePath = o.effectiveTemplate settings := by
  unfold effectiveTemplate
  cases o.template with
  | none => rfl
  | some path => exact textOr_some path _

/-- **Three layers.** The overrides make the parameters that the layers say. -/
theorem config_eq_effective : o.config settings v = o.effective settings v := by
  have hruns : (o.runs.or settings.runs).getD v.runCount = o.effectiveRuns settings v := rfl
  -- who gives the number of items decides whether it falls back on the runs
  cases hgiven : o.items.or settings.items with
  | some n =>
    have hitems : o.effectiveItems settings v = n := by rw [effectiveItems, hgiven]; rfl
    simp [config, RunConfig.underVariant, RunConfig.givesItemCount, RunConfig.apply, effective,
      textOr_template, hgiven, hitems, hruns]
  | none =>
    have hitems : o.effectiveItems settings v = v.itemCount.getD (o.effectiveRuns settings v) := by
      rw [effectiveItems, hgiven]
      rfl
    cases hvariant : v.itemCount with
    | some n =>
      simp [config, RunConfig.underVariant, RunConfig.givesItemCount, RunConfig.apply, effective,
        textOr_template, hgiven, hitems, hruns, hvariant]
    | none =>
      simp [config, RunConfig.underVariant, RunConfig.givesItemCount, RunConfig.apply, effective,
        textOr_template, hgiven, hitems, hruns, hvariant]

end RunOptions

variable {s : Surroundings} {words : List String} {o : RunOptions} {settings : Settings}
  {root : Log.Root} {v : Variant}

theorem sessionConfig?_eq (h : AsksRun s words o settings root)
    (hvariant : Variant.ofName (o.variantName settings) = .ok v) :
    sessionConfig? s words = some (o.effective settings v) := by
  rw [sessionConfig?, h.read, h.load]
  simp only [hvariant, Except.toOption, Option.map_some, o.config_eq_effective settings v]

/-- The first text after a session with a result is its report. -/
theorem output_of_result {result : SessionResult} (h : AsksRun s words o settings root)
    (hvariant : Variant.ofName (o.variantName settings) = .ok v)
    (hresult : (runSession s.files s.clock s.host (o.effective settings v) root).result =
      .ok result) :
    (execute s words).written.output =
      String.join ((reportLines result (o.effectiveUnit v)).map (· ++ "\n")) := by
  have hsilent := silent_completeReport s o settings root result
    (((Written.begun s).told (root.writeAll s.now
      (runSession s.files s.clock s.host (o.effective settings v) root).logs)).printed
        (reportLines result (o.effectiveUnit v)))
  rw [h.execute_variant hvariant, o.config_eq_effective settings v,
    run_reportSession_ok hresult, Outcome.written_ofRun]
  rw [RunOptions.effectiveUnit] at hsilent ⊢
  rw [hsilent]
  exact String.empty_append

/-- **The session of a command line.** What a command line leaves is what `run` makes of the session with
    the parameters that the options, the settings and the variant set layer by layer. Its report names the
    unit if the option says so, and if there is no such option, if the variant does; the first line of it
    names the number of items and of runs that are set. -/
theorem execute_effective (h : AsksRun s words o settings root)
    (hvariant : Variant.ofName (o.variantName settings) = .ok v) :
    sessionConfig? s words = some (o.effective settings v) ∧
    execute s words = Outcome.ofRun (ExceptT.run
      (reportSession s o settings root (o.effectiveUnit v)
        (runSession s.files s.clock s.host (o.effective settings v) root)) (Written.begun s)) ∧
    ∀ result, (runSession s.files s.clock s.host (o.effective settings v) root).result = .ok result →
      (execute s words).written.output =
        String.join ((reportLines result (o.effectiveUnit v)).map (· ++ "\n")) ∧
      (reportLines result (o.effectiveUnit v)).head? =
        some ("Table with " ++ intText (o.effectiveItems settings v) ++ " items, " ++
          intText (o.effectiveRuns settings v) ++ " runs:") := by
  refine ⟨sessionConfig?_eq h hvariant, ?_, fun result hresult => ?_⟩
  · rw [h.execute_variant hvariant, o.config_eq_effective settings v]
    rfl
  · obtain ⟨_, _, rfl⟩ := exists_concluded_of_ok hresult
    exact ⟨output_of_result h hvariant hresult, rfl⟩

/-- Variables that set the template, the items and the runs, and a page with one block. -/
def layered : Surroundings where
  environment :=
    [("BENCHMARK_TEMPLATE_PATH", "t.html"), ("BENCHMARK_ITEMS", "7"), ("BENCHMARK_RUNS", "3")]
  files := failingFiles
  now := 0
  clock := .steady 0 1000
  host := {}

/-- An empty option does not count, and a zero does. -/
theorem execute_effective_layers :
    sessionConfig? layered ["run", "--variant", "table-flat", "--template", "", "-n", "0"] =
      some { templatePath := "t.html", itemCount := 0, runCount := 3, shape := "flat",
             label := "table-flat" } ∧
    ∃ rest, (execute layered
        ["run", "--variant", "table-flat", "--template", "", "-n", "0"]).written.output =
      String.join (("Table with 0 items, 3 runs:" :: rest).map (· ++ "\n")) := by
  have hasks : AsksRun layered ["run", "--variant", "table-flat", "--template", "", "-n", "0"]
      { variant := some "table-flat", template := some "", items := some 0 }
      { templatePath := "t.html", items := some 7, runs := some 3 } ⟨20, [⟨.console, 20⟩]⟩ :=
    { interrupt := rfl
      read := by decide +kernel
      load := by decide +kernel
      level := by decide +kernel }
  obtain ⟨hconfig, _, houtput⟩ := execute_effective (v := .tableFlat) hasks (by decide +kernel)
  obtain ⟨result, hresult⟩ : ∃ result, (runSession layered.files layered.clock layered.host
      (RunOptions.effective { variant := some "table-flat", template := some "", items := some 0 }
        { templatePath := "t.html", items := some 7, runs := some 3 } .tableFlat)
      ⟨20, [⟨.console, 20⟩]⟩).result = .ok result := exists_ok_of_isOk (by decide +kernel)
  obtain ⟨hlines, hhead⟩ := houtput result hresult
  obtain ⟨rest, hreport⟩ := List.head?_eq_some_iff.mp hhead
  refine ⟨hconfig, rest, hlines.trans ?_⟩
  rw [hreport]
  exact congrArg (fun first => String.join ((first :: rest).map (· ++ "\n"))) (by decide +kernel)

end RenderBench.CommandLine
