import Mathlib.Data.List.Pairwise
import Mathlib.Tactic.ByContra
import RenderBench.Proofs.Settings.Dotenv
import RenderBench.Proofs.Settings.Sources
import RenderBench.Proofs.Stepwise
import RenderBench.Proofs.Text.Utf8

/-!
# `Proofs.Settings.Priority` — settings from four sources

Each setting is looked for by itself: an argument counts before a variable of the environment, a variable before an
entry of the file, and an entry before the default. There are settings if and only if all values that count can be
converted. Otherwise every value that cannot is complained about once, in the order of the fields, and a value that
does not count is not looked at.

## Contents
- `SettingField`, `settingFields`: the settings as a table.
- `SettingField.complaint?`, `ofSources_cases`: all settings, or all complaints.
- `readText`, `load_cases`: the text of the file, and what is made of it.
- `settings_priority`: which value every setting has, and what it depends on.
- `sources_without_values`: a file that is no text, and a name without a value.
-/

namespace RenderBench

/-! ## The settings as a table -/

/-- A setting: its names, its default, the conversion with its bound, and its place among the settings. -/
structure SettingField where
  name : SettingName
  Value : Type
  default : Value
  convert : Datum → Except Problem Value
  get : Settings → Value

/-- The settings in their order. -/
def settingFields : List SettingField := [
  ⟨⟨"app_env", "APP_ENV"⟩, String, "development", Datum.asText, Settings.appEnvironment⟩,
  ⟨⟨"log_level", "LOG_LEVEL"⟩, String, "INFO", Datum.asText, Settings.logLevel⟩,
  ⟨⟨"json_logs", "JSON_LOGS"⟩, Bool, false, Datum.asBool, Settings.jsonLogs⟩,
  ⟨⟨"template_path", "BENCHMARK_TEMPLATE_PATH"⟩, String, "templates/List.html", Datum.asText, Settings.templatePath⟩,
  ⟨⟨"sub_template", "BENCHMARK_SUB_TEMPLATE"⟩, String, "table", Datum.asText, Settings.subTemplate⟩,
  ⟨⟨"benchmark_variant", "BENCHMARK_VARIANT"⟩, String, "table", Datum.asText, Settings.variant⟩,
  ⟨⟨"benchmark_items", "BENCHMARK_ITEMS"⟩, Option Int, none, Settings.optionalCount 0, Settings.items⟩,
  ⟨⟨"benchmark_runs", "BENCHMARK_RUNS"⟩, Option Int, none, Settings.optionalCount 1, Settings.runs⟩,
  ⟨⟨"benchmark_warmup_runs", "BENCHMARK_WARMUP_RUNS"⟩, Int, 0, fun v => do atLeast 0 (← v.asInt), Settings.warmupRuns⟩,
  ⟨⟨"results_dir", "BENCHMARK_RESULTS_DIR"⟩, String, "results", Datum.asText, Settings.resultsDirectory⟩]

namespace SettingField

/-- What is wrong with a value and the name it came under; nothing is wrong with a default. -/
def complaint? (f : SettingField) : Option (String × Datum) → Option Complaint
  | none => none
  | some (k, d) =>
    match f.convert d with
    | .ok _ => none
    | .error p => some ⟨[k], p⟩

/-- A value of a setting is the default, or what the value of a source is converted to. -/
def Holds (f : SettingField) : Option (String × Datum) → f.Value → Prop
  | none, v => v = f.default
  | some (_, d), v => f.convert d = .ok v

/-- The checked value of a setting in the sources. -/
def checked (f : SettingField) (s : Sources) : Checked f.Value :=
  Settings.setting s f.name.field f.name.alias_ f.default f.convert

theorem isSome_complaint?_iff {f : SettingField} {w : Option (String × Datum)} :
    (f.complaint? w).isSome = true ↔ ∃ k d p, w = some (k, d) ∧ f.convert d = .error p := by
  rcases w with _ | ⟨k, d⟩
  · exact ⟨nofun, nofun⟩
  · rw [complaint?]
    cases hconvert : f.convert d with
    | ok v =>
      refine ⟨nofun, ?_⟩
      rintro ⟨_, _, p, ⟨⟩, herror⟩
      cases hconvert.symm.trans herror
    | error p => exact ⟨fun _ => ⟨k, d, p, rfl, hconvert⟩, fun _ => rfl⟩

/-- A complaint about a setting, under one of its names. -/
def IsAbout (f : SettingField) (c : Complaint) : Prop := ∃ k, c.place = [k] ∧ f.name.isArgument k = true

variable {f : SettingField} {s : Sources}

theorem isAbout_of_complaint? {c : Complaint} (h : f.complaint? (s.find? f.name) = some c) : f.IsAbout c := by
  rcases hfind : s.find? f.name with _ | ⟨k, d⟩
  · rw [hfind] at h
    cases h
  · rw [hfind, complaint?] at h
    cases hconvert : f.convert d with
    | ok v =>
      rw [hconvert] at h
      cases h
    | error p =>
      rw [hconvert] at h
      obtain rfl := Option.some.inj h
      exact ⟨k, rfl, Sources.isArgument_of_find? hfind⟩

theorem complaintsOf_checked (f : SettingField) (s : Sources) :
    complaintsOf (f.checked s) = (f.complaint? (s.find? f.name)).toList := by
  unfold checked Settings.setting
  rcases s.find? f.name with _ | ⟨k, d⟩
  · rfl
  · show complaintsOf (checkedAt k (f.convert d)) = _
    rw [complaint?]
    cases f.convert d with
    | ok v => rfl
    | error p => rfl

theorem checked_eq_ok {v : f.Value} (h : f.checked s = .ok v) :
    f.complaint? (s.find? f.name) = none ∧ f.Holds (s.find? f.name) v := by
  unfold checked Settings.setting at h
  rcases hfind : s.find? f.name with _ | ⟨k, d⟩
  · rw [hfind] at h
    exact ⟨rfl, (Except.ok.inj h).symm⟩
  · rw [hfind] at h
    have hconvert : f.convert d = .ok v := ok_of_mapError_ok h
    refine ⟨?_, hconvert⟩
    rw [complaint?, hconvert]

theorem checked_eq_error {cs : List Complaint} (h : f.checked s = .error cs) :
    (f.complaint? (s.find? f.name)).isSome = true := by
  unfold checked Settings.setting at h
  rcases hfind : s.find? f.name with _ | ⟨k, d⟩
  · rw [hfind] at h
    cases h
  · rw [hfind] at h
    rw [complaint?]
    cases hconvert : f.convert d with
    | ok v =>
      dsimp only at h
      rw [hconvert] at h
      cases h
    | error p => rfl

end SettingField

open SettingField

/-- Settings that no name belongs to in common. -/
def Apart (f g : SettingField) : Prop := ∀ k, ¬ (f.name.isArgument k = true ∧ g.name.isArgument k = true)

instance : Std.Symm Apart := ⟨fun _ _ h k hk => h k hk.symm⟩

theorem apart_settingFields : settingFields.Pairwise Apart := by
  have hnames : settingFields.Pairwise fun f g => f.name.alias_ ≠ g.name.alias_ ∧ f.name.alias_ ≠ g.name.field ∧
      f.name.field ≠ g.name.alias_ ∧ f.name.field ≠ g.name.field := by decide +kernel
  refine hnames.imp ?_
  rintro f g ⟨haa, haf, hfa, hff⟩ k ⟨hf, hg⟩
  simp only [SettingName.isArgument, Bool.or_eq_true, beq_iff_eq] at hf hg
  rcases hf with rfl | rfl
  · exact hg.elim haa haf
  · exact hg.elim hfa hff

/-- A complaint is about one setting. -/
theorem eq_of_isAbout {f g : SettingField} {c : Complaint} (hf : f ∈ settingFields) (hg : g ∈ settingFields)
    (hfc : f.IsAbout c) (hgc : g.IsAbout c) : f = g := by
  by_contra hne
  obtain ⟨k, hplace, hk⟩ := hfc
  obtain ⟨k', hplace', hk'⟩ := hgc
  obtain rfl : k = k' := (List.cons.inj (hplace.symm.trans hplace')).1
  exact apart_settingFields.forall hf hg hne k ⟨hk, hk'⟩

/-- **All settings, or all complaints.** -/
theorem ofSources_cases (s : Sources) :
    (∃ st, Settings.ofSources s = .ok st ∧ ∀ f ∈ settingFields, f.checked s = .ok (f.get st)) ∨
      Settings.ofSources s = .error ⟨"Settings", settingFields.flatMap fun f => complaintsOf (f.checked s)⟩ ∧
        ∃ f ∈ settingFields, ∃ cs, f.checked s = .error cs := by
  unfold Settings.ofSources
  dsimp only
  split
  · next h1 h2 h3 h4 h5 h6 h7 h8 h9 h10 =>
    refine .inl ⟨_, rfl, ?_⟩
    simp only [settingFields, List.forall_mem_cons, List.not_mem_nil, false_implies, implies_true, and_true]
    exact ⟨h1, h2, h3, h4, h5, h6, h7, h8, h9, h10⟩
  · next hnot =>
    refine .inr ⟨?_, ?_⟩
    · simp only [settingFields, List.flatMap_cons, List.flatMap_nil, List.append_nil, List.append_assoc, checked]
    · -- were all ten values there, the first case would have applied
      by_contra hnone
      have hok : ∀ f ∈ settingFields, ∃ v, f.checked s = .ok v := by
        intro f hf
        cases hchecked : f.checked s with
        | ok v => exact ⟨v, rfl⟩
        | error cs => exact absurd ⟨f, hf, cs, hchecked⟩ hnone
      simp only [settingFields, List.forall_mem_cons] at hok
      obtain ⟨⟨_, h1⟩, ⟨_, h2⟩, ⟨_, h3⟩, ⟨_, h4⟩, ⟨_, h5⟩, ⟨_, h6⟩, ⟨_, h7⟩, ⟨_, h8⟩, ⟨_, h9⟩, ⟨_, h10⟩, -⟩ := hok
      exact hnot _ _ _ _ _ _ _ _ _ _ h1 h2 h3 h4 h5 h6 h7 h8 h9 h10

/-- Everything that is wrong with the values that are found. -/
theorem complaints_checked (s : Sources) :
    (settingFields.flatMap fun f => complaintsOf (f.checked s)) =
      settingFields.filterMap fun f => f.complaint? (s.find? f.name) := by
  rw [List.filterMap_eq_flatMap_toList]
  exact congrArg (settingFields.flatMap ·) (funext fun f => complaintsOf_checked f s)

/-! ## The text of the file -/

namespace Settings

/-- The text of the file of settings; one that is not there is empty. -/
def readText (files : FileStore) : Except Failure (List Char) :=
  match files.readFile? filePath with
  | none => .ok []
  | some bytes => ((decodeUtf8 bytes).map unifyLines).mapError .encoding

theorem readFile_eq (files : FileStore) (environment : Environment) :
    readFile files environment = (readText files).map (Dotenv.read environment) := by
  unfold readFile readText
  cases files.readFile? filePath with
  | none => rfl
  | some bytes =>
    dsimp only
    cases decodeUtf8 bytes with
    | error f => rfl
    | ok cs => rfl

/-- What settings are read from. -/
structure Given where
  arguments : List (String × Datum)
  environment : Environment
  text : List Char

/-- The sources with the entries that the text has in the environment. -/
def Given.sources (g : Given) : Sources where
  arguments := g.arguments
  environment := g.environment
  file := (Dotenv.read g.environment g.text).entries

theorem Given.distinct {g : Given} (h : (g.environment.map Prod.fst).Nodup) : g.sources.Distinct where
  environment := by
    rw [Sources.environmentTexts, List.map_map]
    exact h
  file := by
    rw [Sources.fileTexts, List.map_map]
    exact Dotenv.nodup_entries g.environment g.text

/-- Two times the same is given for a setting, and without references. -/
structure Given.SameFor (g g' : Given) (n : SettingName) : Prop where
  arguments : g.arguments.filter (fun a => n.isArgument a.1) = g'.arguments.filter fun a => n.isArgument a.1
  environment : g.environment.filter (fun a => n.isSpelling a.1) = g'.environment.filter fun a => n.isSpelling a.1
  lines : (Dotenv.written g.text).filter (fun e => n.isSpelling e.name) =
    (Dotenv.written g'.text).filter fun e => n.isSpelling e.name
  plain : ∀ e ∈ Dotenv.written g.text, n.isSpelling e.name = true → ∀ v, e.value = some v → ¬ Dotenv.HasReference v

/-- **What is the same for a setting** leads to the same value. -/
theorem Given.SameFor.find?_eq {g g' : Given} {n : SettingName} (h : g.SameFor g' n) :
    g.sources.find? n = g'.sources.find? n := by
  have hplain' : ∀ e ∈ Dotenv.written g'.text, n.isSpelling e.name = true →
      ∀ v, e.value = some v → ¬ Dotenv.HasReference v := by
    intro e he hname
    have hmem : e ∈ (Dotenv.written g.text).filter fun e => n.isSpelling e.name := by
      rw [h.lines]
      exact List.mem_filter.mpr ⟨he, hname⟩
    exact h.plain e (List.mem_filter.mp hmem).1 hname
  -- no reference is replaced in the lines that count, so that their entries are the written ones
  have hfile : (g.sources.file.filter fun e => n.isSpelling e.name) =
      g'.sources.file.filter fun e => n.isSpelling e.name := by
    show (Dotenv.read g.environment g.text).entries.filter _ = (Dotenv.read g'.environment g'.text).entries.filter _
    rw [Dotenv.filter_entries n.isSpelling _ _ h.plain, Dotenv.filter_entries n.isSpelling _ _ hplain', h.lines]
  have habout : g.sources.about n = g'.sources.about n := by
    rw [Sources.about, Sources.about, hfile]
    exact congrArg₂ (Sources.mk · · _) h.arguments h.environment
  rw [← Sources.find?_about, habout, Sources.find?_about]

/-! ## Reading the settings -/

/-- What is wrong with the values of settings that could not be had. -/
def complaints : Except Failure Settings → List Complaint
  | .error (.invalid i) => i.complaints
  | _ => []

variable {files : FileStore} {g : Given}

theorem load_of_readText_error {fault : Failure} (h : readText files = .error fault) (environment : Environment)
    (arguments : List (String × Datum)) : load files environment arguments = .error fault := by
  rw [load, readFile_eq, h]
  rfl

/-- **Reading the settings** gives all of them, or everything that is wrong with the values that are found. -/
theorem load_cases (h : readText files = .ok g.text) :
    (∃ st, load files g.environment g.arguments = .ok st ∧
      ∀ f ∈ settingFields, f.complaint? (g.sources.find? f.name) = none ∧
        f.Holds (g.sources.find? f.name) (f.get st)) ∨
    load files g.environment g.arguments =
      .error (.invalid ⟨"Settings", settingFields.filterMap fun f => f.complaint? (g.sources.find? f.name)⟩) ∧
        ∃ f ∈ settingFields, (f.complaint? (g.sources.find? f.name)).isSome = true := by
  have hload : load files g.environment g.arguments = (ofSources g.sources).mapError .invalid := by
    rw [load, readFile_eq, h]
    rfl
  rw [hload]
  rcases ofSources_cases g.sources with ⟨st, hok, hchecked⟩ | ⟨herror, f, hf, cs, hchecked⟩
  · refine .inl ⟨st, by rw [hok]; rfl, fun f hf => ?_⟩
    exact checked_eq_ok (hchecked f hf)
  · refine .inr ⟨?_, f, hf, checked_eq_error hchecked⟩
    rw [herror, complaints_checked]
    rfl

/-- What is wrong with a setting is decided by the value that is found for it. -/
theorem mem_complaints_load (h : readText files = .ok g.text) {f : SettingField} (hf : f ∈ settingFields)
    {c : Complaint} (hc : f.IsAbout c) :
    c ∈ complaints (load files g.environment g.arguments) ↔ f.complaint? (g.sources.find? f.name) = some c := by
  rcases load_cases h with ⟨st, hok, hall⟩ | ⟨herror, -⟩
  · rw [hok, (hall f hf).1]
    exact ⟨nofun, nofun⟩
  · rw [herror]
    refine ⟨fun hmem => ?_, fun hsome => List.mem_filterMap.mpr ⟨f, hf, hsome⟩⟩
    -- the complaint may be another setting's, but none has a name in common with this one
    obtain ⟨f', hf', hsome⟩ := List.mem_filterMap.mp hmem
    obtain rfl := eq_of_isAbout hf hf' hc (isAbout_of_complaint? hsome)
    exact hsome

/-- A setting has one value. -/
theorem eq_of_holds {f : SettingField} {w : Option (String × Datum)} {v v' : f.Value} (h : f.Holds w v)
    (h' : f.Holds w v') : v = v' := by
  rcases w with _ | ⟨k, d⟩
  · exact Eq.trans h (Eq.symm h')
  · exact Except.ok.inj (Eq.trans (Eq.symm h) h')

/-- What is the same for a setting is answered the same. -/
theorem load_of_sameFor {files' : FileStore} (g g' : Given) (h : readText files = .ok g.text)
    (h' : readText files' = .ok g'.text) {f : SettingField} (hf : f ∈ settingFields) (hsame : g.SameFor g' f.name) :
    (∀ c, f.IsAbout c → (c ∈ complaints (load files g.environment g.arguments) ↔
      c ∈ complaints (load files' g'.environment g'.arguments))) ∧
    ∀ st st', load files g.environment g.arguments = .ok st → load files' g'.environment g'.arguments = .ok st' →
      f.get st = f.get st' := by
  constructor
  · intro c hc
    rw [mem_complaints_load h hf hc, mem_complaints_load h' hf hc, hsame.find?_eq]
  · intro st st' hst hst'
    rcases load_cases h with ⟨left, hok, hall⟩ | ⟨herror, -⟩
    · rcases load_cases h' with ⟨left', hok', hall'⟩ | ⟨herror', -⟩
      · obtain rfl := Except.ok.inj (hok.symm.trans hst)
        obtain rfl := Except.ok.inj (hok'.symm.trans hst')
        have hheld := (hall f hf).2
        rw [hsame.find?_eq] at hheld
        exact eq_of_holds hheld (hall' f hf).2
      · cases herror'.symm.trans hst'
    · cases herror.symm.trans hst

end Settings

open Settings

/-- **The priority of sources.** Where the file of settings is a text and each setting is named once in every source,
    exactly one value counts for each setting: that of the argument, else of the variable, else of the entry, else the
    default. There are no settings if and only if one of these values cannot be converted or is out of its bound; then
    there is one complaint for each such setting, in their order. Otherwise each setting has its value. What is given
    for other settings matters to neither, as long as no entry refers to them. A file that is no text is a failure of
    its own. -/
theorem settings_priority (files : FileStore) (environment : Environment) (arguments : List (String × Datum)) :
    (∀ fault, readText files = .error fault → load files environment arguments = .error fault) ∧
    ∀ text, readText files = .ok text →
      let g : Given := ⟨arguments, environment, text⟩
      let outcome := load files environment arguments
      ((environment.map Prod.fst).Nodup → (∀ f ∈ settingFields, g.sources.Unambiguous f.name) →
        ∃ winner : SettingName → Option (String × Datum),
          (∀ f ∈ settingFields, ∀ w, g.sources.Wins f.name w ↔ w = winner f.name) ∧
          ((∃ e, outcome = .error e) ↔
            ∃ f ∈ settingFields, ∃ k d p, winner f.name = some (k, d) ∧ f.convert d = .error p) ∧
          (∀ e, outcome = .error e →
            e = .invalid ⟨"Settings", settingFields.filterMap fun f => f.complaint? (winner f.name)⟩) ∧
          ∀ st, outcome = .ok st → ∀ f ∈ settingFields, f.Holds (winner f.name) (f.get st)) ∧
      ∀ files' environment' arguments' text', readText files' = .ok text' →
        ∀ f ∈ settingFields, g.SameFor ⟨arguments', environment', text'⟩ f.name →
          (∀ c, f.IsAbout c → (c ∈ complaints outcome ↔ c ∈ complaints (load files' environment' arguments'))) ∧
          ∀ st st', outcome = .ok st → load files' environment' arguments' = .ok st' → f.get st = f.get st' := by
  refine ⟨fun fault h => load_of_readText_error h environment arguments, ?_⟩
  intro text h g outcome
  refine ⟨?_, ?_⟩
  · intro hnodup hunambiguous
    refine ⟨g.sources.find?, fun f hf w => Sources.wins_iff (Given.distinct hnodup) (hunambiguous f hf), ?_⟩
    rcases load_cases (g := g) h with ⟨left, hok, hall⟩ | ⟨herror, hfails⟩
    · have houtcome : outcome = .ok left := hok
      refine ⟨?_, ?_, ?_⟩
      · rw [houtcome]
        refine ⟨nofun, ?_⟩
        rintro ⟨f, hf, k, d, p, hfound, hconvert⟩
        have hsome := isSome_complaint?_iff.mpr ⟨k, d, p, hfound, hconvert⟩
        rw [(hall f hf).1] at hsome
        cases hsome
      · rw [houtcome]
        nofun
      · rw [houtcome]
        rintro st ⟨⟩ f hf
        exact (hall f hf).2
    · have houtcome : outcome = .error _ := herror
      refine ⟨?_, ?_, ?_⟩
      · obtain ⟨f, hf, hsome⟩ := hfails
        exact ⟨fun _ => ⟨f, hf, isSome_complaint?_iff.mp hsome⟩, fun _ => ⟨_, houtcome⟩⟩
      · rw [houtcome]
        rintro e ⟨⟩
        rfl
      · rw [houtcome]
        nofun
  · intro files' environment' arguments' text' h' f hf hsame
    exact load_of_sameFor g ⟨arguments', environment', text'⟩ h h' hf hsame

/-! ## A number of runs from every source -/

/-- A working directory with a file of settings. -/
def withSettings (bytes : List UInt8) : FileStore :=
  FileStore.empty.put (FileStore.workingDirectory ++ [".env"]) (.file bytes)

theorem readFile?_withSettings (bytes : List UInt8) : (withSettings bytes).readFile? filePath = some bytes := rfl

theorem readText_withSettings {text : List Char} (h : unifyLines text = text) :
    readText (withSettings (encodeUtf8 text)) = .ok text := by
  rw [readText, readFile?_withSettings]
  dsimp only
  rw [decodeUtf8_encodeUtf8, Except.map, h]
  rfl

/-- The number in the environment and the one in the file cannot be used, but an argument counts before them. -/
def threeRuns : Given where
  arguments := [("benchmark_runs", .int 3)]
  environment := [("Benchmark_Runs", "many")]
  text := "benchmark_runs=0\nLOG_LEVEL=debug # quiet".toList

/-- The same is given for the number of runs, and something that cannot be used for the number of items. -/
def threeRunsFewItems : Given where
  arguments := [("BENCHMARK_ITEMS", .int (-1)), ("benchmark_runs", .int 3)]
  environment := [("LOG_LEVEL", "error"), ("Benchmark_Runs", "many")]
  text := "export benchmark_runs='0'\nJSON_LOGS=no".toList

def runsField : SettingField :=
  ⟨⟨"benchmark_runs", "BENCHMARK_RUNS"⟩, Option Int, none, Settings.optionalCount 1, Settings.runs⟩

def levelField : SettingField :=
  ⟨⟨"log_level", "LOG_LEVEL"⟩, String, "INFO", Datum.asText, Settings.logLevel⟩

theorem fileTexts_threeRuns :
    threeRuns.sources.fileTexts = [("benchmark_runs", some "0"), ("LOG_LEVEL", some "debug")] := by decide +kernel

theorem unambiguous_threeRuns : ∀ f ∈ settingFields, threeRuns.sources.Unambiguous f.name := by
  have henvironment : ∀ f ∈ settingFields, Sources.NamedOnce [("Benchmark_Runs", some "many")] f.name := by
    decide +kernel
  have hfile : ∀ f ∈ settingFields,
      Sources.NamedOnce [("benchmark_runs", some "0"), ("LOG_LEVEL", some "debug")] f.name := by decide +kernel
  intro f hf
  refine ⟨?_, henvironment f hf, fileTexts_threeRuns ▸ hfile f hf⟩
  intro a ha b hb _ _
  exact (List.mem_singleton.mp ha).trans (List.mem_singleton.mp hb).symm

theorem sameFor_threeRuns : threeRuns.SameFor threeRunsFewItems runsField.name where
  arguments := rfl
  environment := by decide +kernel
  lines := by decide +kernel
  plain := by
    have hplain : ∀ e ∈ Dotenv.written threeRuns.text, runsField.name.isSpelling e.name = true →
        ∀ v ∈ e.value, ¬ Dotenv.HasReference v := by decide +kernel
    exact hplain

/-- The argument decides, and goes on to decide when other settings are given otherwise. -/
theorem settings_priority_runs :
    (∃ st, load (withSettings (encodeUtf8 threeRuns.text)) threeRuns.environment threeRuns.arguments = .ok st ∧
      st.runs = some 3 ∧ st.logLevel = "debug") ∧
    ∀ c, runsField.IsAbout c → c ∉ complaints (load (withSettings (encodeUtf8 threeRunsFewItems.text))
      threeRunsFewItems.environment threeRunsFewItems.arguments) := by
  obtain ⟨hpriority, hothers⟩ := (settings_priority (withSettings (encodeUtf8 threeRuns.text)) threeRuns.environment
    threeRuns.arguments).2 threeRuns.text (readText_withSettings (by decide +kernel))
  obtain ⟨winner, hwins, -, -, hholds⟩ := hpriority (by decide +kernel) unambiguous_threeRuns
  have hok : (load (withSettings (encodeUtf8 threeRuns.text)) threeRuns.environment threeRuns.arguments).isOk := by
    decide +kernel
  obtain ⟨st, hst⟩ := exists_ok_of_isOk hok
  have hvalue {f : SettingField} (hf : f ∈ settingFields) {w : Option (String × Datum)}
      (hw : threeRuns.sources.Wins f.name w) : f.Holds w (f.get st) :=
    (hwins f hf w).mp hw ▸ hholds st hst f hf
  have hruns : runsField ∈ settingFields := by simp [settingFields, runsField]
  have hlevel : levelField ∈ settingFields := by simp [settingFields, levelField]
  refine ⟨⟨st, hst, ?_, ?_⟩, ?_⟩
  · have hthree : runsField.Holds (some ("benchmark_runs", .int 3)) st.runs :=
      hvalue hruns (.argument List.mem_cons_self rfl)
    exact (Except.ok.inj hthree).symm
  · have hentry : ("LOG_LEVEL", some "debug") ∈ threeRuns.sources.fileTexts := by
      rw [fileTexts_threeRuns]
      exact List.mem_cons_of_mem _ List.mem_cons_self
    have hdebug : levelField.Holds (some ("LOG_LEVEL", .text "debug")) st.logLevel :=
      hvalue hlevel (.file (by decide +kernel) (by decide +kernel) hentry rfl)
    exact (Except.ok.inj hdebug).symm
  · intro c hc hmem
    have hsame := (hothers _ threeRunsFewItems.environment threeRunsFewItems.arguments threeRunsFewItems.text
      (readText_withSettings (by decide +kernel)) runsField hruns sameFor_threeRuns).1 c hc
    have hmem := hsame.mpr hmem
    rw [hst] at hmem
    cases hmem

/-- **A file that is no text** is a failure even when no source has a value for any setting, and a name without a value
    counts for nothing. -/
theorem sources_without_values :
    (load (withSettings [0x23, 0x20, 0xff]) [] []).isOk = false ∧
      (∀ f ∈ settingFields, (Sources.mk [] [] []).Wins f.name none) ∧
      (Dotenv.read [] "APP_ENV".toList).entries.map DotenvEntry.name = ["APP_ENV"] ∧
      (load (withSettings (encodeUtf8 "APP_ENV".toList)) [] []).map Settings.appEnvironment = .ok "development" :=
  ⟨by decide +kernel, fun _ _ => .default nofun nofun nofun, by decide +kernel, by decide +kernel⟩

end RenderBench
