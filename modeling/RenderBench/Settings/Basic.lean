import RenderBench.FileStore.Basic
import RenderBench.Settings.Dotenv
import RenderBench.Text.Blank
import RenderBench.Text.Utf8
import RenderBench.Validation.Convert

/-!
# `Settings.Basic` — settings from arguments, the environment and a file

Every setting has a value from the first source that names it: arguments, then the environment, then the
file, then a default. A setting goes by the name of its field or by another name, which counts first.

## Contents
- `Settings`: the values.
- `SettingName`, `Sources`, `Sources.find?`: where a value comes from, and under which name.
- `Settings.ofSources`: the values, or everything that is wrong with them.
- `Settings.load`: the values in an environment and a file store.
-/

namespace RenderBench

structure Settings where
  appEnvironment : String := "development"
  logLevel : String := "INFO"
  jsonLogs : Bool := false
  templatePath : String := "templates/List.html"
  subTemplate : String := "table"
  variant : String := "table"
  items : Option Int := none
  runs : Option Int := none
  warmupRuns : Int := 0
  resultsDirectory : String := "results"
  deriving DecidableEq

/-- Variables of the environment, each once. -/
abbrev Environment := List (String × String)

/-- The names of a setting. -/
structure SettingName where
  field : String
  alias_ : String

/-- Where settings come from. -/
structure Sources where
  arguments : List (String × Datum) := []
  environment : Environment := []
  file : List DotenvEntry := []

namespace Sources

/-- The value of a name in any letter case; the last one counts. -/
def findCaseless (entries : List (String × Option String)) (name : String) : Option String :=
  ((entries.reverse.find? fun (k, _) => lower k == lower name).map Prod.snd).getD none

/-- The value that one source of texts has for a setting, and the name it is under. -/
def findIn (entries : List (String × Option String)) (n : SettingName) : Option (String × String) :=
  match findCaseless entries n.alias_ with
  | some v => some (n.alias_, v)
  | none => (findCaseless entries n.field).map fun v => (n.field, v)

/-- The value of a setting and the name it came under. Of two sources of texts the one that has the other
    name counts, if only one of them does. -/
def find? (s : Sources) (n : SettingName) : Option (String × Datum) :=
  match s.arguments.reverse.lookup n.alias_ with
  | some d => some (n.alias_, d)
  | none =>
    match s.arguments.reverse.lookup n.field with
    | some d => some (n.field, d)
    | none =>
      let found := [s.environment.map fun (k, v) => (k, some v),
        s.file.map fun e => (e.name, e.value)].filterMap fun entries => findIn entries n
      ((found.find? fun (k, _) => k == n.alias_).or found.head?).map fun (k, v) => (k, .text v)

end Sources

namespace Settings

/-- The checked value of a setting. -/
def setting {α : Type} (s : Sources) (field alias_ : String) (default : α)
    (convert : Datum → Except Problem α) : Checked α :=
  match s.find? ⟨field, alias_⟩ with
  | some (name, d) => checkedAt name (convert d)
  | none => .ok default

/-- A number that may be left open. -/
def optionalCount (bound : Int) : Datum → Except Problem (Option Int)
  | .null => .ok none
  | d => do return some (← atLeast bound (← d.asInt))

def ofSources (s : Sources) : Except Invalid Settings :=
  let d : Settings := {}
  let appEnvironment := setting s "app_env" "APP_ENV" d.appEnvironment Datum.asText
  let logLevel := setting s "log_level" "LOG_LEVEL" d.logLevel Datum.asText
  let jsonLogs := setting s "json_logs" "JSON_LOGS" d.jsonLogs Datum.asBool
  let templatePath :=
    setting s "template_path" "BENCHMARK_TEMPLATE_PATH" d.templatePath Datum.asText
  let subTemplate := setting s "sub_template" "BENCHMARK_SUB_TEMPLATE" d.subTemplate Datum.asText
  let variant := setting s "benchmark_variant" "BENCHMARK_VARIANT" d.variant Datum.asText
  let items := setting s "benchmark_items" "BENCHMARK_ITEMS" d.items (optionalCount 0)
  let runs := setting s "benchmark_runs" "BENCHMARK_RUNS" d.runs (optionalCount 1)
  let warmupRuns :=
    setting s "benchmark_warmup_runs" "BENCHMARK_WARMUP_RUNS" d.warmupRuns fun v => do
      atLeast 0 (← v.asInt)
  let resultsDirectory :=
    setting s "results_dir" "BENCHMARK_RESULTS_DIR" d.resultsDirectory Datum.asText
  match appEnvironment, logLevel, jsonLogs, templatePath, subTemplate, variant, items, runs,
      warmupRuns, resultsDirectory with
  | .ok appEnvironment, .ok logLevel, .ok jsonLogs, .ok templatePath, .ok subTemplate,
      .ok variant, .ok items, .ok runs, .ok warmupRuns, .ok resultsDirectory =>
    .ok { appEnvironment, logLevel, jsonLogs, templatePath, subTemplate, variant, items, runs,
          warmupRuns, resultsDirectory }
  | _, _, _, _, _, _, _, _, _, _ =>
    .error ⟨"Settings", complaintsOf appEnvironment ++ complaintsOf logLevel ++
      complaintsOf jsonLogs ++ complaintsOf templatePath ++ complaintsOf subTemplate ++
      complaintsOf variant ++ complaintsOf items ++ complaintsOf runs ++
      complaintsOf warmupRuns ++ complaintsOf resultsDirectory⟩

/-- Why there are no settings. -/
inductive Failure where
  | invalid (i : Invalid)
  | encoding (f : Utf8Fault)
  deriving DecidableEq

/-- The path of the file of settings. -/
def filePath : FilePath := FilePath.ofString ".env"

/-- The file of settings; one that is not there is empty. -/
def readFile (files : FileStore) (environment : Environment) : Except Failure Dotenv :=
  match files.readFile? filePath with
  | none => .ok ⟨[], []⟩
  | some bytes =>
    match decodeUtf8 bytes with
    | .error f => .error (.encoding f)
    | .ok cs => .ok (Dotenv.read environment (unifyLines cs))

/-- The settings in an environment and a file store, under arguments. -/
def load (files : FileStore) (environment : Environment) (arguments : List (String × Datum)) :
    Except Failure Settings :=
  match readFile files environment with
  | .error f => .error f
  | .ok file =>
    (ofSources { arguments, environment, file := file.entries }).mapError .invalid

end Settings

end RenderBench
