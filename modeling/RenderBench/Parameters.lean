import RenderBench.Datum.Basic
import RenderBench.RunConfig

/-!
# `Parameters` — the parameters of a session by name

Callers override the values of a variant by name, with values of any kind: nothing is converted and nothing is
checked but the names. A null counts as not given, and a number of items that is null in the end is the number
of runs.

## Contents
- `NamedValues`: values by name.
- `RunConfig.named`, `Variant.named`: what parameters and variants give.
- `parametersOf`: a variant's values under overrides.
-/

namespace RenderBench

/-- Values by name. -/
abbrev NamedValues := List (String × Datum)

def Datum.isNull : Datum → Bool
  | .null => true
  | _ => false

def Datum.ofOption {α : Type} (f : α → Datum) (a : Option α) : Datum := a.elim .null f

/-- The parameters of a session by name. -/
def RunConfig.named (c : RunConfig) : NamedValues :=
  [("template_path", .text c.templatePath), ("sub_template", .text c.subTemplate), ("item_count", .int c.itemCount),
    ("run_count", .int c.runCount), ("shape", .text c.shape), ("warmup_runs", .int c.warmupRuns),
    ("sample_memory", .bool c.sampleMemory), ("trace_allocations", .bool c.traceAllocations),
    ("label", .text c.label)]

/-- What a parameter is that nobody gives. -/
def defaultParameters : NamedValues := ({} : RunConfig).named

def parameterNames : List String := defaultParameters.map Prod.fst

/-- The parameters that a variant gives, by name. -/
def Variant.named (v : Variant) : NamedValues :=
  [("item_count", .ofOption .int v.itemCount), ("run_count", .int v.runCount), ("shape", .text v.shape),
    ("label", .text v.name)]

/-- The values of names, the first of each counting; without a number of items there is one per run. -/
def countItems (values : NamedValues) : NamedValues :=
  if ((values.lookup "item_count").getD .null).isNull then
    ("item_count", (values.lookup "run_count").getD .null) :: values
  else values

/-- The parameters that a variant's values make under overrides, each of which has to name a parameter unless it is
    null. Of several overrides of a name the last one counts. -/
def parametersOf (v : Variant) (overrides : NamedValues) : Except ArgumentError NamedValues := do
  let given := overrides.filter fun o => !o.2.isNull
  checkArguments "RunConfig" [] parameterNames (given.map Prod.fst)
  let values := countItems (given.reverse ++ v.named)
  return defaultParameters.map fun (n, d) => (n, (values.lookup n).getD d)

end RenderBench
