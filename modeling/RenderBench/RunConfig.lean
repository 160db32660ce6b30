import RenderBench.Validation.Arguments
import RenderBench.Variant

/-!
# `RunConfig` — the parameters of a session

A session's parameters are a variant's values under the overrides of a caller. An override without a
value counts as not given.

## Contents
- `RunConfig`: the parameters with their defaults.
- `Override`: a named value, for a parameter or for a name that is none.
- `RunConfig.override`: parameters under overrides.
- `RunConfig.underVariant`, `RunConfig.ofVariant`: a variant under overrides; without a number of items there is one per run.
-/

namespace RenderBench

structure RunConfig where
  templatePath : String := "templates/List.html"
  subTemplate : String := "table"
  itemCount : Int := defaultItemCount
  runCount : Int := defaultRunCount
  shape : String := Shape.customer.name
  warmupRuns : Int := 0
  sampleMemory : Bool := false
  traceAllocations : Bool := false
  label : String := "table"
  deriving DecidableEq

/-- A value for a parameter; `none` is no value. -/
inductive Override where
  | templatePath (path : Option String)
  | subTemplate (name : Option String)
  | itemCount (n : Option Int)
  | runCount (n : Option Int)
  | shape (name : Option String)
  | warmupRuns (n : Option Int)
  | sampleMemory (b : Option Bool)
  | traceAllocations (b : Option Bool)
  | label (text : Option String)
  /-- A name that is no parameter, and whether it has a value. -/
  | other (name : String) (given : Bool)

namespace Override

/-- Whether the override has a value. -/
def given : Override → Bool
  | .templatePath p => p.isSome
  | .subTemplate s => s.isSome
  | .itemCount n => n.isSome
  | .runCount n => n.isSome
  | .shape s => s.isSome
  | .warmupRuns n => n.isSome
  | .sampleMemory b => b.isSome
  | .traceAllocations b => b.isSome
  | .label t => t.isSome
  | .other _ g => g

/-- The name of an override that is no parameter and has a value. -/
def unknown? : Override → Option String
  | .other name true => some name
  | _ => none

end Override

namespace RunConfig

/-- The parameters after one override. -/
def apply (c : RunConfig) : Override → RunConfig
  | .templatePath p => { c with templatePath := p.getD c.templatePath }
  | .subTemplate s => { c with subTemplate := s.getD c.subTemplate }
  | .itemCount n => { c with itemCount := n.getD c.itemCount }
  | .runCount n => { c with runCount := n.getD c.runCount }
  | .shape s => { c with shape := s.getD c.shape }
  | .warmupRuns n => { c with warmupRuns := n.getD c.warmupRuns }
  | .sampleMemory b => { c with sampleMemory := b.getD c.sampleMemory }
  | .traceAllocations b => { c with traceAllocations := b.getD c.traceAllocations }
  | .label t => { c with label := t.getD c.label }
  | .other _ _ => c

/-- The refusal of the first override that names no parameter. -/
def checkNames (overrides : List Override) : Except ArgumentError Unit :=
  match overrides.findSome? Override.unknown? with
  | some name => .error ⟨"RunConfig", .ofName name⟩
  | none => .ok ()

/-- The given parameters under overrides. -/
def override (c : RunConfig) (overrides : List Override) : Except ArgumentError RunConfig :=
  (checkNames overrides).map fun _ => overrides.foldl apply c

/-- Whether an override gives the number of items. -/
def givesItemCount : Override → Bool
  | .itemCount (some _) => true
  | _ => false

/-- A variant's parameters under overrides; names that are no parameters do not count. The number of items,
    where neither gives it, is the number of runs that results. -/
def underVariant (v : Variant) (overrides : List Override) : RunConfig :=
  let start : RunConfig :=
    { itemCount := v.itemCount.getD 0, runCount := v.runCount, shape := v.shape, label := v.name }
  let c := overrides.foldl apply start
  if v.itemCount.isSome || overrides.any givesItemCount then c
  else { c with itemCount := c.runCount }

/-- A variant's parameters under overrides, each of which has to name a parameter. -/
def ofVariant (v : Variant) (overrides : List Override) : Except ArgumentError RunConfig :=
  (checkNames overrides).map fun _ => underVariant v overrides

end RunConfig

end RenderBench
