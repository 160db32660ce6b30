import RenderBench.Template.Access

/-!
# `Template.FilterArguments` — the filters there are and their arguments

Every filter names its parameters; arguments are given by position or by name.

## Contents
- `FilterSignature`, `filterSignatures`, `isFilter`: the filters.
- `bindArguments`: the argument of each parameter.
-/

namespace RenderBench.Template

structure FilterSignature where
  /-- The function that messages name. -/
  function : String
  /-- How many arguments the function takes before the input. -/
  hidden : Nat := 0
  required : List String := []
  optional : List String := []
  /-- Whether any further arguments are taken. -/
  open_ : Bool := false
  /-- Whether the function takes its input and nothing else, not even by name. -/
  bare : Bool := false

/-- The filters with their parameters after the input. -/
def filterSignatures : List (String × FilterSignature) :=
  [("abs", { function := "abs", bare := true }),
   ("capitalize", { function := "do_capitalize" }),
   ("count", { function := "len", bare := true }),
   ("d", { function := "do_default", optional := ["default_value", "boolean"] }),
   ("default", { function := "do_default", optional := ["default_value", "boolean"] }),
   ("dictsort", { function := "do_dictsort", optional := ["case_sensitive", "by", "reverse"] }),
   ("e", { function := "escape" }),
   ("escape", { function := "escape" }),
   ("first", { function := "sync_do_first", hidden := 1 }),
   ("float", { function := "do_float", optional := ["default"] }),
   ("int", { function := "do_int", optional := ["default", "base"] }),
   ("join", { function := "sync_do_join", hidden := 1, optional := ["d", "attribute"] }),
   ("last", { function := "do_last", hidden := 1 }),
   ("length", { function := "len", bare := true }),
   ("list", { function := "sync_do_list" }),
   ("lower", { function := "do_lower" }),
   ("map", { function := "sync_do_map", hidden := 1, open_ := true }),
   ("max", { function := "do_max", hidden := 1, optional := ["case_sensitive", "attribute"] }),
   ("min", { function := "do_min", hidden := 1, optional := ["case_sensitive", "attribute"] }),
   ("reject", { function := "sync_do_reject", hidden := 1, open_ := true }),
   ("rejectattr", { function := "sync_do_rejectattr", hidden := 1, open_ := true }),
   ("replace", { function := "do_replace", hidden := 1, required := ["old", "new"],
                 optional := ["count"] }),
   ("reverse", { function := "do_reverse" }),
   ("round", { function := "do_round", optional := ["precision", "method"] }),
   ("safe", { function := "do_mark_safe" }),
   ("select", { function := "sync_do_select", hidden := 1, open_ := true }),
   ("selectattr", { function := "sync_do_selectattr", hidden := 1, open_ := true }),
   ("sort", { function := "do_sort", hidden := 1,
              optional := ["reverse", "case_sensitive", "attribute"] }),
   ("string", { function := "soft_str" }),
   ("sum", { function := "sync_do_sum", hidden := 1, optional := ["attribute", "start"] }),
   ("title", { function := "do_title" }),
   ("trim", { function := "do_trim", optional := ["chars"] }),
   ("upper", { function := "do_upper" })]

def isFilter (name : String) : Bool := (filterSignatures.lookup name).isSome

/-- The argument of each parameter: by position first, then by name. -/
def bindArguments (s : FilterSignature) (args : List Value) (named : List (String × Value)) :
    Eval (List (Option Value)) :=
  let params := s.required ++ s.optional
  if s.bare ∧ named ≠ [] then .error (.noNamedArguments s.function)
  else if s.bare ∧ args ≠ [] then .error (.oneArgument s.function (args.length + 1))
  else if params.length < args.length then
    .error (.tooManyArguments s.function (s.hidden + 1 + s.required.length)
      (s.hidden + 1 + params.length) (s.hidden + 1 + args.length))
  else
    match named.find? fun (n, _) => !params.contains n with
    | some (n, _) => .error (.unexpectedNamed s.function n)
    | none =>
      match (params.take args.length).find? fun p => (named.lookup p).isSome with
      | some p => .error (.repeatedArgument s.function p)
      | none =>
        let bound := args.map some ++ (params.drop args.length).map fun p => named.lookup p
        match (s.required.zip bound).filter fun (_, v) => v.isNone with
        | [] => .ok bound
        | missing => .error (.missingArguments s.function (missing.map Prod.fst))

/-- The argument at a place, or its default. -/
def argumentOr (bound : List (Option Value)) (k : Nat) (default : Value) : Value :=
  ((bound[k]?).getD none).getD default

end RenderBench.Template
