import RenderBench.Text.Quoted

/-!
# `Validation.Arguments` — building a record from named values

A record is built from values by name: every name has to be a field, and every field without a default
has to be named.

## Contents
- `ArgumentCause`, `ArgumentError`, `ArgumentError.message`: what can be wrong.
- `checkArguments`: the first thing that is wrong with a list of names.
-/

namespace RenderBench

inductive ArgumentCause where
  | unexpected (name : String)
  /-- The record that is built has a name too, which is given by position. -/
  | repeated (name : String)
  | missing (names : List String)
  deriving DecidableEq

/-- What is wrong with a name that is no field. -/
def ArgumentCause.ofName (name : String) : ArgumentCause :=
  if name = "self" then .repeated name else .unexpected name

/-- Why a record cannot be built from the names given. -/
structure ArgumentError where
  record : String
  cause : ArgumentCause
  deriving DecidableEq

/-- Names in a row, the last one after "and". -/
def enumeration : List String → String
  | [] => ""
  | [a] => a
  | [a, b] => a ++ " and " ++ b
  | names => String.intercalate ", " names.dropLast ++ ", and " ++ names.getLast?.getD ""

def ArgumentError.message (e : ArgumentError) : String :=
  e.record ++ ".__init__() " ++
    match e.cause with
    | .unexpected name => "got an unexpected keyword argument " ++ quoted name
    | .repeated name => "got multiple values for argument " ++ quoted name
    | .missing names =>
      "missing " ++ natText names.length ++ " required positional argument" ++
        (if names.length = 1 then "" else "s") ++ ": " ++ enumeration (names.map quoted)

/-- The first name that is no field, else all fields that are required and not named. -/
def checkArguments (record : String) (required optional given : List String) :
    Except ArgumentError Unit :=
  match given.find? fun n => !(required.contains n || optional.contains n) with
  | some n => .error ⟨record, .ofName n⟩
  | none =>
    match required.filter fun n => !given.contains n with
    | [] => .ok ()
    | missing => .error ⟨record, .missing missing⟩

end RenderBench
