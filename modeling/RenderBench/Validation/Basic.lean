import RenderBench.Number.Decimal

/-!
# `Validation.Basic` — what can be wrong with a record

Validating a record collects every complaint instead of stopping at the first one. A complaint names the
place of a value and what is wrong with it.

## Contents
- `Problem`, `Problem.kind`, `Problem.message`: the causes and their wording.
- `Complaint`, `Invalid`: a problem at a place, and all complaints about a record.
- `complaintsOf`: the complaints of one checked field.
-/

namespace RenderBench

inductive Problem where
  | missing
  | intParsing
  | intSize
  | intType
  | intFromReal
  | notFinite
  | realParsing
  | realType
  | boolParsing
  | boolType
  | textType
  | recordType (record : String)
  | below (bound : Int)
  | notBelow (bound : Int)
  | frozen
  deriving DecidableEq

def Problem.kind : Problem → String
  | .missing => "missing"
  | .intParsing => "int_parsing"
  | .intSize => "int_parsing_size"
  | .intType => "int_type"
  | .intFromReal => "int_from_float"
  | .notFinite => "finite_number"
  | .realParsing => "float_parsing"
  | .realType => "float_type"
  | .boolParsing => "bool_parsing"
  | .boolType => "bool_type"
  | .textType => "string_type"
  | .recordType _ => "model_type"
  | .below _ => "greater_than_equal"
  | .notBelow _ => "less_than"
  | .frozen => "frozen_instance"

def Problem.message : Problem → String
  | .missing => "Field required"
  | .intParsing => "Input should be a valid integer, unable to parse string as an integer"
  | .intSize => "Unable to parse input string as an integer, exceeded maximum size"
  | .intType => "Input should be a valid integer"
  | .intFromReal => "Input should be a valid integer, got a number with a fractional part"
  | .notFinite => "Input should be a finite number"
  | .realParsing => "Input should be a valid number, unable to parse string as a number"
  | .realType => "Input should be a valid number"
  | .boolParsing => "Input should be a valid boolean, unable to interpret input"
  | .boolType => "Input should be a valid boolean"
  | .textType => "Input should be a valid string"
  | .recordType r => "Input should be a valid dictionary or instance of " ++ r
  | .below b => "Input should be greater than or equal to " ++ intText b
  | .notBelow b => "Input should be less than " ++ intText b
  | .frozen => "Instance is frozen"

/-- A problem and the names that lead to the value it is about. -/
structure Complaint where
  place : List String
  problem : Problem
  deriving DecidableEq

/-- Everything wrong with a record, in the order of its fields. -/
structure Invalid where
  record : String
  complaints : List Complaint
  deriving DecidableEq

/-- A field that was checked: its value, or what is wrong with it. -/
abbrev Checked (α : Type) := Except (List Complaint) α

def complaintsOf {α : Type} : Checked α → List Complaint
  | .ok _ => []
  | .error cs => cs

/-- A problem with the value under one name. -/
def Problem.at (name : String) (p : Problem) : List Complaint := [⟨[name], p⟩]

/-- The result of a conversion as that of the field under a name. -/
def checkedAt {α : Type} (name : String) (r : Except Problem α) : Checked α :=
  r.mapError (Problem.at name)

end RenderBench
