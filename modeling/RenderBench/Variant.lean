import RenderBench.Item.Generate

/-!
# `Variant` — named kinds of sessions

A variant fixes the shape and the number of items, the number of runs and whether the report lines name
their unit.

## Contents
- `Variant`, `Variant.all`: the variants there are.
- `Variant.names`: their names in order.
- `Variant.ofName`: looking one up.
-/

namespace RenderBench

structure Variant where
  name : String
  description : String
  shape : String
  runCount : Int
  /-- The number of items; `none` stands for one item per run. -/
  itemCount : Option Int := none
  microsSuffix : Bool := true
  deriving DecidableEq

def defaultRunCount : Int := 1000

def defaultItemCount : Int := 1000

namespace Variant

/-- Items with a customer; the unit is named. -/
def table : Variant where
  name := "table"
  description := "Items with a nested customer record; (micros) suffix."
  shape := Shape.customer.name
  runCount := defaultRunCount
  itemCount := some defaultItemCount

/-- Flat items, one per run; plain numbers. -/
def tableFlat : Variant where
  name := "table-flat"
  description := "Flat items, one item per run; plain numbers in the report."
  shape := Shape.flat.name
  runCount := defaultRunCount
  microsSuffix := false

/-- The variants in the order of their names. -/
def all : List Variant := [table, tableFlat]

def names : List String := all.map name

/-- The names of all variants, separated by commas. -/
def listing : String := String.intercalate ", " names

end Variant

/-- A name that no variant has. -/
structure UnknownVariant where
  name : String
  deriving DecidableEq

def UnknownVariant.message (u : UnknownVariant) : String :=
  "Unknown variant '" ++ u.name ++ "'. Available: " ++ Variant.listing

def Variant.ofName (name : String) : Except UnknownVariant Variant :=
  match Variant.all.find? fun v => v.name == name with
  | some v => .ok v
  | none => .error ⟨name⟩

end RenderBench
