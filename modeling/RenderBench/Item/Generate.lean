import RenderBench.Item.Validation

/-!
# `Item.Generate` — the items a session renders

Every field of a generated item is a function of its index, so two sessions with the same arguments
render equal data.

## Contents
- `Shape`: with or without a customer.
- `makeItem`: the item at an index.
- `firstItems`, `generateRange`: the items from index 0 on.
-/

namespace RenderBench

/-- What generated items carry. -/
inductive Shape where
  | flat
  | customer
  deriving DecidableEq

namespace Shape

def name : Shape → String
  | .flat => "flat"
  | .customer => "customer"

def all : List Shape := [.flat, .customer]

def ofName? (s : String) : Option Shape := all.find? fun shape => shape.name == s

/-- The names of all shapes, separated by commas. -/
def listing : String := String.intercalate ", " (all.map name)

end Shape

/-- What makes a range of items impossible. -/
inductive GenerateError where
  | negativeCount (n : Int)
  | unknownShape (name : String)
  deriving DecidableEq

def GenerateError.message : GenerateError → String
  | .negativeCount n => "item count must be non-negative, got " ++ intText n
  | .unknownShape name =>
    "Unknown item shape '" ++ name ++ "'. Available: " ++ Shape.listing

/-- The price of every generated item. -/
def generatedPrice : Binary64 := .ofRatio false 10001 100

def makeCustomer (i : Int) : Customer :=
  let n := intText i
  { name := "Customer " ++ n
    address := "Customer Street " ++ n
    city := "City " ++ n
    zip := n
    email := "Cust.omer" ++ n ++ "@email.com"
    phone := n }

/-- The item at a non-negative index. -/
def itemAt (n : Nat) (shape : Shape) : Item :=
  { id := n
    name := "item " ++ natText n
    valid := true
    description := "Description " ++ natText n
    count := countOf n
    price := generatedPrice
    customer := match shape with
      | .customer => some (makeCustomer n)
      | .flat => none }

/-- The item at an index; below zero there is none, since identifiers are not negative. -/
def makeItem (i : Int) (shape : Shape) : Except Invalid Item :=
  if i < 0 then .error ⟨"TableItem", (Problem.below 0).at "id"⟩ else .ok (itemAt i.toNat shape)

/-- The first `n` items of a shape. -/
def firstItems (n : Nat) (shape : Shape) : List Item := (List.range n).map fun i => itemAt i shape

/-- The first `n` items of the shape with a name. -/
def generateRange (n : Int) (shape : String) : Except GenerateError (List Item) :=
  if n < 0 then .error (.negativeCount n)
  else match Shape.ofName? shape with
    | none => .error (.unknownShape shape)
    | some s => .ok (firstItems n.toNat s)

end RenderBench
