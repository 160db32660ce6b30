import RenderBench.Json.Basic
import RenderBench.Number.Shortest
import RenderBench.Text.Quoted

/-!
# `Item.Basic` — the records a table shows

An item is one row of the rendered table; it may carry the customer it belongs to.

## Contents
- `Customer`, `Item`: the records. The bounds of `id` and `count` are in their types.
- `fields`: the values by name, in the order of the record.
- `toJson`, `listing`: the two written forms.
- `Item.same`: equality of records, prices being compared as numbers.
-/

namespace RenderBench

/-- The count a number stands for; counts start over after 99. -/
def countOf (n : Nat) : Fin 100 := ⟨n % 100, Nat.mod_lt n (by decide)⟩

structure Customer where
  name : String
  address : String
  city : String
  zip : String
  email : String
  phone : String
  deriving DecidableEq

structure Item where
  id : Nat
  name : String
  valid : Bool
  description : String
  count : Fin 100
  price : Binary64
  customer : Option Customer
  deriving DecidableEq

namespace Customer

/-- The fields by name. -/
def fields (c : Customer) : List (String × String) :=
  [("name", c.name), ("address", c.address), ("city", c.city), ("zip", c.zip),
   ("email", c.email), ("phone", c.phone)]

def toJson (c : Customer) : Json := .object (c.fields.map fun (k, v) => (k, .text v))

/-- The fields as a listing: each name with its quoted value. -/
def listing (c : Customer) : List String := c.fields.map fun (k, v) => k ++ "=" ++ quoted v

/-- The record's name around the listing of its fields. -/
def literal (c : Customer) : String := "Customer(" ++ String.intercalate ", " c.listing ++ ")"

/-- The listing of the fields, by itself. -/
def display (c : Customer) : String := String.intercalate " " c.listing

end Customer

namespace Item

def toJson (i : Item) : Json :=
  .object [("id", .int i.id), ("name", .text i.name), ("valid", .bool i.valid),
    ("description", .text i.description), ("count", .int i.count.val), ("price", .real i.price),
    ("customer", Json.ofOption Customer.toJson i.customer)]

/-- The fields as a listing: each name with its value as a literal. -/
def listing (i : Item) : List String :=
  ["id=" ++ natText i.id, "name=" ++ quoted i.name,
   "valid=" ++ (if i.valid then "True" else "False"),
   "description=" ++ quoted i.description, "count=" ++ natText i.count.val,
   "price=" ++ i.price.text,
   "customer=" ++ (match i.customer with
     | some c => c.literal
     | none => "None")]

/-- The record's name around the listing of its fields. -/
def literal (i : Item) : String := "TableItem(" ++ String.intercalate ", " i.listing ++ ")"

/-- The listing of the fields, by itself. -/
def display (i : Item) : String := String.intercalate " " i.listing

/-- Whether two items agree in every field; a price that is no number agrees with none. -/
def same (i j : Item) : Bool :=
  i.id == j.id && i.name == j.name && i.valid == j.valid && i.description == j.description &&
    i.count == j.count && i.price.eqv j.price && i.customer == j.customer

end Item

end RenderBench
