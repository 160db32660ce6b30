import RenderBench.Number.Binary64

/-!
# `Json.Basic` — documents

A JSON document. Whole numbers and real numbers are kept apart, members stay in the order given.
-/

namespace RenderBench

inductive Json where
  | null
  | bool (b : Bool)
  | int (i : Int)
  | real (x : Binary64)
  | text (s : String)
  | list (elements : List Json)
  | object (members : List (String × Json))

namespace Json

instance : Inhabited Json := ⟨.null⟩

/-- The value of a member of an object; the last one of a name counts. -/
def get? (name : String) : Json → Option Json
  | .object members => members.reverse.lookup name
  | _ => none

/-- A value that may be absent. -/
def ofOption {α : Type} (f : α → Json) : Option α → Json
  | some a => f a
  | none => .null

def ofNat (n : Nat) : Json := .int n

end Json

end RenderBench
