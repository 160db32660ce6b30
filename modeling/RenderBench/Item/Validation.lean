import RenderBench.Item.Basic
import RenderBench.Validation.Convert

/-!
# `Item.Validation` — items from unchecked data

Every field is converted and bounded on its own; the record is built when all of them pass, and else all
complaints are reported in the order of the fields. Names that are no fields are ignored.

## Contents
- `Customer.validate`, `Item.validate`: records from data.
- `frozenAssignment`: the refusal of every assignment to a finished record.
-/

namespace RenderBench

/-- The checked value of a field that has to be present. -/
def required {α : Type} (entries : List (String × Datum)) (name : String)
    (convert : Datum → Except Problem α) : Checked α :=
  match entries.lookup name with
  | some d => checkedAt name (convert d)
  | none => .error (Problem.missing.at name)

/-- The checked value of a field that has a default. -/
def optional {α : Type} (entries : List (String × Datum)) (name : String) (default : α)
    (convert : Datum → Except Problem α) : Checked α :=
  match entries.lookup name with
  | some d => checkedAt name (convert d)
  | none => .ok default

namespace Customer

def validateFields (entries : List (String × Datum)) : Checked Customer :=
  let name := required entries "name" Datum.asText
  let address := required entries "address" Datum.asText
  let city := required entries "city" Datum.asText
  let zip := required entries "zip" Datum.asText
  let email := required entries "email" Datum.asText
  let phone := required entries "phone" Datum.asText
  match name, address, city, zip, email, phone with
  | .ok name, .ok address, .ok city, .ok zip, .ok email, .ok phone =>
    .ok { name, address, city, zip, email, phone }
  | _, _, _, _, _, _ =>
    .error (complaintsOf name ++ complaintsOf address ++ complaintsOf city ++ complaintsOf zip ++
      complaintsOf email ++ complaintsOf phone)

/-- A customer from data; the complaints name places below the given one. -/
def validateAt (place : List String) : Datum → Checked Customer
  | .dict entries =>
    (validateFields entries).mapError fun cs => cs.map fun c => { c with place := place ++ c.place }
  | _ => .error [⟨place, .recordType "Customer"⟩]

def validate (d : Datum) : Except Invalid Customer :=
  (validateAt [] d).mapError fun cs => ⟨"Customer", cs⟩

end Customer

namespace Item

/-- Identifiers are not negative. -/
def asId (d : Datum) : Except Problem Nat := do
  let i ← atLeast 0 (← d.asInt)
  return i.toNat

/-- Counts run from 0 to 99. -/
def asCount (d : Datum) : Except Problem (Fin 100) := do
  let i ← lessThan 100 (← atLeast 0 (← d.asInt))
  return countOf i.toNat

/-- The customer of an item: absent, null, or a record. -/
def customerField (entries : List (String × Datum)) : Checked (Option Customer) :=
  match entries.lookup "customer" with
  | none => .ok none
  | some .null => .ok none
  | some d => (Customer.validateAt ["customer"] d).map some

def validateFields (entries : List (String × Datum)) : Checked Item :=
  let id := required entries "id" asId
  let name := required entries "name" Datum.asText
  let valid := optional entries "valid" true Datum.asBool
  let description := required entries "description" Datum.asText
  let count := required entries "count" asCount
  let price := required entries "price" Datum.asReal
  let customer := customerField entries
  match id, name, valid, description, count, price, customer with
  | .ok id, .ok name, .ok valid, .ok description, .ok count, .ok price, .ok customer =>
    .ok { id, name, valid, description, count, price, customer }
  | _, _, _, _, _, _, _ =>
    .error (complaintsOf id ++ complaintsOf name ++ complaintsOf valid ++
      complaintsOf description ++ complaintsOf count ++ complaintsOf price ++
      complaintsOf customer)

def validate (d : Datum) : Except Invalid Item :=
  match d with
  | .dict entries => (validateFields entries).mapError fun cs => ⟨"TableItem", cs⟩
  | _ => .error ⟨"TableItem", [⟨[], .recordType "TableItem"⟩]⟩

end Item

/-- Assigning to a field of a validated record is refused whatever the name and the value. -/
def frozenAssignment (record name : String) : Invalid := ⟨record, Problem.frozen.at name⟩

end RenderBench
