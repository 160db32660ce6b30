import RenderBench.Item.Generate
import RenderBench.Proofs.Json.Writing

/-!
# `Proofs.Item.Reading` — items are validated as what they are

Data whose fields have the kinds of a record's fields makes that record: the document of an item gives the item back,
and a generated item is what its values are validated to. Of these values only the index can be out of bounds.

## Contents
- `Customer.validateAt_toJson`, `Item.validate_toJson`: records from their own documents.
- `itemValues`, `makeItem_eq_validate`: a generated item is validated.
- `exists_read_toJson`: an item from the line it was written on.
-/

namespace RenderBench

/-! ## Customers -/

theorem Customer.validateAt_toJson (place : List String) (c : Customer) :
    Customer.validateAt place (Datum.ofJson c.toJson) = .ok c := by
  obtain ⟨name, address, city, zip, email, phone⟩ := c
  have hfields : Customer.validateFields [("name", .text name), ("address", .text address), ("city", .text city),
      ("zip", .text zip), ("email", .text email), ("phone", .text phone)] =
        .ok ⟨name, address, city, zip, email, phone⟩ := by
    simp [Customer.validateFields, required, List.lookup_cons, Datum.asText, checkedAt, Except.mapError]
  have hvalidate : Customer.validateAt place (.dict [("name", .text name), ("address", .text address),
      ("city", .text city), ("zip", .text zip), ("email", .text email), ("phone", .text phone)]) =
        .ok ⟨name, address, city, zip, email, phone⟩ := by
    rw [Customer.validateAt, hfields]
    rfl
  exact hvalidate

/-! ## Items -/

namespace Item

variable {id count customer : Datum} {name description : String} {valid : Bool} {price : Binary64}

/-- The data of an item, field by field, where only the index, the count and the customer are open. -/
def entries (id : Datum) (name : String) (valid : Bool) (description : String) (count : Datum) (price : Binary64)
    (customer : Datum) : List (String × Datum) :=
  [("id", id), ("name", .text name), ("valid", .bool valid), ("description", .text description), ("count", count),
    ("price", .real price), ("customer", customer)]

/-- Where the count and the customer pass, the index decides. -/
theorem validateFields_entries {k : Fin 100} {c : Option Customer} (hcount : asCount count = .ok k)
    (hcustomer : customerField [("customer", customer)] = .ok c) :
    validateFields (entries id name valid description count price customer) =
      (checkedAt "id" (asId id)).map fun n => ⟨n, name, valid, description, k, price, c⟩ := by
  have hlast : customerField (entries id name valid description count price customer) = .ok c := by
    rw [← hcustomer]
    simp [customerField, entries, List.lookup_cons]
  have hid : required (entries id name valid description count price customer) "id" asId =
      checkedAt "id" (asId id) := by
    simp [required, entries]
  have hname : required (entries id name valid description count price customer) "name" Datum.asText = .ok name := by
    simp [required, entries, List.lookup_cons, Datum.asText, checkedAt, Except.mapError]
  have hvalid : optional (entries id name valid description count price customer) "valid" true Datum.asBool =
      .ok valid := by
    simp [optional, entries, List.lookup_cons, Datum.asBool, checkedAt, Except.mapError]
  have hdescription : required (entries id name valid description count price customer) "description" Datum.asText =
      .ok description := by
    simp [required, entries, List.lookup_cons, Datum.asText, checkedAt, Except.mapError]
  have hcount' : required (entries id name valid description count price customer) "count" asCount = .ok k := by
    simp [required, entries, List.lookup_cons, hcount, checkedAt, Except.mapError]
  have hprice : required (entries id name valid description count price customer) "price" Datum.asReal =
      .ok price := by
    simp [required, entries, List.lookup_cons, Datum.asReal, checkedAt, Except.mapError]
  -- every field finds its value, and only the index is still open
  unfold validateFields
  rw [hid, hname, hvalid, hdescription, hcount', hprice, hlast]
  cases checkedAt "id" (asId id) with
  | ok n => rfl
  | error cs => simp [complaintsOf, Except.map]

/-- Data whose index, count and customer pass makes an item. -/
theorem validate_entries {n : Nat} {k : Fin 100} {c : Option Customer} (hid : asId id = .ok n)
    (hcount : asCount count = .ok k) (hcustomer : customerField [("customer", customer)] = .ok c) :
    Item.validate (.dict (entries id name valid description count price customer)) =
      .ok ⟨n, name, valid, description, k, price, c⟩ := by
  rw [Item.validate, validateFields_entries hcount hcustomer, hid]
  rfl

/-- Data of which only the index is refused. -/
theorem validate_entries_refused {p : Problem} {k : Fin 100} {c : Option Customer} (hid : asId id = .error p)
    (hcount : asCount count = .ok k) (hcustomer : customerField [("customer", customer)] = .ok c) :
    Item.validate (.dict (entries id name valid description count price customer)) =
      .error ⟨"TableItem", p.at "id"⟩ := by
  rw [Item.validate, validateFields_entries hcount hcustomer, hid]
  rfl

theorem asId_natCast (n : Nat) : asId (.int n) = .ok n := by
  have hle : ¬ (n : Int) < 0 := by omega
  simp only [asId, Datum.asInt, atLeast, hle, if_false, bind, Except.bind, pure, Except.pure, Int.toNat_natCast]

theorem asId_negative {i : Int} (h : i < 0) : asId (.int i) = .error (.below 0) := by
  simp only [asId, Datum.asInt, atLeast, h, if_true, bind, Except.bind]

theorem asCount_of_bounds {i : Int} (hlow : 0 ≤ i) (hhigh : i < 100) : asCount (.int i) = .ok (countOf i.toNat) := by
  have hle : ¬ i < 0 := by omega
  simp only [asCount, Datum.asInt, atLeast, lessThan, hle, hhigh, if_false, if_true, bind, Except.bind, pure,
    Except.pure]

theorem customerField_some (c : Customer) : customerField [("customer", Datum.ofJson c.toJson)] = .ok (some c) := by
  have hvalidate := Customer.validateAt_toJson ["customer"] c
  have hdict : ∃ es, Datum.ofJson c.toJson = .dict es := ⟨_, rfl⟩
  obtain ⟨es, hes⟩ := hdict
  rw [hes] at hvalidate ⊢
  simp [customerField, hvalidate, Except.map]

theorem customerField_null : customerField [("customer", .null)] = .ok none := by
  simp [customerField]

/-- **An item is validated from its own document**, and is the same again. -/
theorem validate_toJson (i : Item) : Item.validate (Datum.ofJson i.toJson) = .ok i := by
  obtain ⟨id, name, valid, description, count, price, customer⟩ := i
  have hcount : asCount (.int count.val) = .ok count := by
    have hlt := count.isLt
    rw [asCount_of_bounds (by omega) (by omega), Int.toNat_natCast]
    exact congrArg Except.ok (Fin.ext (Nat.mod_eq_of_lt hlt))
  cases customer with
  | none => exact validate_entries (asId_natCast id) hcount customerField_null
  | some c => exact validate_entries (asId_natCast id) hcount (customerField_some c)

/-- **The line of an item** is one line of printable characters, and makes the item again. -/
theorem exists_read_toJson (i : Item) :
    ∃ j, Json.read? i.toJson.write = some j ∧ Item.validate (Datum.ofJson j) = .ok i :=
  ⟨i.toJson, Json.read?_write i.toJson, validate_toJson i⟩

end Item

/-! ## Generated items -/

/-- The data that a generated item is made of. -/
def itemValues (i : Int) (shape : Shape) : List (String × Datum) :=
  Item.entries (.int i) ("item " ++ intText i) true ("Description " ++ intText i) (.int (i.fmod 100)) generatedPrice
    (match shape with
      | .customer => Datum.ofJson (makeCustomer i).toJson
      | .flat => .null)

theorem intText_natCast (n : Nat) : intText n = natText n := by
  have hle : ¬ (n : Int) < 0 := by omega
  rw [intText, decimalInt, if_neg hle, Int.natAbs_natCast, natText]

/-- **A generated item** is what its data is validated to, also where the index is refused. -/
theorem makeItem_eq_validate (i : Int) (shape : Shape) :
    makeItem i shape = Item.validate (.dict (itemValues i shape)) := by
  have hlow : 0 ≤ i.fmod 100 := Int.fmod_nonneg_of_pos i (by decide)
  have hhigh : i.fmod 100 < 100 := Int.fmod_lt_of_pos i (by decide)
  have hcount := Item.asCount_of_bounds hlow hhigh
  unfold makeItem itemValues
  by_cases hi : i < 0
  · rw [if_pos hi]
    cases shape with
    | flat => exact (Item.validate_entries_refused (Item.asId_negative hi) hcount Item.customerField_null).symm
    | customer => exact (Item.validate_entries_refused (Item.asId_negative hi) hcount (Item.customerField_some _)).symm
  · rw [if_neg hi]
    obtain ⟨n, rfl⟩ : ∃ n : Nat, i = n := ⟨i.toNat, by omega⟩
    -- the count goes round with the index: taken of the remainder it is the same
    have hsame : countOf ((n : Int).fmod 100).toNat = countOf n := by
      have hmod : ((n : Int).fmod 100).toNat = n % 100 := by
        rw [Int.fmod_eq_emod_of_nonneg _ (by decide)]
        omega
      rw [hmod]
      exact Fin.ext (Nat.mod_mod n 100)
    rw [hsame] at hcount
    rw [intText_natCast, Int.toNat_natCast]
    cases shape with
    | flat => exact (Item.validate_entries (Item.asId_natCast n) hcount Item.customerField_null).symm
    | customer => exact (Item.validate_entries (Item.asId_natCast n) hcount (Item.customerField_some _)).symm

end RenderBench
