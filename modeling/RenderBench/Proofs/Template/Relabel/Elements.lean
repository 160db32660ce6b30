import RenderBench.Proofs.Template.Relabel.Operators

/-!
# `Proofs.Template.Relabel.Elements` — elements, order and membership under a relabelling

The elements of a relabelled value are the relabelled elements, the failure they end with included. Keys of mappings,
the order of values and membership follow, since they are decided by equality and by elements.

## Contents
- `elementsOf_relabel`: elements.
- `unhashable?_relabel`, `setEntry_relabel`, `mappingOf_relabel`: mappings.
- `orderValues_relabel`, `member_relabel`, `compareValues_relabel`: comparisons.
-/

namespace RenderBench.Template

variable {α β : Type} {r : Relabelling} (v w : Value)

/-! ## Elements -/

instance : Labelled Elements where
  relabel r e := ⟨e.values.map (Value.relabel r), e.failure.map (Fault.relabel r)⟩

/-- The members of an item are texts and numbers. -/
theorem itemFields_relabel (i : Item) : ∀ p ∈ itemFields i, p.2.relabel r = p.2 := by
  have hcustomer : (Value.ofCustomer i.customer).relabel r = Value.ofCustomer i.customer := by
    cases i.customer <;> rfl
  simp [itemFields, Value.relabel, hcustomer]

theorem customerFields_relabel (c : Customer) : ∀ p ∈ customerFields c, p.2.relabel r = p.2 := by
  intro p hp
  obtain ⟨q, _, rfl⟩ := List.mem_map.mp hp
  rfl

theorem pairs_relabel {fields : List (String × Value)} (h : ∀ p ∈ fields, p.2.relabel r = p.2) :
    (fields.map fun p => Value.tuple [.text p.1, p.2]).map (Value.relabel r) =
      fields.map fun p => Value.tuple [.text p.1, p.2] := by
  rw [List.map_map]
  refine List.map_congr_left fun p hp => ?_
  simp only [Function.comp_apply, Value.relabel, Value.relabelAll, h p hp]

theorem rangeElements_relabel (a b s : Int) :
    (Value.rangeElements a b s).map (Value.relabel r) = Value.rangeElements a b s := by
  simp only [Value.rangeElements, List.map_map, Function.comp_def, Value.relabel]

theorem characters_relabel (s : String) :
    (s.toList.map fun c => Value.text (String.ofList [c])).map (Value.relabel r) =
      s.toList.map fun c => Value.text (String.ofList [c]) := by
  simp only [List.map_map, Function.comp_def, Value.relabel]

/-- The elements that a loop goes over, with the failure that they end in. -/
theorem elementsOf_relabel : elementsOf (v.relabel r) = relabel r (elementsOf v) := by
  have helements {vs ws : List Value} (h : vs = ws.map (Value.relabel r)) :
      (.ok ⟨vs, none⟩ : Eval Elements) = relabel r (.ok ⟨ws, none⟩) := by rw [h]; rfl
  cases v with
  | text s | markup s => exact helements (characters_relabel s).symm
  | list es | tuple es => exact helements (Value.relabelAll_eq es)
  | dict es =>
    rw [Value.relabel, Value.relabelEntries_eq]
    refine helements ?_
    rw [List.map_map, List.map_map]
    rfl
  | item i => exact helements (pairs_relabel (itemFields_relabel i)).symm
  | customer c => exact helements (pairs_relabel (customerFields_relabel c)).symm
  | range a b s => exact helements (rangeElements_relabel a b s).symm
  | lazy k es f =>
    rw [Value.relabel, Value.relabelAll_eq]
    rfl
  | _ => rfl

theorem all_relabel (e : Elements) : (relabel r e).all = relabel r e.all := by
  obtain ⟨vs, f⟩ := e
  cases f <;> rfl

/-- The elements as a list, if none fails. -/
theorem listOf_relabel : listOf (v.relabel r) = relabel r (listOf v) :=
  bind_relabel (elementsOf_relabel v) all_relabel

/-! ## Keys -/

mutual

/-- What keeps a value from being a key is told by its kind. -/
theorem unhashable?_relabel : ∀ v : Value, unhashable? (v.relabel r) = unhashable? v
  | .tuple es => by
    rw [Value.relabel, Value.relabelAll_eq]
    exact unhashableAmong?_relabel es
  | .absent _ | .none | .bool _ | .int _ | .real _ | .text _ | .markup _ | .list _ | .dict _ | .item _
  | .customer _ | .range _ _ _ | .foreign _ | .lazy _ _ _ | .slice _ _ _ | .loop _ _ _ _ | .cycle _
  | .rangeFunction | .definition _ | .itself _ _ | .blockRef _ _ | .caller _ => rfl

theorem unhashableAmong?_relabel : ∀ vs : List Value,
    unhashableAmong? (vs.map (Value.relabel r)) = unhashableAmong? vs
  | [] => rfl
  | v :: vs => by
    simp only [List.map_cons, unhashableAmong?, unhashable?_relabel v, unhashableAmong?_relabel vs]

end

attribute [simp] unhashable?_relabel

/-- A key is found by equality, which does not look at labels. -/
theorem setEntry_relabel (es : List (Value × Value)) :
    setEntry (v.relabel r) (w.relabel r) (es.map (Prod.map (Value.relabel r) (Value.relabel r))) =
      (setEntry v w es).map (Prod.map (Value.relabel r) (Value.relabel r)) := by
  induction es with
  | nil => rfl
  | cons e es ih =>
    simp only [List.map_cons, Prod.map, setEntry, Value.eqv_relabel] at ih ⊢
    split
    · rfl
    · rw [ih, List.map_cons, Prod.map]

/-- A mapping of entries, of which the last one with a key counts. -/
theorem mappingOf_relabel (es : List (Value × Value)) :
    mappingOf (es.map (Prod.map (Value.relabel r) (Value.relabel r))) = relabel r (mappingOf es) := by
  have hentries (done : List (Value × Value)) :
      es.foldl (fun done e => setEntry (e.1.relabel r) (e.2.relabel r) done)
          (done.map (Prod.map (Value.relabel r) (Value.relabel r))) =
        (es.foldl (fun done e => setEntry e.1 e.2 done) done).map
          (Prod.map (Value.relabel r) (Value.relabel r)) :=
    List.foldl_hom _ fun (done : List (Value × Value)) (e : Value × Value) =>
      setEntry_relabel e.1 e.2 done
  simp only [mappingOf, List.filterMap_map, Function.comp_def, Prod.map, unhashable?_relabel, List.foldl_map]
  split
  · rfl
  · simp only [relabel_ok, relabel_value, Value.relabel, Value.relabelEntries_eq]
    exact congrArg (fun es => (Except.ok (.dict es) : Eval Value)) (hentries [])

/-! ## Order and membership -/

theorem orderAtoms_relabel (op : OrderOp) :
    orderAtoms op (v.relabel r) (w.relabel r) = relabel r (orderAtoms op v w) := by
  cases v <;> cases w <;> rfl

/-- Order of values that are no sequences. -/
theorem orderValues_atom_relabel (op : OrderOp) (hlist : ∀ es, v ≠ .list es)
    (htuple : ∀ es, v ≠ .tuple es) :
    orderValues op (v.relabel r) (w.relabel r) = relabel r (orderValues op v w) := by
  have hatoms := orderAtoms_relabel (r := r) v w op
  cases v with
  | list es => exact absurd rfl (hlist es)
  | tuple es => exact absurd rfl (htuple es)
  | _ => exact hatoms

mutual

/-- Values are ordered alike, sequences by their first elements that differ. -/
theorem orderValues_relabel (op : OrderOp) : ∀ v w : Value,
    orderValues op (v.relabel r) (w.relabel r) = relabel r (orderValues op v w)
  | .list es, w => by
    have hatoms := orderAtoms_relabel (r := r) (.list es) w op
    cases w with
    | list fs =>
      simp only [Value.relabel, Value.relabelAll_eq]
      exact orderSequences_relabel op es fs
    | _ => exact hatoms
  | .tuple es, w => by
    have hatoms := orderAtoms_relabel (r := r) (.tuple es) w op
    cases w with
    | tuple fs =>
      simp only [Value.relabel, Value.relabelAll_eq]
      exact orderSequences_relabel op es fs
    | _ => exact hatoms
  | .absent _, w | .none, w | .bool _, w | .int _, w | .real _, w | .text _, w | .markup _, w
  | .dict _, w | .item _, w | .customer _, w | .range _ _ _, w | .foreign _, w | .lazy _ _ _, w
  | .slice _ _ _, w | .loop _ _ _ _, w | .cycle _, w | .rangeFunction, w | .definition _, w
  | .itself _ _, w | .blockRef _ _, w | .caller _, w => orderValues_atom_relabel _ w op nofun nofun

theorem orderSequences_relabel (op : OrderOp) : ∀ vs ws : List Value,
    orderSequences op (vs.map (Value.relabel r)) (ws.map (Value.relabel r)) = relabel r (orderSequences op vs ws)
  | [], [] | [], _ :: _ | _ :: _, [] => rfl
  | v :: vs, w :: ws => by
    simp only [List.map_cons, orderSequences, Value.eqv_relabel, orderValues_relabel op v w,
      orderSequences_relabel op vs ws]
    split <;> rfl

end

/-- Membership among the elements of a value. -/
theorem anyEqv_relabel (vs : List Value) :
    ((vs.map (Value.relabel r)).any fun w => w.eqv (v.relabel r)) = vs.any fun w => w.eqv v := by
  simp only [List.any_map, Function.comp_def, Value.eqv_relabel]

/-- Membership in what is neither a text nor a mapping is membership among its elements. -/
theorem member_of_elements (htext : w.text? = none) (hdict : ∀ es, w ≠ .dict es) :
    member v w =
      match elementsOf w with
      | .error _ => .error (.noMembership w.kind)
      | .ok e =>
        if e.values.any fun x => x.eqv v then .ok true
        else match e.failure with
          | some f => .error f
          | none => .ok false := by
  cases w with
  | text t | markup t => cases htext
  | dict es => exact absurd rfl (hdict es)
  | _ => rfl

theorem relabel_ne_dict (h : ∀ es, w ≠ .dict es) : ∀ es, w.relabel r ≠ .dict es := by
  cases w with
  | dict es => exact absurd rfl (h es)
  | _ => exact nofun

/-- Whether a value is in another one. -/
theorem member_relabel : member (v.relabel r) (w.relabel r) = relabel r (member v w) := by
  by_cases htext : w.text? = none
  · by_cases hdict : ∀ es, w ≠ .dict es
    · rw [member_of_elements v w htext hdict, member_of_elements (v.relabel r) (w.relabel r)
        (by rw [Value.text?_relabel, htext]) (relabel_ne_dict w hdict), elementsOf_relabel]
      cases elementsOf w with
      | error e => simp only [relabel_error, Value.kind_relabel, Fault.relabel]
      | ok e =>
        obtain ⟨vs, failure⟩ := e
        show (if (vs.map (Value.relabel r)).any _ then _ else _) = relabel r (if vs.any _ then _ else _)
        rw [anyEqv_relabel]
        split
        · rfl
        · cases failure <;> rfl
    · obtain ⟨es, hes⟩ := Classical.not_forall.mp hdict
      obtain rfl := Classical.not_not.mp hes
      simp only [Value.relabel, Value.relabelEntries_eq, member, unhashable?_relabel]
      split
      · rfl
      · simp only [List.any_map, Function.comp_def, Prod.map, Value.eqv_relabel, relabel_ok, relabel_bool, id_eq]
  · obtain ⟨s, hs⟩ := Option.ne_none_iff_exists'.mp htext
    cases w with
    | text t | markup t =>
      simp only [Value.relabel, member, Value.text?_relabel, Value.kind_relabel]
      split <;> rfl
    | _ => cases hs

/-- **A comparison** of two values. -/
theorem compareValues_relabel (op : CompareOp) :
    compareValues op (v.relabel r) (w.relabel r) = relabel r (compareValues op v w) := by
  cases op with
  | eq | ne => simp only [compareValues, Value.eqv_relabel, relabel_ok, relabel_bool, id_eq]
  | lt | le | gt | ge => exact orderValues_relabel _ v w
  | mem => exact member_relabel v w
  | notMem =>
    simp only [compareValues, member_relabel]
    cases member v w <;> rfl

end RenderBench.Template
