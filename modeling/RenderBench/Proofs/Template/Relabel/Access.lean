import RenderBench.Proofs.Template.Relabel.Elements
import RenderBench.Template.Access

/-!
# `Proofs.Template.Relabel.Access` — members, elements and paths under a relabelling

What is reached from a value by a member, an index, a slice or a path of these. Something absent that is reached may
name the template, so that the label goes from the value into the failure.

## Contents
- `boundsOf`, `sliceValue_relabel`: slices; their failures name nothing.
- `memberOf_relabel`, `elementAt_relabel`: members and elements.
- `attributePath_relabel`, `followPath_relabel`: paths.
-/

namespace RenderBench.Template

variable {α β : Type} {r : Relabelling} (v w : Value)

/-! ## Slices -/

theorem sliceBound_relabel : sliceBound (v.relabel r) = sliceBound v := by
  cases v <;> rfl

theorem unlabelled_sliceBound : Unlabelled r (sliceBound v) := by
  cases v <;> first | exact unlabelled_ok _ | exact unlabelled_error rfl

theorem unlabelled_sliceBounds (n : Nat) (a b c : Option Int) : Unlabelled r (sliceBounds n a b c) := by
  unfold sliceBounds
  exact unlabelled_ite (unlabelled_error rfl) (unlabelled_ite (unlabelled_ok _) (unlabelled_ok _))

/-- The bounds of a slice of a sequence of so many elements. -/
def boundsOf (a b c : Value) (n : Nat) : Eval (Int × Int × Int) := do
  let c ← sliceBound c
  let a ← sliceBound a
  let b ← sliceBound b
  sliceBounds n a b c

theorem unlabelled_boundsOf (a b c : Value) (n : Nat) : Unlabelled r (boundsOf a b c n) :=
  (unlabelled_sliceBound c).bind fun _ => (unlabelled_sliceBound a).bind fun _ =>
    (unlabelled_sliceBound b).bind fun _ => unlabelled_sliceBounds n _ _ _

theorem boundsOf_relabel (a b c : Value) (n : Nat) :
    boundsOf (a.relabel r) (b.relabel r) (c.relabel r) n = boundsOf a b c n := by
  simp only [boundsOf, sliceBound_relabel]

theorem pick_map (f : α → β) (xs : List α) (a b c : Int) : pick (xs.map f) a b c = (pick xs a b c).map f := by
  simp only [pick, List.map_filterMap]
  simp

/-- What comes after an evaluation that names nothing. -/
theorem Unlabelled.bind_relabel [Labelled β] {x : Eval α} {f f' : α → Eval β} (hx : Unlabelled r x)
    (hf : ∀ a, f' a = relabel r (f a)) : (x >>= f') = relabel r (x >>= f) := by
  cases x with
  | ok a => exact hf a
  | error e => exact congrArg Except.error (hx e rfl).symm

/-- A slice of a sequence whose bounds are known. -/
theorem boundsOf_bind_relabel {f f' : Int × Int × Int → Eval Value} (a b c : Value) (n : Nat)
    (hf : ∀ x, f' x = relabel r (f x)) :
    (boundsOf (a.relabel r) (b.relabel r) (c.relabel r) n >>= f') = relabel r (boundsOf a b c n >>= f) := by
  rw [boundsOf_relabel]
  exact (unlabelled_boundsOf a b c n).bind_relabel hf

theorem sliceValue_relabel (a b c : Value) :
    sliceValue (v.relabel r) (a.relabel r) (b.relabel r) (c.relabel r) = relabel r (sliceValue v a b c) := by
  cases v with
  | text s | markup s => exact boundsOf_bind_relabel a b c _ fun _ => rfl
  | list es =>
    rw [Value.relabel, Value.relabelAll_eq]
    show (boundsOf _ _ _ (es.map (Value.relabel r)).length >>= fun x =>
      (.ok (.list (pick (es.map (Value.relabel r)) x.1 x.2.1 x.2.2)) : Eval Value)) = _
    rw [List.length_map]
    refine boundsOf_bind_relabel a b c _ fun x => ?_
    show _ = (.ok ((Value.list (pick es x.1 x.2.1 x.2.2)).relabel r) : Eval Value)
    rw [pick_map, Value.relabel, Value.relabelAll_eq]
  | tuple es =>
    rw [Value.relabel, Value.relabelAll_eq]
    show (boundsOf _ _ _ (es.map (Value.relabel r)).length >>= fun x =>
      (.ok (.tuple (pick (es.map (Value.relabel r)) x.1 x.2.1 x.2.2)) : Eval Value)) = _
    rw [List.length_map]
    refine boundsOf_bind_relabel a b c _ fun x => ?_
    show _ = (.ok ((Value.tuple (pick es x.1 x.2.1 x.2.2)).relabel r) : Eval Value)
    rw [pick_map, Value.relabel, Value.relabelAll_eq]
  | range first last gap => exact boundsOf_bind_relabel a b c _ fun _ => rfl
  | _ => rfl

/-! ## Members and elements -/

theorem nth?_map (f : α → β) (xs : List α) (i : Int) : nth? (xs.map f) i = (nth? xs i).map f := by
  simp only [nth?, List.length_map, List.getElem?_map]
  split
  · rfl
  · split <;> rfl

/-- A value that may be missing, with something absent in its place. -/
theorem getD_absent_relabel (o : Option Value) {a : Absence} (ha : a.relabel r = a) :
    (o.map (Value.relabel r)).getD (.absent a) = (o.getD (.absent a)).relabel r := by
  cases o with
  | none => exact congrArg Value.absent ha.symm
  | some v => rfl

theorem loopMember?_relabel (i n : Nat) (p q : List Value) (attr : String) :
    loopMember? i n (p.map (Value.relabel r)) (q.map (Value.relabel r)) attr =
      (loopMember? i n p q attr).map (Value.relabel r) := by
  have hprevious := getD_absent_relabel (r := r) p.head? (a := .previousItem) rfl
  have hnext := getD_absent_relabel (r := r) q.head? (a := .nextItem) rfl
  unfold loopMember?
  split <;> simp only [List.head?_map, hprevious, hnext, Option.map_some, Option.map_none, Value.relabel,
    List.isEmpty_map]

theorem lookup_relabel {fields : List (String × Value)} (h : ∀ p ∈ fields, p.2.relabel r = p.2)
    (attr : String) : (fields.lookup attr).map (Value.relabel r) = fields.lookup attr := by
  induction fields with
  | nil => rfl
  | cons p ps ih =>
    have hfirst := h p (List.mem_cons_self ..)
    have hrest := ih fun q hq => h q (List.mem_cons_of_mem p hq)
    rw [List.lookup_cons]
    split
    · rw [Option.map_some, hfirst]
    · exact hrest

theorem entryAt?_relabel (es : List (Value × Value)) :
    entryAt? (es.map (Prod.map (Value.relabel r) (Value.relabel r))) (v.relabel r) =
      (entryAt? es v).map (Value.relabel r) := by
  simp only [entryAt?, List.find?_map, Option.map_map, Function.comp_def, Prod.map, Value.eqv_relabel]
  

theorem ownMember?_relabel (attr : String) :
    ownMember? (v.relabel r) attr = (ownMember? v attr).map (Value.relabel r) := by
  cases v with
  | item i => exact (lookup_relabel (itemFields_relabel i) attr).symm
  | customer c => exact (lookup_relabel (customerFields_relabel c) attr).symm
  | loop i n p q =>
    simp only [Value.relabel, Value.relabelAll_eq]
    exact loopMember?_relabel i n p q attr
  | definition d =>
    simp only [Value.relabel, ownMember?, r.definition_name]
    split <;> rfl
  | _ => rfl

theorem absentMember_relabel (attr : String) :
    absentMember (v.relabel r) attr = (absentMember v attr).relabel r := by
  simp only [absentMember, Value.objectKind_relabel, Value.relabel, Absence.relabel]

/-- A value that was found, or another one in its place. -/
def foundOr (other : Value) : Option Value → Eval Value
  | some w => .ok w
  | none => .ok other

theorem memberOf_of_object (hthere : v.isAbsent = false) (hdict : ∀ es, v ≠ .dict es) (attr : String) :
    memberOf v attr = .ok ((ownMember? v attr).getD (absentMember v attr)) := by
  have hobject : memberOf v attr = foundOr (absentMember v attr) (ownMember? v attr) := by
    cases v with
    | absent a => cases hthere
    | dict es => exact absurd rfl (hdict es)
    | _ => rfl
  rw [hobject]
  cases ownMember? v attr <;> rfl

theorem memberOf_relabel (attr : String) : memberOf (v.relabel r) attr = relabel r (memberOf v attr) := by
  have hgetD (o : Option Value) : (o.map (Value.relabel r)).getD (absentMember (v.relabel r) attr) =
      (o.getD (absentMember v attr)).relabel r := by
    rw [absentMember_relabel, Option.getD_map]
  cases hthere : v.isAbsent with
  | true =>
    obtain ⟨a, rfl⟩ := Value.exists_of_isAbsent hthere
    rfl
  | false =>
    by_cases hdict : ∀ es, v ≠ .dict es
    · rw [memberOf_of_object v hthere hdict,
        memberOf_of_object (v.relabel r) (by rwa [Value.isAbsent_relabel]) (relabel_ne_dict v hdict),
        ownMember?_relabel, hgetD]
      rfl
    · obtain ⟨es, hes⟩ := Classical.not_forall.mp hdict
      obtain rfl := Classical.not_not.mp hes
      -- what is asked of a mapping is looked for among its entries
      have hentry (es : List (Value × Value)) : memberOf (.dict es) attr =
        .ok ((entryAt? es (.text attr)).getD (absentMember (.dict es) attr)) := rfl
      have hkey := entryAt?_relabel (r := r) (.text attr) es
      rw [Value.relabel, Value.relabelEntries_eq] at hgetD ⊢
      rw [hentry, hentry, ← Value.relabel, hkey, hgetD]
      rfl

theorem absentElement_relabel : absentElement (v.relabel r) (w.relabel r) = (absentElement v w).relabel r := by
  simp only [absentElement, Value.text?_relabel, Value.objectKind_relabel, Value.listed_relabel]
  split <;> rfl

/-- The outcome of a slice as an element; only a step of zero is a failure. -/
def sliceElement (x : Eval Value) : Eval (Option Value) :=
  match x with
  | .ok w => .ok (some w)
  | .error .zeroStep => .error .zeroStep
  | .error _ => .ok none

theorem sliceElement_relabel (x : Eval Value) : sliceElement (relabel r x) = relabel r (sliceElement x) := by
  cases x with
  | ok w => rfl
  | error f => cases f <;> rfl

/-- The element of a sequence at an index. -/
def nthElement? (v : Value) (k : Int) : Option Value :=
  match v with
  | .text s => (nth? s.toList k).map fun c => .text (String.ofList [c])
  | .markup s => (nth? s.toList k).map fun c => .markup (String.ofList [c])
  | .list es => nth? es k
  | .tuple es => nth? es k
  | .range a b s => nth? (Value.rangeElements a b s) k
  | _ => none

theorem nthElement?_relabel (k : Int) :
    nthElement? (v.relabel r) k = (nthElement? v k).map (Value.relabel r) := by
  cases v with
  | text s | markup s =>
    show (nth? s.toList k).map _ = ((nth? s.toList k).map _).map _
    cases nth? s.toList k <;> rfl
  | list es | tuple es =>
    rw [Value.relabel, Value.relabelAll_eq]
    exact nth?_map _ es k
  | range a b s =>
    show nth? (Value.rangeElements a b s) k = (nth? (Value.rangeElements a b s) k).map (Value.relabel r)
    rw [← nth?_map, rangeElements_relabel]
  | _ => rfl

/-- The element at an index, if the index is one. -/
def elementOf (v : Value) : Option Int → Eval (Option Value)
  | none => .ok none
  | some k => .ok (nthElement? v k)

theorem ownElement?_of_index (hdict : ∀ es, v ≠ .dict es) (hslice : ∀ a b c, w ≠ .slice a b c) :
    ownElement? v w = .ok (w.whole?.bind (nthElement? v)) := by
  have hindex : ownElement? v w = elementOf v w.whole? := by
    cases w with
    | slice a b c => exact absurd rfl (hslice a b c)
    | _ =>
      cases v with
      | dict es => exact absurd rfl (hdict es)
      | _ => rfl
  rw [hindex]
  cases w.whole? <;> rfl

theorem relabel_ne_slice (h : ∀ a b c, w ≠ .slice a b c) : ∀ a b c, w.relabel r ≠ .slice a b c := by
  cases w with
  | slice a b c => exact absurd rfl (h a b c)
  | _ => exact nofun

theorem ownElement?_relabel : ownElement? (v.relabel r) (w.relabel r) = relabel r (ownElement? v w) := by
  by_cases hdict : ∀ es, v ≠ .dict es
  · by_cases hslice : ∀ a b c, w ≠ .slice a b c
    · rw [ownElement?_of_index v w hdict hslice, ownElement?_of_index (v.relabel r) (w.relabel r)
        (relabel_ne_dict v hdict) (relabel_ne_slice w hslice), Value.whole?_relabel]
      cases w.whole? with
      | none => rfl
      | some k => exact congrArg Except.ok (nthElement?_relabel v k)
    · simp only [Classical.not_forall, Classical.not_not] at hslice
      obtain ⟨a, b, c, rfl⟩ := hslice
      have hsliced := sliceElement_relabel (r := r) (sliceValue v a b c)
      rw [← sliceValue_relabel] at hsliced
      cases v with
      | dict es => exact absurd rfl (hdict es)
      | text s | markup s | list es | tuple es | range x y z => exact hsliced
      | _ => rfl
  · obtain ⟨es, hes⟩ := Classical.not_forall.mp hdict
    obtain rfl := Classical.not_not.mp hes
    rw [Value.relabel, Value.relabelEntries_eq]
    simp only [ownElement?, unhashable?_relabel, entryAt?_relabel]
    split <;> rfl

/-- An element of a value, or else a member. -/
def ownOr (v w : Value) : Option Value → Eval Value
  | some x => .ok x
  | none => foundOr (absentElement v w) (w.text?.bind (ownMember? v))

theorem elementAt_of_there (hthere : v.isAbsent = false) :
    elementAt v w = ownElement? v w >>= fun own =>
      .ok ((own.or (w.text?.bind (ownMember? v))).getD (absentElement v w)) := by
  have hopen : elementAt v w = ownElement? v w >>= fun own =>
      ownOr v w own := by
    cases v with
    | absent a => cases hthere
    | _ => rfl
  rw [hopen]
  refine congrArg (ownElement? v w >>= ·) (funext fun own => ?_)
  cases own with
  | some x => rfl
  | none =>
    rw [ownOr]
    cases w.text?.bind (ownMember? v) <;> rfl

theorem elementAt_relabel : elementAt (v.relabel r) (w.relabel r) = relabel r (elementAt v w) := by
  cases hthere : v.isAbsent with
  | true =>
    obtain ⟨a, rfl⟩ := Value.exists_of_isAbsent hthere
    rfl
  | false =>
    rw [elementAt_of_there v w hthere, elementAt_of_there (v.relabel r) _ (by rwa [Value.isAbsent_relabel])]
    refine bind_relabel (ownElement?_relabel v w) fun own => ?_
    have hmember : (w.text?.bind (ownMember? (v.relabel r))) =
        (w.text?.bind (ownMember? v)).map (Value.relabel r) := by
      cases w.text? with
      | none => rfl
      | some s => exact ownMember?_relabel v s
    rw [Value.text?_relabel, absentElement_relabel, hmember]
    cases own with
    | some x => rfl
    | none => cases w.text?.bind (ownMember? v) <;> rfl

/-! ## Paths -/

theorem attributePath_of_value (hnone : v ≠ .none) : attributePath v = match v.text? with
    | some s => (s.splitOn ".").map fun part =>
        let cs := part.toList
        if !cs.isEmpty && cs.all Char.isDigit then .int (natOfDigits cs) else .text part
    | none => [v] := by
  cases v with
  | none => exact absurd rfl hnone
  | _ => rfl

theorem attributePath_relabel : attributePath (v.relabel r) = (attributePath v).map (Value.relabel r) := by
  by_cases hnone : v = .none
  · rw [hnone]
    rfl
  · have hnone' : v.relabel r ≠ .none := by
      cases v with
      | none => exact absurd rfl hnone
      | _ => exact nofun
    rw [attributePath_of_value v hnone, attributePath_of_value (v.relabel r) hnone', Value.text?_relabel]
    cases v.text? with
    | none => rfl
    | some s =>
      rw [List.map_map]
      refine List.map_congr_left fun part _ => ?_
      simp only [Function.comp_apply]
      split <;> rfl

/-- A default in place of what is not there. -/
def orDefault (default : Option Value) (w : Value) : Eval Value :=
  match w, default with
  | .absent _, some d => .ok d
  | w, _ => .ok w

theorem followPath_relabel (default : Option Value) (path : List Value) :
    followPath (default.map (Value.relabel r)) (path.map (Value.relabel r)) (v.relabel r) =
      relabel r (followPath default path v) := by
  induction path generalizing v with
  | nil => rfl
  | cons step path ih =>
    have hcons (d : Option Value) (u x : Value) (xs : List Value) : followPath d (x :: xs) u =
        (elementAt u x >>= orDefault d) >>= followPath d xs := rfl
    rw [List.map_cons, hcons, hcons]
    refine bind_relabel (bind_relabel (elementAt_relabel v step) fun w => ?_) ih
    cases w <;> cases default <;> rfl

end RenderBench.Template
