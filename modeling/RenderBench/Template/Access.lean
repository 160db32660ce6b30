import RenderBench.Template.Operators

/-!
# `Template.Access` — members, elements and slices

A member or element that is not there is an absent value; what is absent has neither.

## Contents
- `sliceBounds`, `sliceValue`: slices.
- `memberOf`, `elementAt`: members by name and elements by index.
- `attributePath`, `followPath`: several steps given as one text.
-/

namespace RenderBench.Template

/-! ## Slices -/

/-- A bound of a slice: absent, or a whole number. -/
def sliceBound (v : Value) : Eval (Option Int) :=
  match v with
  | .none => .ok none
  | v =>
    match v.whole? with
    | some i => .ok (some i)
    | none => .error .badSlice

/-- A bound brought between the ends of a sequence of `n` elements; negative ones count from its end. -/
def clampBound (n low high i : Int) : Int :=
  if i < 0 then max low (i + n) else min high i

/-- Where a slice of `n` elements starts and stops, and its step. -/
def sliceBounds (n : Nat) (start stop step : Option Int) : Eval (Int × Int × Int) :=
  let step := step.getD 1
  if step = 0 then .error .zeroStep
  else if 0 < step then
    let bound (default : Int) (b : Option Int) : Int :=
      match b with
      | some i => clampBound n 0 n i
      | none => default
    .ok (bound 0 start, bound n stop, step)
  else
    let bound (default : Int) (b : Option Int) : Int :=
      match b with
      | some i => clampBound n (-1) ((n : Int) - 1) i
      | none => default
    .ok (bound ((n : Int) - 1) start, bound (-1) stop, step)

/-- The elements of a list at the indices of a range. -/
def pick {α : Type} (xs : List α) (start stop step : Int) : List α :=
  let a := xs.toArray
  (List.range (Value.rangeLength start stop step)).filterMap fun (k : Nat) =>
    a[(start + k * step).toNat]?

/-- A slice of a sequence. -/
def sliceValue (v start stop step : Value) : Eval Value :=
  let bounds (n : Nat) : Eval (Int × Int × Int) := do
    let step ← sliceBound step
    let start ← sliceBound start
    let stop ← sliceBound stop
    sliceBounds n start stop step
  match v with
  | .absent a => .error (.absent a)
  | .text s => do
    let cs := s.toList
    let (a, b, c) ← bounds cs.length
    return .text (String.ofList (pick cs a b c))
  | .markup s => do
    let cs := s.toList
    let (a, b, c) ← bounds cs.length
    return .markup (String.ofList (pick cs a b c))
  | .list es => do
    let (a, b, c) ← bounds es.length
    return .list (pick es a b c)
  | .tuple es => do
    let (a, b, c) ← bounds es.length
    return .tuple (pick es a b c)
  | .range first last gap => do
    let (a, b, c) ← bounds (Value.rangeLength first last gap)
    return .range (first + a * gap) (first + b * gap) (gap * c)
  | .dict _ => .error (.unhashable "slice")
  | v => .error (.notSubscriptable v.kind)

/-! ## Members and elements -/

/-- The element of a list at an index; negative indices count from the end. -/
def nth? {α : Type} (xs : List α) (i : Int) : Option α :=
  if 0 ≤ i then xs[i.toNat]?
  else if 0 ≤ i + xs.length then xs[(i + xs.length).toNat]?
  else none

/-- The members of a loop. -/
def loopMember? (index length : Nat) (previous next : List Value) (attr : String) :
    Option Value :=
  match attr with
  | "index" => some (.int (index + 1))
  | "index0" => some (.int index)
  | "revindex" => some (.int ((length : Int) - index))
  | "revindex0" => some (.int ((length : Int) - index - 1))
  | "first" => some (.bool (index == 0))
  | "last" => some (.bool next.isEmpty)
  | "length" => some (.int length)
  | "depth" => some (.int 1)
  | "depth0" => some (.int 0)
  | "previtem" => some (previous.head?.getD (.absent .previousItem))
  | "nextitem" => some (next.head?.getD (.absent .nextItem))
  | "cycle" => some (.cycle index)
  | _ => none

/-- The entry of a mapping under a key. -/
def entryAt? (entries : List (Value × Value)) (key : Value) : Option Value :=
  (entries.find? fun (k, _) => k.eqv key).map Prod.snd

/-- A member that every object of its kind has. -/
def ownMember? (v : Value) (attr : String) : Option Value :=
  match v with
  | .item i => (itemFields i).lookup attr
  | .customer c => (customerFields c).lookup attr
  | .loop i n p q => loopMember? i n p q attr
  | .definition d => if attr = "name" then some (.text d.name) else none
  | _ => none

/-- The absent member of a value. -/
def absentMember (v : Value) (attr : String) : Value := .absent (.member v.objectKind attr)

/-- A member by name: one of the object's own, or the entry of a mapping. -/
def memberOf (v : Value) (attr : String) : Eval Value :=
  match v with
  | .absent a => .error (.absent a)
  | v =>
    match ownMember? v attr with
    | some w => .ok w
    | none =>
      match v with
      | .dict es => .ok ((entryAt? es (.text attr)).getD (absentMember v attr))
      | v => .ok (absentMember v attr)

/-- The absent element of a value. An index that is a text counts as the name of a member. -/
def absentElement (v index : Value) : Value :=
  match index.text? with
  | some s => .absent (.member v.objectKind s)
  | none => .absent (.element v.objectKind index.listed)

/-- The element of a value at an index, without looking at its members. -/
def ownElement? (v index : Value) : Eval (Option Value) :=
  match v, index with
  | .text _, .slice a b c | .markup _, .slice a b c | .list _, .slice a b c
  | .tuple _, .slice a b c | .range _ _ _, .slice a b c =>
    match sliceValue v a b c with
    | .ok w => .ok (some w)
    | .error .zeroStep => .error .zeroStep
    | .error _ => .ok none
  | .dict es, i => if (unhashable? i).isSome then .ok none else .ok (entryAt? es i)
  | v, i =>
    match i.whole? with
    | none => .ok none
    | some k =>
      match v with
      | .text s => .ok ((nth? s.toList k).map fun c => .text (String.ofList [c]))
      | .markup s => .ok ((nth? s.toList k).map fun c => .markup (String.ofList [c]))
      | .list es => .ok (nth? es k)
      | .tuple es => .ok (nth? es k)
      | .range a b s => .ok (nth? (Value.rangeElements a b s) k)
      | _ => .ok none

/-- The element of a value at an index; a text that is no key is tried as the name of a member. -/
def elementAt (v index : Value) : Eval Value :=
  match v with
  | .absent a => .error (.absent a)
  | v => do
    match ← ownElement? v index with
    | some w => return w
    | none =>
      match index.text?.bind (ownMember? v) with
      | some w => return w
      | none => return absentElement v index

/-! ## Paths -/

/-- The steps of a path given as text, separated by points; digits are indices. -/
def attributePath (v : Value) : List Value :=
  match v with
  | .none => []
  | v =>
    match v.text? with
    | some s =>
      (s.splitOn ".").map fun part =>
        let cs := part.toList
        if !cs.isEmpty && cs.all Char.isDigit then .int (natOfDigits cs) else .text part
    | none => [v]

/-- The value at the end of a path. A step that leads to something absent continues with the default, if
    there is one. -/
def followPath (default : Option Value) (path : List Value) (v : Value) : Eval Value :=
  path.foldlM (fun v step => do
    let w ← elementAt v step
    match w, default with
    | .absent _, some d => return d
    | w, _ => return w) v

end RenderBench.Template
