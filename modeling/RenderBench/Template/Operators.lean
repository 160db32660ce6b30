import RenderBench.Template.Escaping

/-!
# `Template.Operators` — arithmetic, order and membership

Whole numbers are exact; with a real number on either side the result is real. Texts and sequences can be
joined and repeated, and compared with their own kind.

## Contents
- `Figure` arithmetic: `addFigures`, …, `powFigures`.
- `unaryValue`, `binaryValue`: the operators on values.
- `lessThan`, `orderValues`: order.
- `elementsOf`: the elements of a value.
- `mappingOf`: mappings.
- `member`: membership; `compareValues`: all comparisons.
-/

namespace RenderBench.Template

/-- The result of evaluating something. -/
abbrev Eval (α : Type) := Except Fault α

/-! ## Numbers -/

/-- A whole number as a real one; there are whole numbers that are too large. -/
def realOf : Figure → Eval Binary64
  | .whole i =>
    let x := Binary64.ofInt i
    if x.isFinite then .ok x else .error .intTooLarge
  | .real x => .ok x

/-- An operation of whole numbers, or of real numbers when one of them is. -/
def onFigures (whole : Int → Int → Eval Figure) (real : Binary64 → Binary64 → Eval Figure) :
    Figure → Figure → Eval Figure
  | .whole i, .whole j => whole i j
  | a, b => do real (← realOf a) (← realOf b)

def addFigures : Figure → Figure → Eval Figure :=
  onFigures (fun i j => .ok (.whole (i + j))) fun x y => .ok (.real (x.add y))

def subFigures : Figure → Figure → Eval Figure :=
  onFigures (fun i j => .ok (.whole (i - j))) fun x y => .ok (.real (x.sub y))

def mulFigures : Figure → Figure → Eval Figure :=
  onFigures (fun i j => .ok (.whole (i * j))) fun x y => .ok (.real (x.mul y))

/-- The quotient, which is always real. -/
def divFigures : Figure → Figure → Eval Figure :=
  onFigures
    (fun i j =>
      if j = 0 then .error (.zeroDivision .quotient)
      else
        let x := Binary64.ofRatio (decide ((i < 0) ≠ (j < 0))) i.natAbs j.natAbs
        if x.isFinite then .ok (.real x) else .error .quotientTooLarge)
    fun x y =>
      if y.isZero then .error (.zeroDivision .realQuotient) else .ok (.real (x.div y))

/-- The floored quotient. -/
def floorDivFigures : Figure → Figure → Eval Figure :=
  onFigures
    (fun i j => if j = 0 then .error (.zeroDivision .floored) else .ok (.whole (i.fdiv j)))
    fun x y =>
      if y.isZero then .error (.zeroDivision .realFloored) else .ok (.real (x.flooredDiv y))

/-- The remainder, which has the sign of the divisor. -/
def modFigures : Figure → Figure → Eval Figure :=
  onFigures
    (fun i j => if j = 0 then .error (.zeroDivision .remainder) else .ok (.whole (i.fmod j)))
    fun x y =>
      if y.isZero then .error (.zeroDivision .realRemainder) else .ok (.real (x.flooredRem y))

/-- A power of real numbers. -/
def powReal (x y : Binary64) : Eval Figure :=
  if x.isZero && y.isNegative && !y.isZero then .error (.zeroDivision .power)
  else
    let r := x.pow y
    if r.isFinite || !x.isFinite || !y.isFinite then .ok (.real r)
    else .error .powerTooLarge

/-- A power: whole for whole numbers, unless the exponent is negative. -/
def powFigures : Figure → Figure → Eval Figure :=
  onFigures
    (fun i j =>
      if 0 ≤ j then .ok (.whole (Int.pow i j.toNat))
      else do powReal (← realOf (.whole i)) (← realOf (.whole j)))
    powReal

/-- Whether one number is below another. -/
def figureLt : Figure → Figure → Bool
  | .whole i, .whole j => i < j
  | .real x, .real y => x.lt y
  | .whole i, .real y =>
    match y with
    | .nan => false
    | .infinite s => !s
    | y =>
      match y.toRatio? with
      | some (n, d) => i * d < n
      | none => false
  | .real x, .whole j =>
    match x with
    | .nan => false
    | .infinite s => s
    | x =>
      match x.toRatio? with
      | some (n, d) => n < j * d
      | none => false

def Value.ofFigure : Figure → Value
  | .whole i => .int i
  | .real x => .real x

/-! ## Operators -/

def UnaryOp.sign : UnaryOp → String
  | .neg => "unary -"
  | .pos => "unary +"
  | .not => "not"

def unaryValue (op : UnaryOp) (v : Value) : Eval Value :=
  match op, v with
  | .not, v => .ok (.bool (!v.isTruthy))
  | _, .absent a => .error (.absent a)
  | .neg, v =>
    match v.figure? with
    | some (.whole i) => .ok (.int (-i))
    | some (.real x) => .ok (.real x.neg)
    | none => .error (.signOperand UnaryOp.neg.sign v.kind)
  | .pos, v =>
    match v.figure? with
    | some f => .ok (Value.ofFigure f)
    | none => .error (.signOperand UnaryOp.pos.sign v.kind)

def BinaryOp.sign : BinaryOp → String
  | .add => "+"
  | .sub => "-"
  | .mul => "*"
  | .div => "/"
  | .floorDiv => "//"
  | .mod => "%"
  | .pow => "** or pow()"

def BinaryOp.onFigures : BinaryOp → Figure → Figure → Eval Figure
  | .add => addFigures
  | .sub => subFigures
  | .mul => mulFigures
  | .div => divFigures
  | .floorDiv => floorDivFigures
  | .mod => modFigures
  | .pow => powFigures

/-- Whether a value is a sequence that can be repeated. -/
def isRepeatable : Value → Bool
  | .text _ | .markup _ | .list _ | .tuple _ => true
  | _ => false

/-- A sequence so many times. -/
def repeated (v : Value) (n : Nat) : Value :=
  match v with
  | .text s => .text (String.join (List.replicate n s))
  | .markup s => .markup (String.join (List.replicate n s))
  | .list es => .list (List.replicate n es).flatten
  | .tuple es => .tuple (List.replicate n es).flatten
  | v => v

/-- A sequence repeated by a number on either side. -/
def repetition (v w : Value) : Eval Value :=
  if isRepeatable v then
    match w.whole? with
    | some n => .ok (repeated v n.toNat)
    | none => .error (.repetition w.kind)
  else
    match v.whole? with
    | some n => .ok (repeated w n.toNat)
    | none => .error (.repetition v.kind)

/-- Two values joined by `+` that are not both numbers. -/
def joinValues (v w : Value) : Eval Value :=
  match v, w with
  | .text s, .text t => .ok (.text (s ++ t))
  | .markup s, .markup t => .ok (.markup (s ++ t))
  | .markup s, .text t => .ok (.markup (s ++ escapeText t))
  | .text s, .markup t => .ok (.markup (escapeText s ++ t))
  | .list es, .list fs => .ok (.list (es ++ fs))
  | .tuple es, .tuple fs => .ok (.tuple (es ++ fs))
  | .text _, w => .error (.concatenation "str" w.kind)
  | .list _, w => .error (.concatenation "list" w.kind)
  | .tuple _, w => .error (.concatenation "tuple" w.kind)
  | v, w => .error (.operands "+" v.kind w.kind)

/-- What placeholders see of a value. -/
def formatArgumentOf (v : Value) : FormatArgument where
  display := v.display
  literal := v.listed
  kind := v.kind
  number := v.figure?
  whole := v.whole?
  isText := v.text?.isSome

/-- The arguments a value on the right of `%` stands for. -/
def supplyOf (escape : Bool) (v : Value) : Supply :=
  let argument (w : Value) : FormatArgument :=
    let a := formatArgumentOf w
    if escape then { a with display := w.escaped, literal := escapeText a.literal } else a
  match v with
  | .tuple es => ⟨es.map argument, none, true⟩
  | .dict es => ⟨[argument v], some (es.map fun (k, w) => (k.display, argument w)), false⟩
  | .list _ => ⟨[argument v], none, false⟩
  | v => ⟨[argument v], none, true⟩

/-- A text with its placeholders filled from a value. -/
def fillText (markup : Bool) (s : String) (v : Value) : Eval Value :=
  match percentFormat s (supplyOf markup v) with
  | .ok t => .ok (Value.ofText markup t)
  | .error e => .error (.format e)

def binaryValue (op : BinaryOp) (v w : Value) : Eval Value :=
  match op, v, w with
  | .mod, .text s, w => fillText false s w
  | .mod, .markup s, w => fillText true s w
  | _, .absent a, _ => .error (.absent a)
  | _, _, .absent a => .error (.absent a)
  | op, v, w =>
    match v.figure?, w.figure? with
    | some f, some g => (op.onFigures f g).map Value.ofFigure
    | _, _ =>
      match op with
      | .add => joinValues v w
      | .mul =>
        if isRepeatable v || isRepeatable w then repetition v w
        else .error (.operands op.sign v.kind w.kind)
      | _ => .error (.operands op.sign v.kind w.kind)

/-! ## Elements -/

/-- The customer of an item as a value. -/
def Value.ofCustomer : Option Customer → Value
  | .some c => .customer c
  | .none => .none

/-- The fields of an item as pairs of name and value. -/
def itemFields (i : Item) : List (String × Value) :=
  [("id", .int i.id), ("name", .text i.name), ("valid", .bool i.valid),
   ("description", .text i.description), ("count", .int i.count.val), ("price", .real i.price),
   ("customer", .ofCustomer i.customer)]

/-- The fields of a customer as pairs of name and value. -/
def customerFields (c : Customer) : List (String × Value) :=
  c.fields.map fun (k, v) => (k, .text v)

/-- Elements, and the failure that comes after them if there is one. -/
structure Elements where
  values : List Value
  failure : Option Fault := none

/-- The elements as far as they go, as a failure or a list. -/
def Elements.all (e : Elements) : Eval (List Value) :=
  match e.failure with
  | some f => .error f
  | none => .ok e.values

/-- The elements a value has: characters, keys of mappings, fields of records. -/
def elementsOf : Value → Eval Elements
  | .absent _ => .ok ⟨[], none⟩
  | .text s => .ok ⟨s.toList.map fun c => .text (String.ofList [c]), none⟩
  | .markup s => .ok ⟨s.toList.map fun c => .text (String.ofList [c]), none⟩
  | .list es => .ok ⟨es, none⟩
  | .tuple es => .ok ⟨es, none⟩
  | .dict es => .ok ⟨es.map Prod.fst, none⟩
  | .item i => .ok ⟨(itemFields i).map fun (k, v) => .tuple [.text k, v], none⟩
  | .customer c => .ok ⟨(customerFields c).map fun (k, v) => .tuple [.text k, v], none⟩
  | .range a b s => .ok ⟨Value.rangeElements a b s, none⟩
  | .lazy _ es f => .ok ⟨es, f⟩
  | v => .error (.notIterable v.kind)

/-- The elements of a value as a list. -/
def listOf (v : Value) : Eval (List Value) := do (← elementsOf v).all

/-! ## Order and membership -/

mutual

/-- Whether a value can be a key; the kind of the part that cannot. -/
def unhashable? : Value → Option String
  | .list _ => some "list"
  | .dict _ => some "dict"
  | .slice _ _ _ => some "slice"
  | .tuple es => unhashableAmong? es
  | _ => none

def unhashableAmong? : List Value → Option String
  | [] => none
  | v :: vs => (unhashable? v).or (unhashableAmong? vs)

end

/-- Two lists in turns. -/
def inTurns {α : Type} : List α → List α → List α
  | a :: as, b :: bs => a :: b :: inTurns as bs
  | _, _ => []

/-- The pairs of a list of two in turns. -/
def outOfTurns {α : Type} : List α → List (α × α)
  | a :: b :: rest => (a, b) :: outOfTurns rest
  | _ => []

/-- Sets the entry of a key in place, or adds it at the end. -/
def setEntry (k v : Value) : List (Value × Value) → List (Value × Value)
  | [] => [(k, v)]
  | (l, w) :: es => if l.eqv k then (l, v) :: es else (l, w) :: setEntry k v es

/-- The mapping of keys to values; of equal keys the first one stays, with the last value. -/
def mappingOf (entries : List (Value × Value)) : Eval Value :=
  match entries.filterMap fun (k, _) => unhashable? k with
  | kind :: _ => .error (.unhashable kind)
  | [] => .ok (.dict (entries.foldl (fun es (k, v) => setEntry k v es) []))

/-- The sign of an order comparison. -/
inductive OrderOp where
  | lt
  | le
  | gt
  | ge
  deriving DecidableEq

def OrderOp.sign : OrderOp → String
  | .lt => "<"
  | .le => "<="
  | .gt => ">"
  | .ge => ">="

/-- The outcome from whether the left side is below the right one and whether it is above it. -/
def OrderOp.decide (op : OrderOp) (below above equal : Bool) : Bool :=
  match op with
  | .lt => below
  | .gt => above
  | .le => below || equal
  | .ge => above || equal

/-- The order of two values that are no sequences. -/
def orderAtoms (op : OrderOp) (v w : Value) : Eval Bool :=
  match v, w with
  | .absent a, _ => .error (.absent a)
  | _, .absent a => .error (.absent a)
  | v, w =>
    match v.figure?, w.figure?, v.text?, w.text? with
    | some f, some g, _, _ =>
      .ok (op.decide (figureLt f g) (figureLt g f) (Value.figureEqv f g))
    | _, _, some s, some t => .ok (op.decide (s < t) (t < s) (s == t))
    | _, _, _, _ => .error (.order op.sign v.kind w.kind)

mutual

/-- The order of two values; sequences are compared at their first difference. -/
def orderValues (op : OrderOp) : Value → Value → Eval Bool
  | .list es, w =>
    match w with
    | .list fs => orderSequences op es fs
    | w => orderAtoms op (.list es) w
  | .tuple es, w =>
    match w with
    | .tuple fs => orderSequences op es fs
    | w => orderAtoms op (.tuple es) w
  | v, w => orderAtoms op v w

def orderSequences (op : OrderOp) : List Value → List Value → Eval Bool
  | [], [] => .ok (op.decide false false true)
  | [], _ :: _ => .ok (op.decide true false false)
  | _ :: _, [] => .ok (op.decide false true false)
  | v :: vs, w :: ws => if v.eqv w then orderSequences op vs ws else orderValues op v w

end

/-- Whether a text occurs in another. -/
def occursIn (needle : List Char) : List Char → Bool
  | [] => needle.isEmpty
  | c :: cs => needle.isPrefixOf (c :: cs) || occursIn needle cs

/-- Whether a value is among the elements of another. -/
def member (v container : Value) : Eval Bool :=
  match container with
  | .text t | .markup t =>
    match v.text? with
    | some s => .ok (occursIn s.toList t.toList)
    | none => .error (.textMembership v.kind)
  | .dict es =>
    match unhashable? v with
    | some k => .error (.unhashable k)
    | none => .ok (es.any fun (k, _) => k.eqv v)
  | c =>
    match elementsOf c with
    | .error _ => .error (.noMembership c.kind)
    | .ok e =>
      if e.values.any fun w => w.eqv v then .ok true
      else match e.failure with
        | some f => .error f
        | none => .ok false

def compareValues (op : CompareOp) (v w : Value) : Eval Bool :=
  match op with
  | .eq => .ok (v.eqv w)
  | .ne => .ok (!v.eqv w)
  | .lt => orderValues .lt v w
  | .le => orderValues .le v w
  | .gt => orderValues .gt v w
  | .ge => orderValues .ge v w
  | .mem => member v w
  | .notMem => (member v w).map (!·)

end RenderBench.Template
