import RenderBench.Datum.Basic
import RenderBench.Item.Basic
import RenderBench.Number.Figure
import RenderBench.Template.Fault
import RenderBench.Template.Syntax

/-!
# `Template.Value` — what expressions evaluate to

Values are data, items and customers, things that are not there, and what a template can call.

## Contents
- `Value`: the values; `Value.ofDatum`, `Value.ofLiteral`, `Value.literal?`.
- `Value.kind`, `Value.objectKind`: how messages name them.
- `Value.display`, `Value.listed`: the two written forms.
- `Value.isTruthy`, `Value.figure?`: truth, and numbers.
- `Value.eqv`: equality.
-/

namespace RenderBench.Template

/-- A definition a template can call: its parameters, the defaults of the last ones, and its body. -/
structure Definition where
  name : String
  params : List String
  defaults : List Expr
  body : List Stmt
  /-- How many scopes were open where it was defined. -/
  depth : Nat
  /-- Whether its output is escaped. -/
  escape : Bool

inductive Value where
  | absent (a : Absence)
  | none
  | bool (b : Bool)
  | int (i : Int)
  | real (x : Binary64)
  | text (s : String)
  /-- A text that needs no escaping. -/
  | markup (s : String)
  | list (elements : List Value)
  | tuple (elements : List Value)
  | dict (entries : List (Value × Value))
  | item (i : Item)
  | customer (c : Customer)
  | range (start stop step : Int)
  | foreign (f : Foreign)
  /-- Elements that are computed one after the other, and the failure they may end with. -/
  | lazy (kind : String) (elements : List Value) (failure : Option Fault)
  | slice (start stop step : Value)
  /-- The state of a loop: the index, the number of elements, and the elements around the current one. -/
  | loop (index length : Nat) (previous next : List Value)
  /-- The choice of a loop's arguments by its index. -/
  | cycle (index : Nat)
  | rangeFunction
  | definition (d : Definition)
  /-- The template itself, with the name of its file and those of its blocks, which are its members. -/
  | itself (template : Option String) (blocks : List String)
  /-- A block of the template, so many levels up. -/
  | blockRef (name : String) (level : Nat)
  /-- The body of a call, already rendered. -/
  | caller (body : Except Fault String)

namespace Value

instance : Inhabited Value := ⟨.none⟩

mutual

def ofDatum : Datum → Value
  | .null => .none
  | .bool b => .bool b
  | .int i => .int i
  | .real x => .real x
  | .text s => .text s
  | .list es => .list (ofDatums es)
  | .dict es => .dict (ofEntries es)
  | .foreign f => .foreign f

def ofDatums : List Datum → List Value
  | [] => []
  | d :: ds => ofDatum d :: ofDatums ds

def ofEntries : List (String × Datum) → List (Value × Value)
  | [] => []
  | (k, d) :: es => (.text k, ofDatum d) :: ofEntries es

end

mutual

def ofLiteral : Literal → Value
  | .none => .none
  | .bool b => .bool b
  | .int i => .int i
  | .real x => .real x
  | .text s => .text s
  | .markup s => .markup s
  | .list es => .list (ofLiterals es)
  | .tuple es => .tuple (ofLiterals es)
  | .dict ks vs => .dict ((ofLiterals ks).zip (ofLiterals vs))

def ofLiterals : List Literal → List Value
  | [] => []
  | l :: ls => ofLiteral l :: ofLiterals ls

end

mutual

/-- The value as a literal, if it is plain data. -/
def literal? : Value → Option Literal
  | .none => some .none
  | .bool b => some (.bool b)
  | .int i => some (.int i)
  | .real x => some (.real x)
  | .text s => some (.text s)
  | .markup s => some (.markup s)
  | .list es => (literals? es).map .list
  | .tuple es => (literals? es).map .tuple
  | .dict es => (entryLiterals? es).map fun (ks, vs) => .dict ks vs
  | _ => Option.none

def literals? : List Value → Option (List Literal)
  | [] => some []
  | v :: vs =>
    match literal? v, literals? vs with
    | some l, some ls => some (l :: ls)
    | _, _ => Option.none

def entryLiterals? : List (Value × Value) → Option (List Literal × List Literal)
  | [] => some ([], [])
  | (k, v) :: es =>
    match literal? k, literal? v, entryLiterals? es with
    | some k, some v, some (ks, vs) => some (k :: ks, v :: vs)
    | _, _, _ => Option.none

end

/-! ## Kinds -/

/-- The name of a value's kind. -/
def kind : Value → String
  | .absent _ => "Undefined"
  | .none => "NoneType"
  | .bool _ => "bool"
  | .int _ => "int"
  | .real _ => "float"
  | .text _ => "str"
  | .markup _ => "Markup"
  | .list _ => "list"
  | .tuple _ => "tuple"
  | .dict _ => "dict"
  | .item _ => "TableItem"
  | .customer _ => "Customer"
  | .range _ _ _ => "range"
  | .foreign f => f.kind
  | .lazy k _ _ => k
  | .slice _ _ _ => "slice"
  | .loop _ _ _ _ => "LoopContext"
  | .cycle _ => "method"
  | .rangeFunction => "type"
  | .definition _ => "Macro"
  | .itself _ _ => "TemplateReference"
  | .blockRef _ _ => "BlockReference"
  | .caller _ => "Macro"

/-- The name of a value's kind in messages about missing members. -/
def objectKind : Value → String
  | .none => "None"
  | .markup _ => "markupsafe.Markup object"
  | .item _ => "tablebench.domain.models.TableItem object"
  | .customer _ => "tablebench.domain.models.Customer object"
  | .foreign (.path _) => "pathlib.PosixPath object"
  | .absent _ => "jinja2.runtime.Undefined object"
  | .loop _ _ _ _ => "jinja2.runtime.LoopContext object"
  | .definition _ | .caller _ => "jinja2.runtime.Macro object"
  | .itself _ _ => "jinja2.runtime.TemplateReference object"
  | .blockRef _ _ => "jinja2.runtime.BlockReference object"
  | v => v.kind ++ " object"

/-! ## Text -/

mutual

/-- The form of a value inside a listing. -/
def listed : Value → String
  | .absent _ => "Undefined"
  | .none => "None"
  | .bool b => Datum.boolText b
  | .int i => intText i
  | .real x => x.text
  | .text s => quoted s
  | .markup s => "Markup(" ++ quoted s ++ ")"
  | .list es => "[" ++ String.intercalate ", " (listedAll es) ++ "]"
  | .tuple [e] => "(" ++ listed e ++ ",)"
  | .tuple es => "(" ++ String.intercalate ", " (listedAll es) ++ ")"
  | .dict es => "\x7b" ++ String.intercalate ", " (listedEntries es) ++ "\x7d"
  | .item i => i.literal
  | .customer c => c.literal
  | .range a b s =>
    "range(" ++ intText a ++ ", " ++ intText b ++
      (if s = 1 then "" else ", " ++ intText s) ++ ")"
  | .foreign f => f.literal
  | .lazy k _ _ => "<" ++ k ++ " object>"
  | .slice a b c => "slice(" ++ listed a ++ ", " ++ listed b ++ ", " ++ listed c ++ ")"
  | .loop i n _ _ => "<LoopContext " ++ natText (i + 1) ++ "/" ++ natText n ++ ">"
  | .cycle _ => "<bound method LoopContext.cycle>"
  | .rangeFunction => "<class 'range'>"
  | .definition d => "<Macro " ++ quoted d.name ++ ">"
  | .itself t _ => "<TemplateReference " ++ t.elim "None" quoted ++ ">"
  | .blockRef _ _ => "<BlockReference>"
  | .caller _ => "<Macro 'caller'>"

def listedAll : List Value → List String
  | [] => []
  | v :: vs => listed v :: listedAll vs

def listedEntries : List (Value × Value) → List String
  | [] => []
  | (k, v) :: es => (listed k ++ ": " ++ listed v) :: listedEntries es

end

/-- The form of a value by itself: a text as it is, nothing for what is not there. -/
def display : Value → String
  | .absent _ => ""
  | .text s => s
  | .markup s => s
  | .item i => i.display
  | .customer c => c.display
  | .foreign f => f.text
  | v => v.listed

/-- The characters of a text. -/
def text? : Value → Option String
  | .text s => some s
  | .markup s => some s
  | _ => Option.none

def isMarkup : Value → Bool
  | .markup _ => true
  | _ => false

def isAbsent : Value → Bool
  | .absent _ => true
  | _ => false

/-! ## Numbers and truth -/

/-- The number of elements of a range. -/
def rangeLength (start stop step : Int) : Nat :=
  if 0 < step then ((stop - start + step - 1) / step).toNat
  else if step < 0 then ((start - stop + -step - 1) / -step).toNat
  else 0

/-- The elements of a range. -/
def rangeElements (start stop step : Int) : List Value :=
  (List.range (rangeLength start stop step)).map fun (k : Nat) => .int (start + k * step)

/-- The value as a number; truth values count as 1 and 0. -/
def figure? : Value → Option Figure
  | .bool b => some (.whole (if b then 1 else 0))
  | .int i => some (.whole i)
  | .real x => some (.real x)
  | _ => Option.none

/-- The value as a whole number; truth values count as 1 and 0. -/
def whole? : Value → Option Int
  | .bool b => some (if b then 1 else 0)
  | .int i => some i
  | _ => Option.none

/-- A value counts as true unless it is absent, none, false, zero or empty. -/
def isTruthy : Value → Bool
  | .absent _ => false
  | .none => false
  | .bool b => b
  | .int i => i != 0
  | .real x => !x.isZero
  | .text s => !s.isEmpty
  | .markup s => !s.isEmpty
  | .list es => !es.isEmpty
  | .tuple es => !es.isEmpty
  | .dict es => !es.isEmpty
  | .range a b s => rangeLength a b s != 0
  | .foreign f => f.isTruthy
  | _ => true

/-! ## Equality -/

/-- Whether a whole number and a real number are equal. -/
def wholeEqvReal (i : Int) (x : Binary64) : Bool :=
  match x.toRatio? with
  | some (n, d) => n == i * d
  | Option.none => false

/-- Numerical equality. -/
def figureEqv : Figure → Figure → Bool
  | .whole i, .whole j => i == j
  | .whole i, .real y => wholeEqvReal i y
  | .real x, .whole j => wholeEqvReal j x
  | .real x, .real y => x.eqv y

/-- Whether two values are equal when they hold no other values. -/
def atomEqv (v w : Value) : Bool :=
  match v.figure?, w.figure?, v.text?, w.text? with
  | some f, some g, _, _ => figureEqv f g
  | _, _, some s, some t => s == t
  | _, _, _, _ =>
    match v, w with
    | .absent _, .absent _ => true
    | .none, .none => true
    | .item i, .item j => i.same j
    | .customer c, .customer d => c == d
    | .range a b s, .range c d t =>
      let n := rangeLength a b s
      n == rangeLength c d t && (n == 0 || (a == c && (n == 1 || s == t)))
    | .foreign f, .foreign g => f == g
    | .itself _ _, .itself _ _ => true
    | .rangeFunction, .rangeFunction => true
    | _, _ => false

mutual

def eqv : Value → Value → Bool
  | .list es, w =>
    match w with
    | .list fs => eqvAll es fs
    | _ => false
  | .tuple es, w =>
    match w with
    | .tuple fs => eqvAll es fs
    | _ => false
  | .dict es, w =>
    match w with
    | .dict fs => es.length == fs.length && eqvEntries es fs
    | _ => false
  | v, w => atomEqv v w

def eqvAll : List Value → List Value → Bool
  | [], [] => true
  | v :: vs, w :: ws => eqv v w && eqvAll vs ws
  | _, _ => false

/-- Whether every entry is among others. -/
def eqvEntries : List (Value × Value) → List (Value × Value) → Bool
  | [], _ => true
  | (k, v) :: es, fs => (fs.any fun (l, w) => eqv k l && eqv v w) && eqvEntries es fs

end

end Value

end RenderBench.Template
