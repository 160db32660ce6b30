import RenderBench.Template.Trace

/-!
# `Proofs.Template.Relabel.Basic` — other names of files in values

The name of a template's file is told by what is rendered in few places: it stands in a failure about something
absent, in the names that a failure to find a document lists, and in the definitions that a value holds. A relabelling
puts other names and definitions there. What is displayed of a value, and how values compare, does not look at them.

## Contents
- `Relabelling`, `Labelled`: what is put in, and the data it is put into.
- `bind_relabel`, `foldlM_relabel`, `mapM_relabel`: steps of an evaluation.
- `listed_relabel`, `display_relabel`: how values are written.
- `eqv_relabel`: when values are equal.
-/

namespace RenderBench.Template

/-- What is put in the place of the names of files, of definitions and of lines. It keeps the names of definitions,
    which is all that is displayed of them. -/
structure Relabelling where
  file : Option String → Option String
  definition : Definition → Definition
  definition_name : ∀ d, (definition d).name = d.name
  /-- What becomes of the lines of a document. -/
  line : Nat → Nat := id
  /-- The blocks that values may be references to; a reference to another one is changed. -/
  keeps : String → Bool := fun _ => true
  /-- The blocks that there are in scopes. -/
  shows : String → Bool := fun _ => true

/-- Data in which a relabelling changes something. -/
class Labelled (α : Type) where
  relabel : Relabelling → α → α

export Labelled (relabel)

variable {α β : Type} {r : Relabelling}

/-- Only a false conditional without an alternative tells where it stands. -/
def Absence.relabel (r : Relabelling) : Absence → Absence
  | .alternative line template => .alternative (r.line line) (r.file template)
  | a => a

/-- A candidate for a document is a name, which stays, or a value that is absent. -/
def Candidate.relabel (r : Relabelling) : Candidate → Candidate
  | .absent a => .absent (a.relabel r)
  | .name n => .name n

/-- Why a document was not found: the candidates may be absent values, which tell where they come from. -/
def Missing.relabel (r : Relabelling) : Missing → Missing
  | .file reason => .file reason
  | .noCandidates => .noCandidates
  | .noneOf cs => .noneOf (cs.map (Candidate.relabel r))

/-- Two kinds of failures tell a file: something absent that is used, and a document that is not found. -/
def Fault.relabel (r : Relabelling) : Fault → Fault
  | .absent a => .absent (a.relabel r)
  | .templateMissing reason => .templateMissing (reason.relabel r)
  | f => f

mutual

/-- A value with the labels changed that it holds, at any depth. A reference to a block that is not kept becomes one
    to another level of it, so that only references to kept blocks stay. -/
def Value.relabel (r : Relabelling) : Value → Value
  | .absent a => .absent (a.relabel r)
  | .none => .none
  | .bool b => .bool b
  | .int i => .int i
  | .real x => .real x
  | .text s => .text s
  | .markup s => .markup s
  | .list es => .list (Value.relabelAll r es)
  | .tuple es => .tuple (Value.relabelAll r es)
  | .dict es => .dict (Value.relabelEntries r es)
  | .item i => .item i
  | .customer c => .customer c
  | .range a b s => .range a b s
  | .foreign f => .foreign f
  | .lazy k es failure => .lazy k (Value.relabelAll r es) (failure.map (Fault.relabel r))
  | .slice a b c => .slice (a.relabel r) (b.relabel r) (c.relabel r)
  | .loop i n previous next =>
    .loop i n (Value.relabelAll r previous) (Value.relabelAll r next)
  | .cycle i => .cycle i
  | .rangeFunction => .rangeFunction
  | .definition d => .definition (r.definition d)
  | .itself t names => .itself t (names.filter r.keeps)
  | .blockRef n l => .blockRef n (if r.keeps n then l else l + 1)
  | .caller body => .caller (body.mapError (Fault.relabel r))

/-- The elements of a list, a tuple or a lazy sequence. -/
def Value.relabelAll (r : Relabelling) : List Value → List Value
  | [] => []
  | v :: vs => v.relabel r :: Value.relabelAll r vs

/-- The entries of a mapping, the keys included. -/
def Value.relabelEntries (r : Relabelling) : List (Value × Value) → List (Value × Value)
  | [] => []
  | (k, v) :: es => (k.relabel r, v.relabel r) :: Value.relabelEntries r es

end

/-! ## Instances -/

instance : Labelled Unit := ⟨fun _ u => u⟩
instance : Labelled Bool := ⟨fun _ b => b⟩
instance : Labelled Nat := ⟨fun _ n => n⟩
instance : Labelled Int := ⟨fun _ i => i⟩
instance : Labelled String := ⟨fun _ s => s⟩
instance : Labelled Fault := ⟨Fault.relabel⟩
instance : Labelled Value := ⟨Value.relabel⟩

instance [Labelled α] : Labelled (Option α) := ⟨fun r => Option.map (relabel r)⟩
instance [Labelled α] : Labelled (List α) := ⟨fun r => List.map (relabel r)⟩
instance [Labelled α] [Labelled β] : Labelled (α × β) := ⟨fun r => Prod.map (relabel r) (relabel r)⟩

instance [Labelled α] : Labelled (Eval α) where
  relabel r
    | .ok a => .ok (relabel r a)
    | .error f => .error (f.relabel r)

instance [Labelled α] : Labelled (Trace α) where
  relabel r t := ⟨t.chunks, relabel r t.result⟩

@[simp] theorem relabel_unit : (relabel r : Unit → Unit) = id := rfl
@[simp] theorem relabel_bool : (relabel r : Bool → Bool) = id := rfl
@[simp] theorem relabel_nat : (relabel r : Nat → Nat) = id := rfl
@[simp] theorem relabel_int : (relabel r : Int → Int) = id := rfl
@[simp] theorem relabel_string : (relabel r : String → String) = id := rfl
@[simp] theorem relabel_fault : (relabel r : Fault → Fault) = Fault.relabel r := rfl
@[simp] theorem relabel_value : (relabel r : Value → Value) = Value.relabel r := rfl
@[simp] theorem relabel_option [Labelled α] :
    (relabel r : Option α → Option α) = Option.map (relabel r) := rfl
/-- The rules by which `relabel` goes down the data are simp lemmas, each true by the definition of its instance. -/
@[simp] theorem relabel_list [Labelled α] :
    (relabel r : List α → List α) = List.map (relabel r) := rfl
@[simp] theorem relabel_prod [Labelled α] [Labelled β] :
    (relabel r : α × β → α × β) = Prod.map (relabel r) (relabel r) := rfl
/-- A step that succeeds is relabelled in what it gives, and one that fails in its failure. -/
@[simp] theorem relabel_ok [Labelled α] (a : α) : relabel r (.ok a : Eval α) = .ok (relabel r a) := rfl
@[simp] theorem relabel_error [Labelled α] (f : Fault) :
    relabel r (.error f : Eval α) = .error (f.relabel r) := rfl

attribute [simp] Fault.relabel

/-- The recursion over elements is a map, so that the lemmas on lists apply to it. -/
@[simp] theorem Value.relabelAll_eq (vs : List Value) : Value.relabelAll r vs = vs.map (Value.relabel r) := by
  induction vs with
  | nil => rfl
  | cons v vs ih => rw [Value.relabelAll, ih, List.map_cons]

/-- The recursion over entries is a map of both components. -/
@[simp] theorem Value.relabelEntries_eq (es : List (Value × Value)) :
    Value.relabelEntries r es = es.map (Prod.map (Value.relabel r) (Value.relabel r)) := by
  induction es with
  | nil => rfl
  | cons e es ih => rw [Value.relabelEntries, ih, List.map_cons, Prod.map]

/-- A step and then another one. -/
theorem bind_relabel [Labelled α] [Labelled β] {x x' : Eval α} {f f' : α → Eval β} (hx : x' = relabel r x)
    (hf : ∀ a, f' (relabel r a) = relabel r (f a)) : (x' >>= f') = relabel r (x >>= f) := by
  subst hx
  cases x with
  | ok a => exact hf a
  | error e => rfl

/-- A loop with an accumulator goes through the same values, relabelled, if each round does. -/
theorem foldlM_relabel [Labelled α] [Labelled β] {f f' : β → α → Eval β}
    (hf : ∀ b a, f' (relabel r b) (relabel r a) = relabel r (f b a)) (xs : List α) : ∀ b,
    (relabel r xs).foldlM f' (relabel r b) = relabel r (xs.foldlM f b) := by
  induction xs with
  | nil => exact fun _ => rfl
  | cons x xs ih => exact fun b => bind_relabel (hf b x) ih

/-- A loop that gathers results gathers them relabelled. -/
theorem mapM_relabel [Labelled α] [Labelled β] {f f' : α → Eval β}
    (hf : ∀ a, f' (relabel r a) = relabel r (f a)) (xs : List α) :
    (relabel r xs).mapM f' = relabel r (xs.mapM f) := by
  induction xs with
  | nil => rfl
  | cons x xs ih =>
    rw [relabel_list, List.map_cons, List.mapM_cons, List.mapM_cons]
    exact bind_relabel (hf x) fun _ => bind_relabel ih fun _ => rfl

variable (v w : Value)

namespace Value

/-- The kind of a value is told in failures, and does not depend on labels. -/
@[simp] theorem kind_relabel : (v.relabel r).kind = v.kind := by cases v <;> rfl

@[simp] theorem objectKind_relabel : (v.relabel r).objectKind = v.objectKind := by
  cases v with
  | foreign f => cases f <;> rfl
  | _ => rfl

/-- How a list is written, by its elements; the recursion of `listed` goes through rows of elements. -/
theorem listed_list (es : List Value) :
    (Value.list es).listed = "[" ++ String.intercalate ", " (listedAll es) ++ "]" := rfl

/-- A tuple of one element has a comma behind it. -/
theorem listed_single (e : Value) : (Value.tuple [e]).listed = "(" ++ e.listed ++ ",)" := rfl

theorem listed_tuple (e e' : Value) (es : List Value) : (Value.tuple (e :: e' :: es)).listed =
    "(" ++ String.intercalate ", " (listedAll (e :: e' :: es)) ++ ")" := rfl

theorem listed_dict (es : List (Value × Value)) :
    (Value.dict es).listed = "\x7b" ++ String.intercalate ", " (listedEntries es) ++ "\x7d" := rfl

theorem listed_slice (a b c : Value) : (Value.slice a b c).listed =
    "slice(" ++ a.listed ++ ", " ++ b.listed ++ ", " ++ c.listed ++ ")" := rfl

theorem listed_definition (d : Definition) :
    (Value.definition d).listed = "<Macro " ++ quoted d.name ++ ">" := rfl

mutual

/-- No value shows a label when it is written inside another one. -/
theorem listed_relabel : ∀ v : Value, (v.relabel r).listed = v.listed
  | .list es => by simp only [relabel, relabelAll_eq, listed_list, listedAll_relabel es]
  | .tuple [] => rfl
  | .tuple [e] => by simp only [relabel, relabelAll, listed_single, listed_relabel e]
  | .tuple (e :: e' :: es) => by
    simp only [relabel, relabelAll_eq, List.map_cons, listed_tuple, listedAll, listed_relabel e,
      listed_relabel e', listedAll_relabel es]
  | .dict es => by simp only [relabel, relabelEntries_eq, listed_dict, listedEntries_relabel es]
  | .slice a b c => by
    simp only [relabel, listed_slice, listed_relabel a, listed_relabel b, listed_relabel c]
  | .definition d => by simp only [relabel, listed_definition, r.definition_name]
  | .absent _ | .lazy _ _ _ | .loop _ _ _ _ | .itself _ _ | .blockRef _ _ | .caller _ => rfl
  | .none | .bool _ | .int _ | .real _ | .text _ | .markup _ | .item _ | .customer _
  | .range _ _ _ | .foreign _ | .cycle _ | .rangeFunction => by
    simp only [relabel]

/-- Rows of elements are written alike. -/
theorem listedAll_relabel : ∀ vs : List Value, listedAll (vs.map (Value.relabel r)) = listedAll vs
  | [] => rfl
  | v :: vs => by simp only [List.map_cons, listedAll, listed_relabel v, listedAll_relabel vs]

theorem listedEntries_relabel : ∀ es : List (Value × Value),
    listedEntries (es.map (Prod.map (Value.relabel r) (Value.relabel r))) = listedEntries es
  | [] => rfl
  | (k, v) :: es => by
    simp only [List.map_cons, Prod.map, listedEntries, listed_relabel k, listed_relabel v,
      listedEntries_relabel es]

end

attribute [simp] listed_relabel

/-- No value shows a label when it is written by itself, where a text is written as it is. -/
@[simp] theorem display_relabel : (v.relabel r).display = v.display := by
  cases v with
  | list es => exact listed_relabel (.list es)
  | tuple es => exact listed_relabel (.tuple es)
  | dict es => exact listed_relabel (.dict es)
  | slice a b c => exact listed_relabel (.slice a b c)
  | definition d => exact listed_relabel (.definition d)
  | _ => rfl

/-- What a value is as a text, a number or a truth value is told without labels. -/
@[simp] theorem text?_relabel : (v.relabel r).text? = v.text? := by cases v <;> rfl
@[simp] theorem isMarkup_relabel : (v.relabel r).isMarkup = v.isMarkup := by cases v <;> rfl
@[simp] theorem isAbsent_relabel : (v.relabel r).isAbsent = v.isAbsent := by cases v <;> rfl
@[simp] theorem figure?_relabel : (v.relabel r).figure? = v.figure? := by cases v <;> rfl
@[simp] theorem whole?_relabel : (v.relabel r).whole? = v.whole? := by cases v <;> rfl

/-- Conditions are decided alike. -/
@[simp] theorem isTruthy_relabel : (v.relabel r).isTruthy = v.isTruthy := by
  cases v <;> simp [isTruthy, relabel]

/-- Values that hold no others are compared without a look at their labels. -/
theorem atomEqv_relabel : atomEqv (v.relabel r) (w.relabel r) = atomEqv v w := by
  unfold atomEqv
  rw [figure?_relabel, figure?_relabel, text?_relabel, text?_relabel]
  cases v with
  | list es => cases w <;> rfl
  | tuple es => cases w <;> rfl
  | dict es => cases w <;> rfl
  | _ => cases w <;> rfl

/-- Mappings are equal if they are equally long and each entry of one is found in the other. -/
theorem eqv_dict (es fs : List (Value × Value)) :
    eqv (.dict es) (.dict fs) = (es.length == fs.length && eqvEntries es fs) := rfl

/-- Equality of values that hold no others. -/
theorem eqv_atom_relabel (hlist : ∀ es, v ≠ .list es) (htuple : ∀ es, v ≠ .tuple es)
    (hdict : ∀ es, v ≠ .dict es) : eqv (v.relabel r) (w.relabel r) = eqv v w := by
  have hatom := atomEqv_relabel (r := r) v w
  cases v with
  | list es => exact absurd rfl (hlist es)
  | tuple es => exact absurd rfl (htuple es)
  | dict es => exact absurd rfl (hdict es)
  | _ => exact hatom

mutual

/-- Relabelled values are equal exactly if the values are. The induction is on both, since the elements of two lists
    are compared pair by pair. -/
theorem eqv_relabel : ∀ v w : Value, eqv (v.relabel r) (w.relabel r) = eqv v w
  | .list es, w => by
    cases w with
    | list fs =>
      simp only [relabel, relabelAll_eq]
      exact eqvAll_relabel es fs
    | _ => rfl
  | .tuple es, w => by
    cases w with
    | tuple fs =>
      simp only [relabel, relabelAll_eq]
      exact eqvAll_relabel es fs
    | _ => rfl
  | .dict es, w => by
    cases w with
    | dict fs =>
      simp only [relabel, relabelEntries_eq, eqv_dict, List.length_map, eqvEntries_relabel es fs]
    | _ => rfl
  | .absent _, w | .none, w | .bool _, w | .int _, w | .real _, w | .text _, w | .markup _, w
  | .item _, w | .customer _, w | .range _ _ _, w | .foreign _, w | .lazy _ _ _, w | .slice _ _ _, w
  | .loop _ _ _ _, w | .cycle _, w | .rangeFunction, w | .definition _, w | .itself _ _, w
  | .blockRef _ _, w | .caller _, w => eqv_atom_relabel _ w nofun nofun nofun

/-- Rows of elements are equal alike. -/
theorem eqvAll_relabel : ∀ vs ws : List Value,
    eqvAll (vs.map (Value.relabel r)) (ws.map (Value.relabel r)) = eqvAll vs ws
  | [], [] | [], _ :: _ | _ :: _, [] => rfl
  | v :: vs, w :: ws => by simp only [List.map_cons, eqvAll, eqv_relabel v w, eqvAll_relabel vs ws]

/-- The entries of mappings are found alike: a key is looked for by equality. -/
theorem eqvEntries_relabel : ∀ es fs : List (Value × Value),
    eqvEntries (es.map (Prod.map (Value.relabel r) (Value.relabel r)))
      (fs.map (Prod.map (Value.relabel r) (Value.relabel r))) = eqvEntries es fs
  | [], _ => rfl
  | (k, v) :: es, fs => by
    simp only [List.map_cons, Prod.map, eqvEntries, List.any_map, Function.comp_def, eqv_relabel k,
      eqv_relabel v, eqvEntries_relabel es fs]

end

end Value

end RenderBench.Template
