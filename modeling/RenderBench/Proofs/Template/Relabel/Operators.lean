import RenderBench.Proofs.Template.Relabel.Basic

/-!
# `Proofs.Template.Relabel.Operators` — operators under a relabelling

Operators between figures may fail, but no such failure names a file. So it is enough to know that the values that
they are applied to are relabelled, and that texts are made without a look at the labels.

## Contents
- `Unlabelled`: evaluations that do not fail with a name.
- `fillText_relabel`: placeholders in a text.
- `unaryValue_relabel`, `binaryValue_relabel`: operators.
-/

namespace RenderBench.Template

variable {α β : Type} {r : Relabelling} (v w : Value)

namespace Value

/-- What is written of a value is told by how it is displayed and by whether it is markup; neither shows a label. -/
@[simp] theorem escaped_relabel : (v.relabel r).escaped = v.escaped := by
  have hdisplay := display_relabel (r := r) v
  cases v with
  | markup s => rfl
  | _ => exact congrArg escapeText hdisplay

@[simp] theorem written_relabel (escape : Bool) : (v.relabel r).written escape = v.written escape := by
  simp [written]

@[simp] theorem soft_relabel : (v.relabel r).soft = v.soft := by
  have hdisplay := display_relabel (r := r) v
  cases v with
  | markup s => rfl
  | _ => exact congrArg Value.text hdisplay

/-- A value that has become text holds no label. -/
@[simp] theorem relabel_soft : v.soft.relabel r = v.soft := by cases v <;> rfl

@[simp] theorem relabel_ofText (markup : Bool) (s : String) : (ofText markup s).relabel r = ofText markup s := by
  cases markup <;> rfl

@[simp] theorem joinSoft_relabel (markupToo : Bool) (vs : List Value) :
    joinSoft markupToo (vs.map (Value.relabel r)) = joinSoft markupToo vs := by
  simp [joinSoft, Function.comp_def]

@[simp] theorem relabel_ofFigure (f : Figure) : (ofFigure f).relabel r = ofFigure f := by cases f <;> rfl

end Value

/-- Signs and negation. -/
theorem unaryValue_relabel (op : UnaryOp) :
    unaryValue op (v.relabel r) = relabel r (unaryValue op v) := by
  cases op with
  | not => simp only [unaryValue, Value.isTruthy_relabel, relabel_ok, relabel_value, Value.relabel]
  | _ => cases v <;> rfl

@[simp] theorem isRepeatable_relabel : isRepeatable (v.relabel r) = isRepeatable v := by cases v <;> rfl

theorem repeated_relabel (n : Nat) : repeated (v.relabel r) n = (repeated v n).relabel r := by
  cases v <;> simp [repeated, Value.relabel, List.map_flatten]

/-- A text or a row, repeated by a number. -/
theorem repetition_relabel : repetition (v.relabel r) (w.relabel r) = relabel r (repetition v w) := by
  simp only [repetition, isRepeatable_relabel, Value.whole?_relabel, Value.kind_relabel, repeated_relabel]
  split <;> split <;> rfl

/-- Two texts or two rows, joined. -/
theorem joinValues_relabel : joinValues (v.relabel r) (w.relabel r) = relabel r (joinValues v w) := by
  cases v with
  | list es =>
    cases w with
    | list fs => simp [joinValues, Value.relabel]
    | _ => rfl
  | tuple es =>
    cases w with
    | tuple fs => simp [joinValues, Value.relabel]
    | _ => rfl
  | text s => cases w <;> rfl
  | markup s => cases w <;> rfl
  | _ =>
    -- nothing can be joined to the first value, and of the second one only its kind is told
    have hkind := Value.kind_relabel (r := r) w
    exact congrArg (fun k => (.error (.operands "+" _ k) : Eval Value)) hkind

@[simp] theorem formatArgumentOf_relabel : formatArgumentOf (v.relabel r) = formatArgumentOf v := by
  simp [formatArgumentOf]

/-- What placeholders see of a value in escaped and in plain output. -/
def argumentOf (escape : Bool) (v : Value) : FormatArgument :=
  let a := formatArgumentOf v
  if escape then { a with display := v.escaped, literal := escapeText a.literal } else a

theorem argumentOf_relabel (escape : Bool) : argumentOf escape (v.relabel r) = argumentOf escape v := by
  simp only [argumentOf, formatArgumentOf_relabel, Value.escaped_relabel]

/-- What fills the places of a text: a value by itself, a row or a mapping. -/
@[simp] theorem supplyOf_relabel (escape : Bool) : supplyOf escape (v.relabel r) = supplyOf escape v := by
  have hargument := argumentOf_relabel (r := r) v escape
  cases v with
  | tuple es =>
    rw [Value.relabel, Value.relabelAll_eq]
    show (⟨(es.map (Value.relabel r)).map (argumentOf escape), none, true⟩ : Supply) =
      ⟨es.map (argumentOf escape), none, true⟩
    simp only [List.map_map, Function.comp_def, argumentOf_relabel]
  | dict es =>
    have hentries : ((es.map (Prod.map (Value.relabel r) (Value.relabel r))).map
        fun e => (e.1.display, argumentOf escape e.2)) =
          es.map fun e => (e.1.display, argumentOf escape e.2) := by
      simp only [List.map_map, Function.comp_def, Prod.map, Value.display_relabel, argumentOf_relabel]
    rw [Value.relabel, Value.relabelEntries_eq] at hargument ⊢
    show (⟨[argumentOf escape _], some _, false⟩ : Supply) = ⟨[argumentOf escape _], some _, false⟩
    rw [hargument]
    exact congrArg (fun es => (⟨_, some es, false⟩ : Supply)) hentries
  | list es => exact congrArg (fun a => (⟨[a], none, false⟩ : Supply)) hargument
  | _ => exact congrArg (fun a => (⟨[a], none, true⟩ : Supply)) hargument

/-- A text whose places are filled. -/
theorem fillText_relabel (markup : Bool) (s : String) :
    fillText markup s (v.relabel r) = relabel r (fillText markup s v) := by
  simp only [fillText, supplyOf_relabel]
  split <;> simp

/-- An evaluation that does not fail, or fails with a fault that names nothing. -/
def Unlabelled (r : Relabelling) (x : Eval α) : Prop := ∀ f, x = .error f → f.relabel r = f

/-- An evaluation that succeeds with no failure to relabel. -/
theorem unlabelled_ok (a : α) : Unlabelled r (.ok a : Eval α) := fun _ h => nomatch h

theorem unlabelled_error {f : Fault} (h : f.relabel r = f) : Unlabelled r (.error f : Eval α) := by
  intro f' hf
  cases hf
  exact h

/-- The rule for steps one after the other. -/
theorem Unlabelled.bind {x : Eval α} {f : α → Eval β} (hx : Unlabelled r x) (hf : ∀ a, Unlabelled r (f a)) :
    Unlabelled r (x >>= f) := by
  cases x with
  | ok a => exact hf a
  | error e => exact unlabelled_error (hx e rfl)

theorem unlabelled_ite {c : Prop} [Decidable c] {x y : Eval α} (hx : Unlabelled r x) (hy : Unlabelled r y) :
    Unlabelled r (if c then x else y) := by
  split
  · exact hx
  · exact hy

theorem unlabelled_realOf (f : Figure) : Unlabelled r (realOf f) := by
  cases f with
  | whole i => exact unlabelled_ite (unlabelled_ok _) (unlabelled_error rfl)
  | real x => exact unlabelled_ok x

theorem unlabelled_onFigures {whole : Int → Int → Eval Figure} {real : Binary64 → Binary64 → Eval Figure}
    (hwhole : ∀ i j, Unlabelled r (whole i j)) (hreal : ∀ x y, Unlabelled r (real x y)) (f g : Figure) :
    Unlabelled r (onFigures whole real f g) := by
  have hboth : Unlabelled r (do real (← realOf f) (← realOf g)) :=
    (unlabelled_realOf f).bind fun x => (unlabelled_realOf g).bind fun y => hreal x y
  cases f with
  | whole i =>
    cases g with
    | whole j => exact hwhole i j
    | real y => exact hboth
  | real x => exact hboth

theorem unlabelled_powReal (x y : Binary64) : Unlabelled r (powReal x y) :=
  unlabelled_ite (unlabelled_error rfl) (unlabelled_ite (unlabelled_ok _) (unlabelled_error rfl))

/-- Arithmetic fails with kinds and bounds, which hold no labels. -/
theorem unlabelled_figures (op : BinaryOp) (f g : Figure) : Unlabelled r (op.onFigures f g) := by
  cases op with
  | add | sub | mul => exact unlabelled_onFigures (fun _ _ => unlabelled_ok _) (fun _ _ => unlabelled_ok _) f g
  | div =>
    exact unlabelled_onFigures
      (fun _ _ => unlabelled_ite (unlabelled_error rfl) (unlabelled_ite (unlabelled_ok _) (unlabelled_error rfl)))
      (fun _ _ => unlabelled_ite (unlabelled_error rfl) (unlabelled_ok _)) f g
  | floorDiv | mod =>
    exact unlabelled_onFigures (fun _ _ => unlabelled_ite (unlabelled_error rfl) (unlabelled_ok _))
      (fun _ _ => unlabelled_ite (unlabelled_error rfl) (unlabelled_ok _)) f g
  | pow =>
    exact unlabelled_onFigures
      (fun i j => unlabelled_ite (unlabelled_ok _) ((unlabelled_realOf _).bind fun x =>
        (unlabelled_realOf _).bind fun y => unlabelled_powReal x y))
      unlabelled_powReal f g

/-- An operator between two values that are there, unless it fills a text. -/
def presentValue (op : BinaryOp) (v w : Value) : Eval Value :=
  match v.figure?, w.figure? with
  | some f, some g => (op.onFigures f g).map Value.ofFigure
  | _, _ =>
    match op with
    | .add => joinValues v w
    | .mul =>
      if isRepeatable v || isRepeatable w then repetition v w
      else .error (.operands op.sign v.kind w.kind)
    | _ => .error (.operands op.sign v.kind w.kind)

/-- An operator on values that are there, unless it fills a text. -/
theorem binaryValue_of_present {op : BinaryOp} {v w : Value} (hv : v.isAbsent = false)
    (hw : w.isAbsent = false) (hfill : op = .mod → v.text? = none) :
    binaryValue op v w = presentValue op v w := by
  unfold binaryValue
  split
  · exact nomatch hfill rfl
  · exact nomatch hfill rfl
  · cases hv
  · cases hw
  · rfl

/-- Numbers are calculated with, and other values joined or repeated. -/
theorem presentValue_relabel (op : BinaryOp) :
    presentValue op (v.relabel r) (w.relabel r) = relabel r (presentValue op v w) := by
  simp only [presentValue, Value.figure?_relabel, isRepeatable_relabel, Value.kind_relabel,
    joinValues_relabel, repetition_relabel]
  split
  · rename_i f g _ _
    have hfigures := unlabelled_figures (r := r) op f g
    revert hfigures
    cases op.onFigures f g with
    | ok f => exact fun _ => congrArg Except.ok (Value.relabel_ofFigure f).symm
    | error e => exact fun hfigures => congrArg Except.error (hfigures e rfl).symm
  · split
    · rfl
    · split <;> rfl
    · rfl

theorem Value.exists_of_isAbsent {v : Value} (h : v.isAbsent = true) : ∃ a, v = .absent a := by
  cases v with
  | absent a => exact ⟨a, rfl⟩
  | _ => cases h

/-- **An operator** between two values, which may be absent. -/
theorem binaryValue_relabel (op : BinaryOp) :
    binaryValue op (v.relabel r) (w.relabel r) = relabel r (binaryValue op v w) := by
  by_cases hfill : op = .mod → v.text? = none
  · cases hv : v.isAbsent with
    | true =>
      obtain ⟨a, rfl⟩ := Value.exists_of_isAbsent hv
      cases op <;> rfl
    | false =>
      cases hw : w.isAbsent with
      | true =>
        obtain ⟨a, rfl⟩ := Value.exists_of_isAbsent hw
        cases op <;> cases v <;> first | rfl | exact nomatch hfill rfl
      | false =>
        have hfill' : op = .mod → (v.relabel r).text? = none := by rwa [Value.text?_relabel]
        rw [binaryValue_of_present hv hw hfill, binaryValue_of_present _ _ hfill', presentValue_relabel]
        · rwa [Value.isAbsent_relabel]
        · rwa [Value.isAbsent_relabel]
  · obtain ⟨rfl, htext⟩ := Classical.not_imp.mp hfill
    obtain ⟨s, hs⟩ := Option.ne_none_iff_exists'.mp htext
    cases v with
    | text s => exact fillText_relabel w false s
    | markup s => exact fillText_relabel w true s
    | _ => cases hs

end RenderBench.Template
