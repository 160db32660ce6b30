import RenderBench.Proofs.Template.Relabel.Access
import RenderBench.Template.FilterArguments
import RenderBench.Template.Test

/-!
# `Proofs.Template.Relabel.Test` — tests and arguments under a relabelling

Tests of a value, and the arguments that filters and tests are given by position and by name.

## Contents
- `applyTest_relabel`: any test, with any arguments.
- `bindArguments_relabel`: arguments in their places.
-/

namespace RenderBench.Template

variable {α β : Type} {r : Relabelling} (v w : Value)

/-! ## Tests -/

/-- Tests on numbers see the number of a value, or its kind in the failure. -/
theorem remainderIs_relabel (k : Int) :
    remainderIs (v.relabel r) (w.relabel r) k = relabel r (remainderIs v w k) := by
  refine bind_relabel (binaryValue_relabel v w .mod) fun x => ?_
  exact congrArg Except.ok (Value.eqv_relabel x (.int k))

/-- Tests without an argument. -/
theorem plainTest_relabel (name : String) : plainTest name (v.relabel r) = relabel r (plainTest name v) := by
  have hiterable : (elementsOf (v.relabel r)).isOk = (elementsOf v).isOk := by
    rw [elementsOf_relabel]
    cases elementsOf v <;> rfl
  -- a test looks at parity, at what a relabelling keeps, or at the kind of a value alone
  unfold plainTest
  split <;> first
    | exact remainderIs_relabel v (.int 2) _
    | simp only [hiterable, Value.isAbsent_relabel, Value.isMarkup_relabel, Value.display_relabel,
        Value.figure?_relabel, Value.text?_relabel, relabel_ok, relabel_bool, id_eq]; done
    | (cases v <;> rfl)

/-- Tests with one. -/
theorem argumentTest_relabel (name : String) :
    argumentTest name (v.relabel r) (w.relabel r) = relabel r (argumentTest name v w) := by
  unfold argumentTest
  split
  · exact remainderIs_relabel v w 0
  · exact member_relabel v w
  · rfl

/-- Tests that are comparisons by name. -/
theorem comparisonTest_relabel (name : String) :
    comparisonTest name (v.relabel r) (w.relabel r) = relabel r (comparisonTest name v w) := by
  unfold comparisonTest
  split <;> first | exact orderValues_relabel _ v w | simp only [Value.eqv_relabel, relabel_ok, relabel_bool, id_eq]

/-- **A test by its name**, with any arguments. -/
theorem applyTest_relabel (name : String) (args : List Value) (named : List (String × Value)) :
    applyTest name (v.relabel r) (args.map (Value.relabel r)) (relabel r named) =
      relabel r (applyTest name v args named) := by
  have hmany (f : Nat → Fault) (hf : ∀ n, (f n).relabel r = f n) (as : List Value) :
      (.error (f (as.map (Value.relabel r)).length) : Eval Bool) = relabel r (.error (f as.length)) := by
    rw [List.length_map, relabel_error, hf]
  unfold applyTest
  split
  · rename_i comparison _
    rcases args with _ | ⟨a, _ | ⟨b, as⟩⟩ <;> rcases named with _ | ⟨p, ps⟩ <;> first
      | rfl
      | exact comparisonTest_relabel v a comparison
      | exact hmany (fun n => .twoArguments comparison (n + 1)) (fun _ => rfl) (a :: b :: as)
  · split
    · rfl
    · rcases args with _ | ⟨a, as⟩ <;> rcases named with _ | ⟨p, ps⟩ <;> first
        | rfl
        | exact plainTest_relabel v name
        | exact hmany (fun n => .tooManyArguments ("test_" ++ name) 1 1 (n + 1)) (fun _ => rfl) (a :: as)
  · rename_i parameter _ _
    have hnamed (p : String × Value) :
        (if p.1 = parameter then argumentTest name (v.relabel r) (p.2.relabel r)
          else .error (.unexpectedNamed ("test_" ++ name) p.1)) =
        relabel r (if p.1 = parameter then argumentTest name v p.2
          else .error (.unexpectedNamed ("test_" ++ name) p.1)) := by
      split
      · exact argumentTest_relabel v p.2 name
      · rfl
    rcases args with _ | ⟨a, _ | ⟨b, as⟩⟩ <;> rcases named with _ | ⟨p, _ | ⟨q, ps⟩⟩ <;> first
      | rfl
      | exact argumentTest_relabel v a name
      | exact hnamed p
      | exact hmany (fun n => .tooManyArguments ("test_" ++ name) 2 2 (n + 1)) (fun _ => rfl) (a :: b :: as)

/-! ## Arguments -/

theorem lookup_map (f : α → β) (l : List (String × α)) (n : String) :
    (l.map (Prod.map id f)).lookup n = (l.lookup n).map f := by
  induction l with
  | nil => rfl
  | cons p ps ih =>
    rw [List.map_cons, List.lookup_cons, List.lookup_cons, Prod.map_fst, id_eq]
    cases n == p.1 with
    | true => rfl
    | false => exact ih

theorem lookup_named_relabel (named : List (String × Value)) (n : String) :
    (relabel r named).lookup n = (named.lookup n).map (Value.relabel r) :=
  lookup_map (Value.relabel r) named n

/-- The arguments of a filter are bound to its parameters in the same way, or one is missing, unknown or given twice
    on both sides. -/
theorem bindArguments_relabel (s : FilterSignature) (args : List Value) (named : List (String × Value)) :
    bindArguments s (args.map (Value.relabel r)) (relabel r named) = relabel r (bindArguments s args named) := by
  have hfind (params : List String) : ((relabel r named).find? fun p => !params.contains p.1) =
      relabel r (named.find? fun p => !params.contains p.1) := List.find?_map ..
  have hsome (p : String) : ((relabel r named).lookup p).isSome = (named.lookup p).isSome := by
    rw [lookup_named_relabel, Option.isSome_map]
  have hbound (ps : List String) :
      (args.map (Value.relabel r)).map some ++ ps.map (fun p => (relabel r named).lookup p) =
        (args.map some ++ ps.map fun p => named.lookup p).map (Option.map (Value.relabel r)) := by
    simp only [List.map_append, List.map_map, Function.comp_def, Option.map_some, lookup_named_relabel]
  have hmissing (ps : List String) (bound : List (Option Value)) :
      (ps.zip (bound.map (Option.map (Value.relabel r)))).filter (fun p => p.2.isNone) =
        ((ps.zip bound).filter fun p => p.2.isNone).map (Prod.map id (Option.map (Value.relabel r))) := by
    rw [List.zip_map_right, List.filter_map]
    congr 2
    funext p
    exact Option.isNone_map
  have hempty : (relabel r named ≠ []) = (named ≠ []) := propext (not_congr List.map_eq_nil_iff)
  have hempty' : (args.map (Value.relabel r) ≠ []) = (args ≠ []) := propext (not_congr List.map_eq_nil_iff)
  -- how arguments are matched depends on their number and names alone
  unfold bindArguments
  simp only [hempty, hempty', List.length_map, hfind, hsome, hbound, hmissing]
  split
  · rfl
  · split
    · rfl
    · split
      · rfl
      · cases named.find? fun p => !(s.required ++ s.optional).contains p.1 with
        | some p => rfl
        | none =>
          simp only [relabel_option, Option.map_none]
          split
          · rfl
          · generalize List.filter _ (List.zip s.required _) = missing
            cases missing with
            | nil => rfl
            | cons p ps =>
              refine congrArg
                (fun names => (.error (.missingArguments s.function names) : Eval (List (Option Value)))) ?_
              rw [List.map_map]
              rfl

/-- A default holds no label. -/
theorem argumentOr_relabel (bound : List (Option Value)) (k : Nat) (default : Value) (h : default.relabel r = default) :
    argumentOr (relabel r bound) k default = (argumentOr bound k default).relabel r := by
  rw [argumentOr, relabel_list, List.getElem?_map]
  cases hk : bound[k]? with
  | none => simp [argumentOr, hk, h]
  | some o => cases o <;> simp [argumentOr, hk, h]

end RenderBench.Template
