import RenderBench.Proofs.Template.Relabel.Filter

/-!
# `Proofs.Template.Relabel.AllFilters` — filters under a relabelling

A filter may apply another one to each element of a sequence, so all filters are treated together, by induction on how
often that may still happen.

## Contents
- `lazily_relabel`, `failsLazily_relabel`: filters whose elements are evaluated when they are asked for.
- `mapValue_relabel`, `selectValue_relabel`: filters that apply others, or tests.
- `boundFilter_relabel`, `applyFilter_relabel`: any filter, with any arguments.
-/

namespace RenderBench.Template

variable {α β : Type} {r : Relabelling} (v w : Value)

/-! ## Filters that apply others -/

theorem lazily_go_relabel {f f' : Value → Eval (Option Value)} (hf : ∀ w, f' (w.relabel r) = relabel r (f w))
    (failure : Option Fault) (ws : List Value) :
    lazily.go f' (relabel r failure) (relabel r ws) = relabel r (lazily.go f failure ws) := by
  induction ws with
  | nil => rfl
  | cons w ws ih =>
    rw [relabel_list, List.map_cons, lazily.go, lazily.go, relabel_value, hf]
    cases f w with
    | error e => rfl
    | ok o =>
      cases o with
      | none => exact ih
      | some x =>
        show (x.relabel r :: (lazily.go f' (relabel r failure) (relabel r ws)).1,
          (lazily.go f' (relabel r failure) (relabel r ws)).2) = _
        rw [ih]
        rfl

/-- A sequence that is computed when it is asked for holds its elements up to the first failure. -/
theorem lazily_relabel {f f' : Value → Eval (Option Value)} (hf : ∀ w, f' (w.relabel r) = relabel r (f w)) :
    lazily (v.relabel r) f' = (lazily v f).relabel r := by
  rw [lazily, lazily, Value.isTruthy_relabel, elementsOf_relabel]
  split
  · rfl
  · cases elementsOf v with
    | error e => rfl
    | ok e =>
      have hgo := lazily_go_relabel hf e.failure e.values
      show Value.lazy "generator" (lazily.go f' (relabel r e.failure) (relabel r e.values)).1
        (lazily.go f' (relabel r e.failure) (relabel r e.values)).2 = _
      rw [hgo]
      exact congrArg (fun vs => Value.lazy "generator" vs _) (Value.relabelAll_eq _).symm

theorem failsLazily_relabel {f : Fault} (hf : f.relabel r = f) :
    failsLazily (v.relabel r) f = (failsLazily v f).relabel r := by
  rw [failsLazily, failsLazily, Value.isTruthy_relabel]
  split
  · exact congrArg (fun f => Value.lazy "generator" [] (some f)) hf.symm
  · rfl

/-- The default of a path; the value none is no default. -/
def defaultOf (o : Option Value) : Option Value :=
  match o with
  | some .none => none
  | d => d

theorem defaultOf_relabel (o : Option Value) :
    defaultOf (o.map (Value.relabel r)) = (defaultOf o).map (Value.relabel r) := by
  cases o with
  | none => rfl
  | some v => cases v <;> rfl

theorem mapValue_nil (apply : FilterFunction) (named : List (String × Value)) :
    mapValue apply v [] named = (named.lookup "attribute").elim (failsLazily v .noFilterName) fun a =>
      (named.find? fun p => p.1 != "attribute" && p.1 != "default").elim
        (lazily v fun w => some <$> followPath (defaultOf (named.lookup "default")) (attributePath a) w)
        fun p => failsLazily v (.unexpectedArgument p.1) := by
  unfold mapValue
  cases named.lookup "attribute" with
  | none => rfl
  | some a => cases named.find? fun p => p.1 != "attribute" && p.1 != "default" <;> rfl

theorem someMap_relabel {x x' : Eval Value} (hx : x' = relabel r x) :
    some <$> x' = relabel r (some <$> x : Eval (Option Value)) := by
  rw [hx]
  cases x <;> rfl

/-- A filter on each element, or a member of each. -/
theorem mapValue_relabel {apply : FilterFunction} (happly : ∀ name v args named,
      apply name (v.relabel r) (args.map (Value.relabel r)) (relabel r named) = relabel r (apply name v args named))
    (args : List Value) (named : List (String × Value)) :
    mapValue apply (v.relabel r) (args.map (Value.relabel r)) (relabel r named) =
      (mapValue apply v args named).relabel r := by
  cases args with
  | nil =>
    have hfind : ((relabel r named).find? fun p => p.1 != "attribute" && p.1 != "default") =
        relabel r (named.find? fun p => p.1 != "attribute" && p.1 != "default") := List.find?_map ..
    rw [List.map_nil, mapValue_nil, mapValue_nil, lookup_named_relabel, lookup_named_relabel, hfind,
      defaultOf_relabel]
    cases named.lookup "attribute" with
    | none => exact failsLazily_relabel v rfl
    | some a =>
      cases named.find? fun p => p.1 != "attribute" && p.1 != "default" with
      | some p => exact failsLazily_relabel v rfl
      | none =>
        refine lazily_relabel v fun w => someMap_relabel ?_
        rw [attributePath_relabel, followPath_relabel]
  | cons name rest =>
    rw [List.map_cons, mapValue, mapValue]
    simp only [Value.text?_relabel, Value.display_relabel]
    cases name.text? with
    | none => exact lazily_relabel v fun _ => rfl
    | some n => exact lazily_relabel v fun w => someMap_relabel (happly n w rest named)

/-- An element, if a test accepts or refuses what a path leads to from it. -/
def selected (keep : Bool) (named : List (String × Value)) (path testArgs : List Value) (w : Value) :
    Eval (Option Value) := do
  let x ← followPath none path w
  let answer ← match testArgs with
    | [] => pure x.isTruthy
    | name :: rest => applyTest name.display x rest named
  return if answer == keep then some w else none

theorem selected_relabel (keep : Bool) (named : List (String × Value)) (path testArgs : List Value) :
    selected keep (relabel r named) (path.map (Value.relabel r)) (testArgs.map (Value.relabel r)) (v.relabel r) =
      relabel r (selected keep named path testArgs v) := by
  refine bind_relabel (followPath_relabel v none path) fun x => ?_
  have hanswer (answer : Bool) : (.ok (if answer == keep then some (v.relabel r) else none) : Eval (Option Value)) =
      relabel r (.ok (if answer == keep then some v else none)) := by split <;> rfl
  cases testArgs with
  | nil =>
    show (.ok (if (x.relabel r).isTruthy == keep then _ else _) : Eval (Option Value)) = _
    rw [Value.isTruthy_relabel]
    exact hanswer x.isTruthy
  | cons name rest =>
    simp only [List.map_cons, Value.display_relabel]
    exact bind_relabel (applyTest_relabel x name.display rest named) hanswer

/-- The elements of which a test holds, or does not. -/
theorem selectValue_relabel (byAttribute keep : Bool) (args : List Value) (named : List (String × Value)) :
    selectValue byAttribute keep (v.relabel r) (args.map (Value.relabel r)) (relabel r named) =
      (selectValue byAttribute keep v args named).relabel r := by
  have hselect (path testArgs : List Value) := lazily_relabel (r := r) v
    fun w => selected_relabel w keep named path testArgs
  cases byAttribute with
  | false => exact hselect [] args
  | true =>
    cases args with
    | nil => exact failsLazily_relabel v rfl
    | cons attr rest => 
      have hpath := hselect (attributePath attr) rest
      rw [← attributePath_relabel] at hpath
      exact hpath

theorem listed_ok_relabel {x x' : Eval (List Value)} (hx : x' = relabel r x) :
    (x' >>= fun vs => (.ok (.list vs) : Eval Value)) = relabel r (x >>= fun vs => .ok (.list vs)) :=
  bind_relabel hx fun vs => congrArg (fun vs => (.ok (.list vs) : Eval Value)) (Value.relabelAll_eq vs).symm

/-- Filters with parameters, once their arguments are bound. -/
theorem boundFilter_relabel (escape : Bool) (name : String) (b : List (Option Value)) :
    boundFilter escape name (v.relabel r) (relabel r b) = relabel r (boundFilter escape name v b) := by
  have hnone (k : Nat) := argumentOr_relabel (r := r) b k .none rfl
  have hbool (k : Nat) (c : Bool) := argumentOr_relabel (r := r) b k (.bool c) rfl
  have hint (k : Nat) (i : Int) := argumentOr_relabel (r := r) b k (.int i) rfl
  have hreal (k : Nat) (x : Binary64) := argumentOr_relabel (r := r) b k (.real x) rfl
  have htext (k : Nat) (s : String) := argumentOr_relabel (r := r) b k (.text s) rfl
  unfold boundFilter
  simp only [hnone, hbool, hint, hreal, htext]
  split
  · -- abs
    exact absValue_relabel v
  · -- capitalize
    exact congrArg Except.ok (onText_relabel v capitalized)
  · -- count
    exact bind_relabel (lengthOf_relabel v) fun _ => rfl
  · -- length
    exact bind_relabel (lengthOf_relabel v) fun _ => rfl
  · -- d
    simp only [Value.isAbsent_relabel, Value.isTruthy_relabel]
    split <;> rfl
  · -- default
    simp only [Value.isAbsent_relabel, Value.isTruthy_relabel]
    split <;> rfl
  · -- dictsort
    exact dictSort_relabel v _ _ _
  · -- e
    exact congrArg (fun s => (.ok (.markup s) : Eval Value)) (Value.escaped_relabel v)
  · -- escape
    exact congrArg (fun s => (.ok (.markup s) : Eval Value)) (Value.escaped_relabel v)
  · -- first
    exact firstOf_relabel v
  · -- float
    exact asReal_relabel v _
  · -- int
    rw [Value.whole?_relabel]
    exact asWhole_relabel v _ _
  · -- join
    exact joinFilter_relabel v escape _ _
  · -- last
    exact lastOf_relabel v
  · -- list
    exact listed_ok_relabel (listOf_relabel v)
  · -- lower
    exact congrArg Except.ok (onText_relabel v lower)
  · -- max
    exact bestValue_relabel v .gt _ _
  · -- min
    exact bestValue_relabel v .lt _ _
  · -- replace
    exact replaceValue_relabel v escape _ _ _
  · -- reverse
    exact reverseValue_relabel v
  · -- round
    exact roundValue_relabel v _ _
  · -- safe
    exact congrArg (fun s => (.ok (.markup s) : Eval Value)) (Value.display_relabel v)
  · -- sort
    exact sortValue_relabel v _ _ _
  · -- string
    rw [Value.soft_relabel, relabel_ok, relabel_value, Value.relabel_soft]
  · -- sum
    exact sumValues_relabel v _ _
  · -- title
    exact congrArg (fun s => (.ok (.text (titleText s)) : Eval Value)) (Value.display_relabel v)
  · -- trim
    generalize argumentOr b 0 .none = c
    have hchars := congrArg (fun s => onText (trimText (some s)) (v.relabel r)) (Value.display_relabel (r := r) c)
    cases c with
    | none => exact congrArg Except.ok (onText_relabel v _)
    | _ => exact congrArg Except.ok (hchars.trans (onText_relabel v _))
  · -- upper
    exact congrArg Except.ok (onText_relabel v upper)
  · -- no filter
    rfl

/-- A filter may apply another one by its name, so that the induction is on the fuel. -/
theorem applyFilterWithin_relabel (escape : Bool) : ∀ fuel name v args named,
    applyFilterWithin escape fuel name (v.relabel r) (args.map (Value.relabel r)) (relabel r named) =
      relabel r (applyFilterWithin escape fuel name v args named)
  | 0, _, _, _, _ => rfl
  | fuel + 1, name, v, args, named => by
    have hmap := mapValue_relabel v (applyFilterWithin_relabel escape fuel) args named
    unfold applyFilterWithin
    split
    · exact congrArg Except.ok hmap
    · exact congrArg Except.ok (selectValue_relabel v _ _ args named)
    · exact congrArg Except.ok (selectValue_relabel v _ _ args named)
    · exact congrArg Except.ok (selectValue_relabel v _ _ args named)
    · exact congrArg Except.ok (selectValue_relabel v _ _ args named)
    · split
      · rfl
      · exact bind_relabel (bindArguments_relabel _ args named) fun b => boundFilter_relabel v escape _ b

/-- **A filter by its name**, with any arguments. -/
theorem applyFilter_relabel (escape : Bool) (name : String) (args : List Value) (named : List (String × Value)) :
    applyFilter escape name (v.relabel r) (args.map (Value.relabel r)) (relabel r named) =
      relabel r (applyFilter escape name v args named) := by
  rw [applyFilter, applyFilter, List.length_map, applyFilterWithin_relabel]

end RenderBench.Template
