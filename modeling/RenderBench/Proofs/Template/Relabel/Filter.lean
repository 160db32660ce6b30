import RenderBench.Proofs.Template.Relabel.Sorting
import RenderBench.Proofs.Template.Relabel.Test
import RenderBench.Template.Filter

/-!
# `Proofs.Template.Relabel.Filter` — the parts of filters under a relabelling

Each filter is made of a few functions of its value and its arguments, for texts, numbers, sequences and mappings.
Those with several steps are opened first, with the steps named.

## Contents
- `replaceValue_relabel`, `keyOf_relabel`: texts.
- `asReal_relabel`, `asWhole_relabel`, `roundValue_relabel`: numbers.
- `reverseValue_relabel`, `joinFilter_relabel`, `sumValues_relabel`: sequences.
- `sortValue_relabel`, `dictSort_relabel`, `bestValue_relabel`: sorting.
-/

namespace RenderBench.Template

variable {α β : Type} {r : Relabelling} (v w : Value)

/-! ## Texts -/

/-- A filter on texts sees the text of a value, or how it is displayed. -/
theorem onText_relabel (f : String → String) : onText f (v.relabel r) = (onText f v).relabel r := by
  simp only [onText, Value.isMarkup_relabel, Value.display_relabel, Value.relabel_ofText]

theorem replaceCount_relabel : replaceCount (v.relabel r) = replaceCount v := by
  cases v <;> rfl

theorem unlabelled_replaceCount : Unlabelled r (replaceCount v) := by
  cases v <;> first | exact unlabelled_ok _ | exact unlabelled_error rfl

/-- Replacing a part of a text, up to so many times. -/
theorem replaceValue_relabel (escape : Bool) (old new count : Value) :
    replaceValue escape (v.relabel r) (old.relabel r) (new.relabel r) (count.relabel r) =
      relabel r (replaceValue escape v old new count) := by
  unfold replaceValue
  rw [replaceCount_relabel]
  refine (unlabelled_replaceCount count).bind_relabel fun n => ?_
  simp only [Value.isMarkup_relabel, Value.display_relabel, Value.escaped_relabel, Value.soft_relabel]
  split
  · rfl
  · split <;> rfl

theorem ignoreCase_relabel : ignoreCase (v.relabel r) = (ignoreCase v).relabel r := by
  cases v <;> rfl

/-- The key that an element is sorted by: a member of it, without its letter case unless that counts. -/
theorem keyOf_relabel (path : List Value) (caseSensitive : Bool) :
    keyOf (path.map (Value.relabel r)) caseSensitive (v.relabel r) = relabel r (keyOf path caseSensitive v) := by
  refine bind_relabel (followPath_relabel v none path) fun w => ?_
  split
  · rfl
  · exact congrArg Except.ok (ignoreCase_relabel w)

/-! ## Numbers -/

/-- A value as a real number, or the default. -/
theorem asReal_relabel (default : Value) :
    asReal (v.relabel r) (default.relabel r) = relabel r (asReal v default) := by
  cases v with
  | bool b | int i | real x => exact (unlabelled_realOf _).bind_relabel fun _ => rfl
  | text s | markup s =>
    show (.ok ((realOfText? s).elim (default.relabel r) .real) : Eval Value) =
      .ok (((realOfText? s).elim default .real).relabel r)
    cases realOfText? s <;> rfl
  | _ => rfl

/-- A value as a whole number, read in a base, or the default. -/
theorem asWhole_relabel (default : Value) (base : Int) :
    asWhole (v.relabel r) (default.relabel r) base = relabel r (asWhole v default base) := by
  cases v with
  | real x =>
    simp only [Value.relabel, asWhole, Value.figure?]
    split
    · rfl
    · split <;> rfl
  | text s | markup s =>
    simp only [Value.relabel, asWhole, Value.figure?, Value.text?]
    split
    · rfl
    · cases (realOfText? s).bind Binary64.trunc? <;> rfl
  | _ => rfl

theorem roundToWhole_relabel (x : Binary64) : relabel r (roundToWhole x) = roundToWhole x := by
  unfold roundToWhole
  split
  · rfl
  · cases x.isNaN <;> rfl

/-- Rounding half to even, to so many places. -/
theorem roundCommon_relabel (p : Value) :
    roundCommon (v.relabel r) (p.relabel r) = relabel r (roundCommon v p) := by
  simp only [roundCommon, Value.figure?_relabel, Value.whole?_relabel, Value.kind_relabel]
  cases v.figure? with
  | none => rfl
  | some f =>
    cases p.whole? with
    | some n => cases f <;> rfl
    | none =>
      cases f with
      | whole i => cases p <;> rfl
      | real x =>
        cases p with
        | none => exact (roundToWhole_relabel x).symm
        | _ => rfl

/-- Rounding up or down. -/
theorem roundTowards_relabel (up : Bool) (p : Value) :
    roundTowards up (v.relabel r) (p.relabel r) = relabel r (roundTowards up v p) := by
  refine bind_relabel (binaryValue_relabel (.int 10) p .pow) fun unit => ?_
  refine bind_relabel (binaryValue_relabel v unit .mul) fun scaled => ?_
  have hfault (f : Fault) (hf : f.relabel r = f) (next next' : Int → Eval Value) :
      ((throw f : Eval Int) >>= next') = relabel r ((throw f : Eval Int) >>= next) :=
    congrArg Except.error hf.symm
  rw [relabel_value, Value.figure?_relabel, Value.kind_relabel]
  cases scaled.figure? with
  | none => exact hfault _ rfl _ _
  | some f =>
    cases f with
    | whole i => exact binaryValue_relabel (.int i) unit .div
    | real x =>
      simp only []
      split
      · exact binaryValue_relabel (.int _) unit .div
      · exact hfault _ (by split <;> rfl) _ _

/-- Rounding by the name of its method. -/
theorem roundValue_relabel (p method : Value) :
    roundValue (v.relabel r) (p.relabel r) (method.relabel r) = relabel r (roundValue v p method) := by
  rw [roundValue, roundValue, Value.text?_relabel]
  split
  · exact roundCommon_relabel v p
  · exact roundTowards_relabel v false p
  · exact roundTowards_relabel v true p
  · rfl

theorem absValue_relabel : absValue (v.relabel r) = relabel r (absValue v) := by
  cases v <;> rfl

/-! ## Sequences -/

theorem lengthOf_relabel : lengthOf (v.relabel r) = relabel r (lengthOf v) := by
  cases v with
  | list es | tuple es => simp [lengthOf, Value.relabel]
  | dict es => simp [lengthOf, Value.relabel]
  | _ => rfl

/-- The first element, or something absent. -/
theorem firstOf_relabel : firstOf (v.relabel r) = relabel r (firstOf v) := by
  refine bind_relabel (elementsOf_relabel v) fun e => ?_
  obtain ⟨vs, failure⟩ := e
  cases vs <;> cases failure <;> rfl

theorem isReversible_relabel : isReversible (v.relabel r) = isReversible v := by cases v <;> rfl

theorem lastOf_relabel : lastOf (v.relabel r) = relabel r (lastOf v) := by
  rw [lastOf, lastOf, isReversible_relabel]
  split
  · refine bind_relabel (listOf_relabel v) fun vs => ?_
    refine congrArg Except.ok ?_
    rw [relabel_list, List.getLast?_map]
    exact getD_absent_relabel _ rfl
  · exact congrArg (fun k => (.error (.notReversible k) : Eval Value)) (Value.kind_relabel v)

theorem reverseKind_relabel : reverseKind (v.relabel r) = reverseKind v := by cases v <;> rfl

/-- Elements from the last one on. -/
def fromEnd (x : Eval Elements) : Eval Value :=
  match x with
  | .ok e => do return .list (← e.all).reverse
  | .error _ => .error .reverseSequence

/-- The last element of a row that was computed. -/
theorem fromEnd_relabel (x : Eval Elements) : fromEnd (relabel r x) = relabel r (fromEnd x) := by
  cases x with
  | error f => rfl
  | ok e =>
    refine bind_relabel (all_relabel e) fun vs => ?_
    rw [relabel_list, ← List.map_reverse]
    exact congrArg (fun vs => (.ok (.list vs) : Eval Value)) (Value.relabelAll_eq _).symm

/-- A text or a row, from its end. -/
theorem reverseValue_relabel : reverseValue (v.relabel r) = relabel r (reverseValue v) := by
  have hreversed : (do return .lazy (reverseKind (v.relabel r)) (← listOf (v.relabel r)).reverse none : Eval Value) =
      relabel r (do return .lazy (reverseKind v) (← listOf v).reverse none) := by
    refine bind_relabel (listOf_relabel v) fun vs => ?_
    rw [reverseKind_relabel, relabel_list, ← List.map_reverse]
    exact congrArg (fun vs => (.ok (.lazy _ vs none) : Eval Value)) (Value.relabelAll_eq _).symm
  have hforward : fromEnd (elementsOf (v.relabel r)) = relabel r (fromEnd (elementsOf v)) := by
    rw [elementsOf_relabel, fromEnd_relabel]
  cases v with
  | text s | markup s => rfl
  | absent a | list es | tuple es | dict es | range a b c => exact hreversed
  | _ => exact hforward

/-! ## Joining and adding -/

/-- Values with a separator between them are a text, which holds no label. -/
theorem joinValuesWith_relabel (escape : Bool) (vs : List Value) :
    joinValuesWith escape (v.relabel r) (vs.map (Value.relabel r)) = joinValuesWith escape v vs := by
  simp [joinValuesWith, Function.comp_def]

theorem relabel_joinValuesWith (escape : Bool) (vs : List Value) :
    (joinValuesWith escape v vs).relabel r = joinValuesWith escape v vs := by
  unfold joinValuesWith
  split
  · rfl
  · split <;> rfl

/-- The elements a filter works on: those of the input, or what a path leads to from each of them. -/
def reached (path : Value) (vs : List Value) : Eval (List Value) :=
  match path with
  | .none => .ok vs
  | a => vs.mapM (followPath none (attributePath a))

/-- The members that a path leads to in each element. -/
theorem reached_relabel (path : Value) (vs : List Value) :
    reached (path.relabel r) (vs.map (Value.relabel r)) = relabel r (reached path vs) := by
  have hsteps : (vs.map (Value.relabel r)).mapM (followPath none (attributePath (path.relabel r))) =
      relabel r (vs.mapM (followPath none (attributePath path))) := by
    refine mapM_relabel (fun w => ?_) vs
    rw [attributePath_relabel]
    exact followPath_relabel w none _
  cases path with
  | none => rfl
  | _ => exact hsteps

/-- A result, unless the elements it is made of end with a failure. -/
def settled (failure : Option Fault) (v : Value) : Eval Value := failure.elim (.ok v) .error

/-- A value of elements that end in a failure is that failure. -/
theorem settled_relabel (failure : Option Fault) :
    settled (failure.map (Fault.relabel r)) (v.relabel r) = relabel r (settled failure v) := by
  cases failure <;> rfl

/-- Joining goes element by element; the equation says so in steps that can be relabelled. -/
theorem joinFilter_eq (escape : Bool) (separator path : Value) :
    joinFilter escape v separator path = elementsOf v >>= fun e =>
      reached path e.values >>= fun vs => settled e.failure (joinValuesWith escape separator vs) := by
  refine congrArg (elementsOf v >>= ·) (funext fun e => ?_)
  obtain ⟨vs, failure⟩ := e
  cases path <;> cases failure <;> rfl

theorem joinFilter_relabel (escape : Bool) (separator path : Value) :
    joinFilter escape (v.relabel r) (separator.relabel r) (path.relabel r) =
      relabel r (joinFilter escape v separator path) := by
  rw [joinFilter_eq, joinFilter_eq]
  refine bind_relabel (elementsOf_relabel v) fun e => ?_
  refine bind_relabel (reached_relabel path e.values) fun vs => ?_
  show settled (e.failure.map _) (joinValuesWith escape (separator.relabel r) (vs.map (Value.relabel r))) = _
  rw [joinValuesWith_relabel, ← settled_relabel, relabel_joinValuesWith]

/-- So does summing, which refuses texts. -/
theorem sumValues_eq (path start : Value) :
    sumValues v path start = elementsOf v >>= fun e =>
      if start.text?.isSome then .error .sumOfTexts
      else reached path e.values >>= fun vs =>
        vs.foldlM (binaryValue .add) start >>= fun total => settled e.failure total := by
  refine congrArg (elementsOf v >>= ·) (funext fun e => ?_)
  obtain ⟨vs, failure⟩ := e
  cases start.text?.isSome <;> cases path <;> cases failure <;> rfl

theorem sumValues_relabel (path start : Value) :
    sumValues (v.relabel r) (path.relabel r) (start.relabel r) = relabel r (sumValues v path start) := by
  rw [sumValues_eq, sumValues_eq, Value.text?_relabel]
  refine bind_relabel (elementsOf_relabel v) fun e => ?_
  split
  · rfl
  · refine bind_relabel (reached_relabel path e.values) fun vs => ?_
    refine bind_relabel (foldlM_relabel (fun a b => binaryValue_relabel a b .add) vs start) fun total => ?_
    exact settled_relabel total e.failure

/-! ## Sorting -/

/-- The paths that values are sorted by, separated by commas. -/
def sortPaths (path : Value) : List (List Value) :=
  match path.text? with
  | some s => (s.splitOn ",").map fun p => attributePath (.text p)
  | none => [attributePath path]

theorem sortPaths_relabel (path : Value) :
    sortPaths (path.relabel r) = (sortPaths path).map (List.map (Value.relabel r)) := by
  rw [sortPaths, sortPaths, Value.text?_relabel]
  cases path.text? with
  | none => exact congrArg (fun p => [p]) (attributePath_relabel path)
  | some s =>
    rw [List.map_map]
    exact List.map_congr_left fun p _ => attributePath_relabel (.text p)

/-- Several paths make several keys, compared one after the other. -/
theorem sortKey_relabel (path : Value) (caseSensitive : Bool) :
    sortKey (path.relabel r) caseSensitive (v.relabel r) = relabel r (sortKey path caseSensitive v) := by
  have hkeys : (sortPaths (path.relabel r)).mapM (fun p => keyOf p caseSensitive (v.relabel r)) =
      relabel r ((sortPaths path).mapM fun p => keyOf p caseSensitive v) := by
    rw [sortPaths_relabel]
    exact mapM_relabel (fun p => keyOf_relabel v p caseSensitive) (sortPaths path)
  refine bind_relabel hkeys fun ks => ?_
  exact congrArg (fun vs => (.ok (.list vs) : Eval Value)) (Value.relabelAll_eq _).symm

/-- Elements sorted by their keys. -/
theorem sortValue_relabel (reverse caseSensitive path : Value) :
    sortValue (v.relabel r) (reverse.relabel r) (caseSensitive.relabel r) (path.relabel r) =
      relabel r (sortValue v reverse caseSensitive path) := by
  refine bind_relabel (listOf_relabel v) fun vs => ?_
  rw [Value.isTruthy_relabel, Value.isTruthy_relabel]
  refine bind_relabel (sortBy_relabel (fun w => sortKey_relabel w path _) _ vs) fun ws => ?_
  exact congrArg (fun vs => (.ok (.list vs) : Eval Value)) (Value.relabelAll_eq _).symm

/-- The entries of a mapping as pairs, in the order of keys or values. -/
def sortEntries (v caseSensitive reverse : Value) (position : Int) : Eval Value :=
  match v with
  | .absent a => .error (.absent a)
  | .dict es =>
    (sortBy (keyOf [.int position] caseSensitive.isTruthy) reverse.isTruthy
      (es.map fun e => Value.tuple [e.1, e.2])).map .list
  | v => .error (.noMember v.kind "items")

/-- A mapping is sorted by its keys or by its values. -/
theorem dictSort_eq (caseSensitive part reverse : Value) :
    dictSort v caseSensitive part reverse =
      if part.text? = some "key" then sortEntries v caseSensitive reverse 0
      else if part.text? = some "value" then sortEntries v caseSensitive reverse 1
      else .error .sortKey := by
  by_cases hkey : part.text? = some "key"
  · rw [if_pos hkey, dictSort, hkey]
    cases v <;> rfl
  · by_cases hvalue : part.text? = some "value"
    · rw [if_neg hkey, if_pos hvalue, dictSort, hvalue]
      cases v <;> rfl
    · rw [if_neg hkey, if_neg hvalue, dictSort]
      split
      · -- both literals have been excluded
        exact absurd ‹_› hkey
      · exact absurd ‹_› hvalue
      · rfl

theorem sortEntries_relabel (caseSensitive reverse : Value) (position : Int) :
    sortEntries (v.relabel r) (caseSensitive.relabel r) (reverse.relabel r) position =
      relabel r (sortEntries v caseSensitive reverse position) := by
  cases v with
  | dict es =>
    have hpairs : (es.map (Prod.map (Value.relabel r) (Value.relabel r))).map (fun e => Value.tuple [e.1, e.2]) =
        (es.map fun e => Value.tuple [e.1, e.2]).map (Value.relabel r) := by
      rw [List.map_map, List.map_map]
      rfl
    simp only [Value.relabel, Value.relabelEntries_eq, sortEntries, Value.isTruthy_relabel]
    have hkey (w : Value) : keyOf [.int position] caseSensitive.isTruthy (w.relabel r) =
        relabel r (keyOf [.int position] caseSensitive.isTruthy w) := keyOf_relabel w [.int position] _
    rw [hpairs, sortBy_relabel hkey]
    cases sortBy (keyOf [.int position] caseSensitive.isTruthy) _ _ with
    | error f => rfl
    | ok vs => exact congrArg (fun vs => (.ok (.list vs) : Eval Value)) (Value.relabelAll_eq _).symm
  | _ => rfl

/-- The entries of a mapping, sorted. -/
theorem dictSort_relabel (caseSensitive part reverse : Value) :
    dictSort (v.relabel r) (caseSensitive.relabel r) (part.relabel r) (reverse.relabel r) =
      relabel r (dictSort v caseSensitive part reverse) := by
  simp only [dictSort_eq, Value.text?_relabel, sortEntries_relabel]
  split
  · rfl
  · split <;> rfl

/-- The least or the greatest element. -/
theorem bestValue_relabel (op : OrderOp) (caseSensitive path : Value) :
    bestValue op (v.relabel r) (caseSensitive.relabel r) (path.relabel r) =
      relabel r (bestValue op v caseSensitive path) := by
  refine bind_relabel (elementsOf_relabel v) fun e => ?_
  obtain ⟨vs, failure⟩ := e
  have hkey (w : Value) : keyOf (attributePath (path.relabel r)) (caseSensitive.relabel r).isTruthy (w.relabel r) =
      relabel r (keyOf (attributePath path) caseSensitive.isTruthy w) := by
    rw [attributePath_relabel, Value.isTruthy_relabel, keyOf_relabel]
  cases vs with
  | nil => cases failure <;> rfl
  | cons w ws =>
    refine bind_relabel (mapM_relabel (withKey_relabel hkey) (w :: ws)) fun keyed => ?_
    cases keyed with
    | nil => rfl
    | cons first rest =>
      refine bind_relabel (bestBy_relabel op rest first) fun best => ?_
      cases failure <;> rfl

end RenderBench.Template
