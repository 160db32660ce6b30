import RenderBench.Proofs.Template.Relabel.Access

/-!
# `Proofs.Template.Unmarked.Value` — values without markup

Markup is a text that is written as it is, also where output is escaped. It comes from few places: from what is rendered
and kept, and from the filters that make it. A value that holds none, and nothing that would render some when it is
called, is changed by operators into such values only.

## Contents
- `Yields`: what an evaluation that succeeds ends with.
- `Value.Unmarked`: values without markup; `Value.Unmarked.escaped`, `Value.Unmarked.joinSoft`: how they are written.
- `yields_elementsOf`, `yields_memberOf`, `yields_elementAt`, `yields_sliceValue`: parts of values.
- `yields_unaryValue`, `yields_binaryValue`, `yields_mappingOf`: operators.
-/

namespace RenderBench.Template

/-! ## What an evaluation yields -/

section Yields

variable {α β : Type} {P : α → Prop} {Q : β → Prop}

/-- Whatever an evaluation ends well with has a property. -/
def Yields (x : Eval α) (P : α → Prop) : Prop := ∀ a, x = .ok a → P a

theorem yields_ok {a : α} (h : P a) : Yields (.ok a : Eval α) P := by
  intro a' ha
  cases ha
  exact h

/-- A failure ends with nothing. -/
theorem yields_error (f : Fault) : Yields (.error f : Eval α) P := nofun

/-- The rule for steps one after the other, by what is known of the first. -/
theorem Yields.bind {x : Eval α} {f : α → Eval β} (hx : Yields x P) (hf : ∀ a, P a → Yields (f a) Q) :
    Yields (x >>= f) Q := by
  cases x with
  | ok a => exact hf a (hx a rfl)
  | error e => exact nofun

/-- The rule where nothing has to be known of the first. -/
theorem yields_bind {x : Eval α} {f : α → Eval β} (hf : ∀ a, Yields (f a) Q) : Yields (x >>= f) Q :=
  Yields.bind (P := fun _ => True) (fun _ _ => trivial) fun a _ => hf a

theorem Yields.map {x : Eval α} {f : α → β} (hx : Yields x P) (hf : ∀ a, P a → Q (f a)) : Yields (x.map f) Q := by
  cases x with
  | ok a => exact yields_ok (hf a (hx a rfl))
  | error e => exact nofun

theorem yields_ite {c : Prop} [Decidable c] {x y : Eval α} (hx : Yields x P) (hy : Yields y P) :
    Yields (if c then x else y) P := by
  split
  · exact hx
  · exact hy

/-- What a loop gathers has the property if each result has it. -/
theorem yields_mapM {f : α → Eval β} {as : List α} (h : ∀ a ∈ as, Yields (f a) Q) :
    Yields (as.mapM f) fun bs => ∀ b ∈ bs, Q b := by
  induction as with
  | nil => exact yields_ok (List.forall_mem_nil _)
  | cons a as ih =>
    rw [List.mapM_cons]
    refine (h a List.mem_cons_self).bind fun b hb => ?_
    refine (ih fun a' ha => h a' (List.mem_cons_of_mem a ha)).bind fun bs hbs => yields_ok ?_
    intro b' hb'
    rcases List.mem_cons.mp hb' with rfl | hb'
    · exact hb
    · exact hbs b' hb'

/-- An invariant of a loop with an accumulator. -/
theorem yields_foldlM {f : β → α → Eval β} {as : List α} (h : ∀ a ∈ as, ∀ b, Q b → Yields (f b a) Q) :
    ∀ b, Q b → Yields (as.foldlM f b) Q := by
  induction as with
  | nil => exact fun b hb => yields_ok hb
  | cons a as ih =>
    intro b hb
    rw [List.foldlM_cons]
    exact (h a List.mem_cons_self b hb).bind (ih fun a' ha => h a' (List.mem_cons_of_mem a ha))

end Yields

/-! ## Values -/

/-- A value that holds no markup, and nothing that renders some when it is called. -/
inductive Value.Unmarked : Value → Prop
  | absent (a : Absence) : Unmarked (.absent a)
  | none : Unmarked .none
  | bool (b : Bool) : Unmarked (.bool b)
  | int (i : Int) : Unmarked (.int i)
  | real (x : Binary64) : Unmarked (.real x)
  | text (s : String) : Unmarked (.text s)
  | list {es : List Value} (h : ∀ v ∈ es, Unmarked v) : Unmarked (.list es)
  | tuple {es : List Value} (h : ∀ v ∈ es, Unmarked v) : Unmarked (.tuple es)
  | dict {es : List (Value × Value)} (hkeys : ∀ e ∈ es, Unmarked e.1) (hvalues : ∀ e ∈ es, Unmarked e.2) :
      Unmarked (.dict es)
  | item (i : Item) : Unmarked (.item i)
  | customer (c : Customer) : Unmarked (.customer c)
  | range (a b s : Int) : Unmarked (.range a b s)
  | foreign (f : Foreign) : Unmarked (.foreign f)
  | lazy {es : List Value} (kind : String) (failure : Option Fault) (h : ∀ v ∈ es, Unmarked v) :
      Unmarked (.lazy kind es failure)
  | slice {a b c : Value} (ha : Unmarked a) (hb : Unmarked b) (hc : Unmarked c) : Unmarked (.slice a b c)
  | loop {previous next : List Value} (i n : Nat) (hprevious : ∀ v ∈ previous, Unmarked v)
      (hnext : ∀ v ∈ next, Unmarked v) : Unmarked (.loop i n previous next)
  | cycle (i : Nat) : Unmarked (.cycle i)
  | rangeFunction : Unmarked .rangeFunction

/-- Several values without markup. -/
abbrev AllUnmarked (vs : List Value) : Prop := ∀ v ∈ vs, v.Unmarked

/-- Names whose values are without markup. -/
abbrev NamedUnmarked (names : List (String × Value)) : Prop := ∀ p ∈ names, p.2.Unmarked

variable {v w : Value} {vs ws : List Value}

namespace Value.Unmarked

theorem isMarkup (h : v.Unmarked) : v.isMarkup = false := by cases h <;> rfl

/-- In escaped output such a value is written escaped. -/
theorem escaped (h : v.Unmarked) : v.escaped = escapeText v.display := by cases h <;> rfl

theorem soft (h : v.Unmarked) : v.soft = .text v.display := by cases h <;> rfl

/-- A value without markup is written as it is displayed, and with its characters escaped where output is. -/
theorem written (h : v.Unmarked) (escape : Bool) :
    v.written escape = if escape then escapeText v.display else v.display := by
  rw [Value.written, h.escaped]

end Value.Unmarked

theorem any_isMarkup (h : AllUnmarked vs) : vs.any Value.isMarkup = false :=
  List.any_eq_false.mpr fun v hv => by rw [(h v hv).isMarkup]; exact Bool.false_ne_true

/-- Joined, such values make a text whether or not output is escaped. -/
theorem joinSoft_of_unmarked (h : AllUnmarked vs) (markupToo : Bool) :
    Value.joinSoft markupToo vs = .text (String.join (vs.map Value.display)) := by
  rw [Value.joinSoft, any_isMarkup h, Bool.and_false]
  rfl

theorem allUnmarked_append (hv : AllUnmarked vs) (hw : AllUnmarked ws) : AllUnmarked (vs ++ ws) := fun v h =>
  (List.mem_append.mp h).elim (hv v) (hw v)

/-- Rows that are taken from a row without markup hold none. -/
theorem allUnmarked_of_subset (h : AllUnmarked vs) (hsub : ws ⊆ vs) : AllUnmarked ws := fun v hv => h v (hsub hv)

/-- What a name is bound to in bindings without markup. -/
theorem unmarked_of_lookup {names : List (String × Value)} (h : NamedUnmarked names) {n : String}
    (hv : names.lookup n = some v) : v.Unmarked := by
  obtain ⟨before, after, rfl, -⟩ := List.lookup_eq_some_iff.mp hv
  exact h (n, v) (List.mem_append_right before List.mem_cons_self)

/-- A figure is a number. -/
theorem unmarked_ofFigure (f : Figure) : (Value.ofFigure f).Unmarked := by
  cases f with
  | whole i => exact .int i
  | real x => exact .real x

theorem unmarked_getD {o : Option Value} (h : ∀ v, o = some v → v.Unmarked) (hw : w.Unmarked) :
    (o.getD w).Unmarked := by
  cases o with
  | none => exact hw
  | some v => exact h v rfl

mutual

/-- Data from outside holds no markup: its texts are plain. -/
theorem unmarked_ofDatum : ∀ d : Datum, (Value.ofDatum d).Unmarked
  | .null => .none
  | .bool b => .bool b
  | .int i => .int i
  | .real x => .real x
  | .text s => .text s
  | .list ds => .list (unmarked_ofDatums ds)
  | .dict es => .dict (fun e he => (unmarked_ofEntries es e he).1) fun e he => (unmarked_ofEntries es e he).2
  | .foreign f => .foreign f

theorem unmarked_ofDatums : ∀ ds : List Datum, AllUnmarked (Value.ofDatums ds)
  | [], _, h => nomatch h
  | d :: ds, v, h => by
    rcases List.mem_cons.mp h with rfl | h
    · exact unmarked_ofDatum d
    · exact unmarked_ofDatums ds v h

theorem unmarked_ofEntries : ∀ (es : List (String × Datum)), ∀ e ∈ Value.ofEntries es, e.1.Unmarked ∧ e.2.Unmarked
  | [], _, h => nomatch h
  | (k, d) :: es, e, h => by
    rcases List.mem_cons.mp h with rfl | h
    · exact ⟨.text k, unmarked_ofDatum d⟩
    · exact unmarked_ofEntries es e h

end

/-! ## Elements and members -/

/-- The members of an item. -/
theorem unmarked_itemFields (i : Item) : NamedUnmarked (itemFields i) := by
  intro p hp
  simp only [itemFields, List.mem_cons, List.not_mem_nil, or_false] at hp
  rcases hp with rfl | rfl | rfl | rfl | rfl | rfl | rfl
  · exact .int _
  · exact .text _
  · exact .bool _
  · exact .text _
  · exact .int _
  · exact .real _
  · cases hc : i.customer with
    | none => exact .none
    | some c => exact .customer c

theorem unmarked_customerFields (c : Customer) : NamedUnmarked (customerFields c) := by
  intro p hp
  obtain ⟨q, -, rfl⟩ := List.mem_map.mp hp
  exact .text _

theorem unmarked_rangeElements (a b s : Int) : AllUnmarked (Value.rangeElements a b s) := by
  intro v hv
  obtain ⟨k, -, rfl⟩ := List.mem_map.mp hv
  exact .int _

/-- The pairs of names and values that a mapping is listed as. -/
theorem unmarked_pairs {names : List (String × Value)} (h : NamedUnmarked names) :
    AllUnmarked (names.map fun (k, v) => .tuple [.text k, v]) := by
  intro v hv
  obtain ⟨p, hp, rfl⟩ := List.mem_map.mp hv
  refine .tuple fun w hw => ?_
  rcases List.mem_cons.mp hw with rfl | hw
  · exact .text _
  · rw [List.mem_singleton.mp hw]
    exact h p hp

theorem unmarked_characters (cs : List Char) : AllUnmarked (cs.map fun c => .text (String.ofList [c])) := by
  intro v hv
  obtain ⟨c, -, rfl⟩ := List.mem_map.mp hv
  exact .text _

/-- The elements that a loop goes over. -/
theorem yields_elementsOf (h : v.Unmarked) : Yields (elementsOf v) fun e => AllUnmarked e.values := by
  cases h with
  | absent a => exact yields_ok (List.forall_mem_nil _)
  | text s => exact yields_ok (unmarked_characters _)
  | list h => exact yields_ok h
  | tuple h => exact yields_ok h
  | dict hkeys hvalues =>
    refine yields_ok fun v hv => ?_
    obtain ⟨e, he, rfl⟩ := List.mem_map.mp hv
    exact hkeys e he
  | item i => exact yields_ok (unmarked_pairs (unmarked_itemFields i))
  | customer c => exact yields_ok (unmarked_pairs (unmarked_customerFields c))
  | range a b s => exact yields_ok (unmarked_rangeElements a b s)
  | lazy kind failure h => exact yields_ok h
  | _ => exact yields_error _

/-- The elements of a value as a list. -/
theorem yields_listOf (h : v.Unmarked) : Yields (listOf v) AllUnmarked := by
  refine (yields_elementsOf h).bind fun e he => ?_
  unfold Elements.all
  cases e.failure with
  | none => exact yields_ok he
  | some f => exact yields_error f

/-- A slice holds elements of the whole only, whatever its bounds. -/
theorem pick_subset {α : Type} (xs : List α) (a b c : Int) : pick xs a b c ⊆ xs := by
  intro x hx
  obtain ⟨k, -, hk⟩ := List.mem_filterMap.mp hx
  exact List.mem_toArray.mp (Array.mem_of_getElem? hk)

/-- An element at an index, counted from either end, is one of the elements. -/
theorem mem_of_nth? {α : Type} {xs : List α} {i : Int} {x : α} (h : nth? xs i = some x) : x ∈ xs := by
  unfold nth? at h
  split at h
  · exact List.mem_of_getElem? h
  · split at h
    · exact List.mem_of_getElem? h
    · cases h

/-- A part of a value without markup. -/
theorem yields_sliceValue (h : v.Unmarked) (a b c : Value) : Yields (sliceValue v a b c) Value.Unmarked := by
  unfold sliceValue
  cases h with
  | text s => exact yields_bind fun _ => yields_ok (.text _)
  | list h => exact yields_bind fun _ => yields_ok (.list (allUnmarked_of_subset h (pick_subset _ _ _ _)))
  | tuple h => exact yields_bind fun _ => yields_ok (.tuple (allUnmarked_of_subset h (pick_subset _ _ _ _)))
  | range first last gap => exact yields_bind fun _ => yields_ok (.range _ _ _)
  | _ => exact yields_error _

/-- The members of a loop: numbers, and the elements around the present one. -/
theorem unmarked_loopMember? {i n : Nat} {p q : List Value} (hp : AllUnmarked p) (hq : AllUnmarked q) {attr : String}
    (h : loopMember? i n p q attr = some w) : w.Unmarked := by
  have hhead {vs : List Value} (hvs : AllUnmarked vs) (a : Absence) : (vs.head?.getD (.absent a)).Unmarked :=
    unmarked_getD (fun v hv => hvs v (List.mem_of_head? hv)) (.absent a)
  unfold loopMember? at h
  split at h
  all_goals cases h
  all_goals first | exact .int _ | exact .bool _ | exact .cycle _ | exact hhead hp _ | exact hhead hq _

/-- The members that a value has by itself. -/
theorem unmarked_ownMember? (h : v.Unmarked) {attr : String} (hw : ownMember? v attr = some w) : w.Unmarked := by
  cases h with
  | item i => exact unmarked_of_lookup (unmarked_itemFields i) hw
  | customer c => exact unmarked_of_lookup (unmarked_customerFields c) hw
  | loop i n hp hq => exact unmarked_loopMember? hp hq hw
  | _ => cases hw

theorem unmarked_entryAt? {es : List (Value × Value)} (h : ∀ e ∈ es, e.2.Unmarked) {key : Value}
    (hw : entryAt? es key = some w) : w.Unmarked := by
  obtain ⟨e, he, rfl⟩ := Option.map_eq_some_iff.mp hw
  exact h e (List.mem_of_find?_eq_some he)

/-- A member of a value, which is something absent where there is none. -/
theorem yields_memberOf (h : v.Unmarked) (attr : String) : Yields (memberOf v attr) Value.Unmarked := by
  have hown : ∀ w, ownMember? v attr = some w → w.Unmarked := fun w hw => unmarked_ownMember? h hw
  cases h with
  | absent a => exact yields_error _
  | dict hkeys hvalues => exact yields_ok (unmarked_getD (fun v hv => unmarked_entryAt? hvalues hv) (.absent _))
  | _ =>
    rw [memberOf_of_object _ rfl]
    · exact yields_ok (unmarked_getD hown (.absent _))
    · exact fun _ => nofun

/-- An element of a sequence or a character of a text. -/
theorem unmarked_nthElement? (h : v.Unmarked) {k : Int} (hw : nthElement? v k = some w) : w.Unmarked := by
  cases h with
  | text s =>
    obtain ⟨c, -, rfl⟩ := Option.map_eq_some_iff.mp hw
    exact .text _
  | list h => exact h w (mem_of_nth? hw)
  | tuple h => exact h w (mem_of_nth? hw)
  | range a b s => exact unmarked_rangeElements a b s w (mem_of_nth? hw)
  | _ => cases hw

theorem yields_sliceElement {x : Eval Value} (h : Yields x Value.Unmarked) :
    Yields (sliceElement x) fun o => ∀ w, o = some w → w.Unmarked := by
  cases x with
  | ok w =>
    refine yields_ok fun w' hw => ?_
    cases hw
    exact h w rfl
  | error f => cases f <;> first | exact yields_error _ | exact yields_ok nofun

/-- An element by any index: a number, a slice or a key. -/
theorem yields_ownElement? (h : v.Unmarked) (i : Value) :
    Yields (ownElement? v i) fun o => ∀ w, o = some w → w.Unmarked := by
  by_cases hdict : ∀ es, v ≠ .dict es
  · by_cases hslice : ∀ a b c, i ≠ .slice a b c
    · rw [ownElement?_of_index v i hdict hslice]
      refine yields_ok fun w hw => ?_
      obtain ⟨k, -, hk⟩ := Option.bind_eq_some_iff.mp hw
      exact unmarked_nthElement? h hk
    · simp only [Classical.not_forall, Classical.not_not] at hslice
      obtain ⟨a, b, c, rfl⟩ := hslice
      -- texts, sequences and ranges can be sliced
      have hsliced := yields_sliceElement (yields_sliceValue h a b c)
      cases h with
      | text s => exact hsliced
      | list h => exact hsliced
      | tuple h => exact hsliced
      | range x y z => exact hsliced
      | dict hkeys hvalues => exact absurd rfl (hdict _)
      | _ => exact yields_ok nofun
  · obtain ⟨es, hes⟩ := Classical.not_forall.mp hdict
    obtain rfl := Classical.not_not.mp hes
    cases h with
    | dict hkeys hvalues =>
      exact yields_ite (yields_ok nofun) (yields_ok fun w hw => unmarked_entryAt? hvalues hw)

/-- The element of a value at any index. -/
theorem yields_elementAt (h : v.Unmarked) (i : Value) : Yields (elementAt v i) Value.Unmarked := by
  cases hthere : v.isAbsent with
  | true =>
    obtain ⟨a, rfl⟩ := Value.exists_of_isAbsent hthere
    exact yields_error _
  | false =>
    rw [elementAt_of_there v i hthere]
    refine (yields_ownElement? h i).bind fun own hown => yields_ok ?_
    refine unmarked_getD (fun w hw => ?_) ?_
    · cases own with
      | some x => exact hown w hw
      | none =>
        obtain ⟨s, -, hs⟩ := Option.bind_eq_some_iff.mp hw
        exact unmarked_ownMember? h hs
    · unfold absentElement
      split
      · exact .absent _
      · exact .absent _

/-- A member of a member, as filters take it; where there is none, the default is taken. -/
theorem yields_followPath {default : Option Value} (hdefault : ∀ w, default = some w → w.Unmarked)
    (path : List Value) (h : v.Unmarked) : Yields (followPath default path v) Value.Unmarked := by
  refine yields_foldlM (Q := Value.Unmarked) (fun step _ v hv => ?_) v h
  refine (yields_elementAt hv step).bind fun w hw => ?_
  split
  · exact yields_ok (hdefault _ rfl)
  · exact yields_ok hw

/-! ## Operators -/

/-- Signs make numbers, and negation a truth value. -/
theorem yields_unaryValue (op : UnaryOp) (v : Value) : Yields (unaryValue op v) Value.Unmarked := by
  unfold unaryValue
  split
  · exact yields_ok (.bool _)
  · exact yields_error _
  · split
    · exact yields_ok (.int _)
    · exact yields_ok (.real _)
    · exact yields_error _
  · split
    · exact yields_ok (unmarked_ofFigure _)
    · exact yields_error _

/-- A text or a row, repeated. -/
theorem unmarked_repeated (h : v.Unmarked) (n : Nat) : (repeated v n).Unmarked := by
  have hflat {es : List Value} (hes : AllUnmarked es) : AllUnmarked (List.replicate n es).flatten := by
    intro w hw
    obtain ⟨fs, hfs, hw⟩ := List.mem_flatten.mp hw
    exact hes w (List.eq_of_mem_replicate hfs ▸ hw)
  cases h with
  | text s => exact .text _
  | list h => exact .list (hflat h)
  | tuple h => exact .tuple (hflat h)
  -- nothing else is repeated
  | absent a => exact .absent a
  | none => exact .none
  | bool b => exact .bool b
  | int i => exact .int i
  | real x => exact .real x
  | dict hk hv => exact .dict hk hv
  | item i => exact .item i
  | customer c => exact .customer c
  | range a b s => exact .range a b s
  | foreign f => exact .foreign f
  | lazy k f h => exact .lazy k f h
  | slice ha hb hc => exact .slice ha hb hc
  | loop i n hp hq => exact .loop i n hp hq
  | cycle i => exact .cycle i
  | rangeFunction => exact .rangeFunction

theorem yields_repetition (hv : v.Unmarked) (hw : w.Unmarked) : Yields (repetition v w) Value.Unmarked := by
  unfold repetition
  split
  · split
    · exact yields_ok (unmarked_repeated hv _)
    · exact yields_error _
  · split
    · exact yields_ok (unmarked_repeated hw _)
    · exact yields_error _

/-- Two texts or two rows, joined. Joined with markup a text would become markup. -/
theorem yields_joinValues (hv : v.Unmarked) (hw : w.Unmarked) : Yields (joinValues v w) Value.Unmarked := by
  unfold joinValues
  split
  · exact yields_ok (.text _)
  · cases hv
  · cases hv
  · cases hw
  · cases hv with
    | list hes =>
      cases hw with
      | list hfs => exact yields_ok (.list (allUnmarked_append hes hfs))
  · cases hv with
    | tuple hes =>
      cases hw with
      | tuple hfs => exact yields_ok (.tuple (allUnmarked_append hes hfs))
  all_goals exact yields_error _

/-- A text whose places are filled is plain where the text is not markup. -/
theorem yields_fillText (s : String) (v : Value) : Yields (fillText false s v) Value.Unmarked := by
  unfold fillText
  split
  · exact yields_ok (.text _)
  · exact yields_error _

/-- An operator between values that are both there. -/
theorem yields_presentValue (op : BinaryOp) (hv : v.Unmarked) (hw : w.Unmarked) :
    Yields (presentValue op v w) Value.Unmarked := by
  unfold presentValue
  split
  · exact Yields.map (P := fun _ => True) (fun _ _ => trivial) fun f _ => unmarked_ofFigure f
  · split
    · exact yields_joinValues hv hw
    · exact yields_ite (yields_repetition hv hw) (yields_error _)
    · exact yields_error _

/-- **An operator** makes no markup of values without any. -/
theorem yields_binaryValue (op : BinaryOp) (hv : v.Unmarked) (hw : w.Unmarked) :
    Yields (binaryValue op v w) Value.Unmarked := by
  have hpresent := yields_presentValue op hv hw
  unfold binaryValue
  split
  · exact yields_fillText _ _
  · cases hv
  · exact yields_error _
  · exact yields_error _
  · exact hpresent

/-- An entry that is set in a mapping, at its key or at the end. -/
theorem setEntry_unmarked {es : List (Value × Value)} (hv : v.Unmarked) (hw : w.Unmarked)
    (h : ∀ e ∈ es, e.1.Unmarked ∧ e.2.Unmarked) : ∀ e ∈ setEntry v w es, e.1.Unmarked ∧ e.2.Unmarked := by
  induction es with
  | nil =>
    intro e he
    rw [List.mem_singleton.mp he]
    exact ⟨hv, hw⟩
  | cons e es ih =>
    have hrest := fun e' he' => h e' (List.mem_cons_of_mem e he')
    have hfirst := h e List.mem_cons_self
    intro e' he'
    rw [setEntry] at he'
    split at he'
    · rcases List.mem_cons.mp he' with rfl | he'
      · exact ⟨hfirst.1, hw⟩
      · exact hrest e' he'
    · rcases List.mem_cons.mp he' with rfl | he'
      · exact hfirst
      · exact ih hrest e' he'

/-- A mapping of entries without markup. -/
theorem yields_mappingOf {es : List (Value × Value)} (h : ∀ e ∈ es, e.1.Unmarked ∧ e.2.Unmarked) :
    Yields (mappingOf es) Value.Unmarked := by
  have hfold : ∀ (es acc : List (Value × Value)), (∀ e ∈ es, e.1.Unmarked ∧ e.2.Unmarked) →
      (∀ e ∈ acc, e.1.Unmarked ∧ e.2.Unmarked) →
      ∀ e ∈ es.foldl (fun acc e => setEntry e.1 e.2 acc) acc, e.1.Unmarked ∧ e.2.Unmarked := by
    intro es
    induction es with
    | nil => exact fun acc _ hacc => hacc
    | cons e es ih =>
      intro acc hes hacc
      obtain ⟨hk, hv⟩ := hes e List.mem_cons_self
      exact ih _ (fun e' he' => hes e' (List.mem_cons_of_mem e he')) (setEntry_unmarked hk hv hacc)
  unfold mappingOf
  split
  · exact yields_error _
  · have hentries := hfold es [] h (List.forall_mem_nil _)
    exact yields_ok (.dict (fun e he => (hentries e he).1) fun e he => (hentries e he).2)

end RenderBench.Template
