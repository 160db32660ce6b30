import RenderBench.Proofs.Template.Relabel.Call

/-!
# `Proofs.Template.Relabel.Evaluate` — evaluation under a relabelling

The induction over expressions. It goes through for all relabellings at once, because what a part of an expression is
found to be has to be kept by the regime, and that is the same statement for the relabelling of the regime.

## Contents
- `Mirror`: all that makes one machine do relabelled what another one does.
- `Mirror.own`, `Mirror.kept_of_ok`: the regime's own relabelling.
- `evaluate_relabel`: the value of an expression.
-/

namespace RenderBench.Template

variable {α β : Type} {g : Regime} {r : Relabelling} {m m' : Machine} {s : Scope}

/-! ## Parts of expressions -/

mutual

/-- A constant holds no label. -/
theorem relabel_ofLiteral : ∀ l : Literal, (Value.ofLiteral l).relabel r = Value.ofLiteral l
  | .none | .bool _ | .int _ | .real _ | .text _ | .markup _ => rfl
  | .list ls => by
    rw [Value.ofLiteral, Value.relabel, Value.relabelAll_eq, relabel_ofLiterals ls]
  | .tuple ls => by
    rw [Value.ofLiteral, Value.relabel, Value.relabelAll_eq, relabel_ofLiterals ls]
  | .dict ks vs => by
    rw [Value.ofLiteral, Value.relabel, Value.relabelEntries_eq, ← List.zip_map, relabel_ofLiterals ks,
      relabel_ofLiterals vs]

theorem relabel_ofLiterals : ∀ ls : List Literal,
    (Value.ofLiterals ls).map (Value.relabel r) = Value.ofLiterals ls
  | [] => rfl
  | l :: ls => by rw [Value.ofLiterals, List.map_cons, relabel_ofLiteral l, relabel_ofLiterals ls]

end

/-- The values of a row of evaluations, or the first failure among them. -/
theorem allValues_relabel [Labelled α] (xs : List (Eval α)) :
    allValues (relabel r xs) = relabel r (allValues xs) := by
  induction xs with
  | nil => rfl
  | cons x xs ih => exact bind_relabel rfl fun v => bind_relabel ih fun vs => rfl

/-- The keys and the values of a mapping are evaluated in turns. -/
theorem inTurns_map (f : α → β) : ∀ xs ys : List α, inTurns (xs.map f) (ys.map f) = (inTurns xs ys).map f
  | [], _ | _ :: _, [] => rfl
  | x :: xs, y :: ys => congrArg (f x :: f y :: ·) (inTurns_map f xs ys)

/-- Two rows of parts, relabelled one by one. -/
theorem inTurns_relabel [Labelled α] {xs xs' ys ys' : List α} (hxs : xs' = relabel r xs) (hys : ys' = relabel r ys) :
    inTurns xs' ys' = relabel r (inTurns xs ys) := by
  rw [hxs, hys, relabel_list, inTurns_map]

theorem outOfTurns_map (f : α → β) : ∀ xs : List α,
    outOfTurns (xs.map f) = (outOfTurns xs).map (Prod.map f f)
  | [] | [_] => rfl
  | x :: y :: xs => congrArg ((f x, f y) :: ·) (outOfTurns_map f xs)

/-- A mapping that is spread gives arguments by name. -/
theorem namedOf_relabel (v : Value) : namedOf (v.relabel r) = relabel r (namedOf v) := by
  cases v with
  | dict es =>
    rw [Value.relabel, Value.relabelEntries_eq]
    refine congrArg Except.ok ?_
    show (es.map _).map _ = (es.map _).map _
    rw [List.map_map, List.map_map]
    refine List.map_congr_left fun e _ => ?_
    exact Prod.ext (Value.display_relabel e.1) rfl
  | _ => rfl

/-- An argument gives one value, or several if it is spread. -/
theorem argumentsOf_relabel (e : Expr) (v : Value) :
    argumentsOf e (v.relabel r) = relabel r (argumentsOf e v) := by
  cases e with
  | spread e => exact bind_relabel (listOf_relabel v) fun _ => rfl
  | spreadNamed e => exact bind_relabel (namedOf_relabel v) fun _ => rfl
  | _ => rfl

theorem CallValues.append_relabel (args args' : List Value) (named named' : List (String × Value)) :
    (⟨relabel r args ++ relabel r args', relabel r named ++ relabel r named'⟩ : CallValues) =
      relabel r ⟨args ++ args', named ++ named'⟩ := by
  simp only [relabel, List.map_append]

theorem argumentsOf_reline {f : Nat → Nat} (e : Expr) (v : Value) :
    argumentsOf (e.reline f) v = argumentsOf e v := by
  cases e <;> rfl

/-- All arguments of a call: those by position first, then those by name. -/
theorem givenArguments_relabel {f : Nat → Nat} {args : List Expr} (names : List String) {values : List Expr}
    (hargs : evaluateArgs m' (s.relabel r) (Expr.relineAll f args) = relabel r (evaluateArgs m s args))
    (hvalues : evaluateEach m' (s.relabel r) (Expr.relineAll f values) = relabel r (evaluateEach m s values)) :
    givenArguments m' (s.relabel r) (Expr.relineAll f args) names (Expr.relineAll f values) =
      relabel r (givenArguments m s args names values) := by
  refine bind_relabel hargs fun given => ?_
  rw [hvalues, allValues_relabel]
  refine bind_relabel rfl fun ws => congrArg Except.ok ?_
  have hzip : names.zip (relabel r ws) = relabel r (names.zip ws) := List.zip_map_right ..
  have happend := CallValues.append_relabel (r := r) given.args [] (names.zip ws) given.named
  rw [List.append_nil, ← hzip] at happend
  exact (congrArg (fun args => (⟨args, _⟩ : CallValues)) (List.append_nil _)).symm.trans happend

/-- A filter that is missing is told by its name. -/
theorem namedFilter_relabel (markup : Bool) (name : String) (v : Value) (c : CallValues) :
    namedFilter markup name (v.relabel r) (relabel r c) = relabel r (namedFilter markup name v c) := by
  have hfilter := applyFilter_relabel (r := r) v markup name c.args c.named
  unfold namedFilter
  split
  · exact hfilter
  · rfl

/-- So is a test. -/
theorem namedTest_relabel (name : String) (v : Value) (c : CallValues) :
    namedTest name (v.relabel r) (relabel r c) = relabel r (namedTest name v c) := by
  have htest := applyTest_relabel (r := r) v name c.args c.named
  unfold namedTest
  split
  · exact bind_relabel htest fun _ => rfl
  · rfl

theorem relabel_listValue (vs : List Value) : Value.list (relabel r vs) = relabel r (Value.list vs) := by
  rw [relabel_value, Value.relabel, Value.relabelAll_eq]
  rfl

theorem relabel_tupleValue (vs : List Value) : Value.tuple (relabel r vs) = relabel r (Value.tuple vs) := by
  rw [relabel_value, Value.relabel, Value.relabelAll_eq]
  rfl

theorem relabel_joinSoft (markupToo : Bool) (vs : List Value) :
    (Value.joinSoft markupToo vs).relabel r = Value.joinSoft markupToo vs := by
  rw [Value.joinSoft]
  split <;> rfl

theorem isSlice_reline {f : Nat → Nat} (e : Expr) : (e.reline f).isSlice = e.isSlice := by cases e <;> rfl

/-- An element by its index, or a part of a sequence by a slice. -/
theorem indexed_relabel (hcovers : r.Covers g.keeper) (s : Scope) (slicing : Bool) {v : Value} (hv : Kept g v)
    (w : Value) : (s.relabel r).indexed slicing (v.relabel r) (w.relabel r) = relabel r (s.indexed slicing v w) := by
  have helement := Scope.element_relabel s v w hcovers hv
  cases slicing with
  | false => exact helement
  | true =>
    cases w with
    | slice a b c => exact sliceValue_relabel v a b c
    | _ => exact helement

/-- A conditional value. -/
theorem ite_relabel [Labelled α] {c c' : Bool} {x x' y y' : Eval α} (hc : c' = c) (hx : x' = relabel r x)
    (hy : y' = relabel r y) : (if c' then x' else y') = relabel r (if c then x else y) := by
  subst hc hx hy
  cases c' <;> rfl

/-! An expression of one part is `bind_relabel`; those of more parts have a rule for how their parts are evaluated. -/

/-- Two parts, both of which are evaluated. -/
theorem both_relabel [Labelled α] [Labelled β] {x x' : Eval Value} {y y' : Eval α} {f f' : Value → α → Eval β}
    (hx : x' = relabel r x) (hy : y' = relabel r y) (hf : ∀ v a, f' (v.relabel r) (relabel r a) = relabel r (f v a)) :
    (x' >>= fun v => y' >>= f' v) = relabel r (x >>= fun v => y >>= f v) :=
  bind_relabel hx fun v => bind_relabel hy (hf v)

/-- A part that chooses which part is evaluated next. -/
theorem choice_relabel {x x' : Eval Value} {a a' b b' : Value → Eval Value} (hx : x' = relabel r x)
    (ha : ∀ v, a' (v.relabel r) = relabel r (a v)) (hb : ∀ v, b' (v.relabel r) = relabel r (b v)) :
    (x' >>= fun v => if v.isTruthy then a' v else b' v) =
      relabel r (x >>= fun v => if v.isTruthy then a v else b v) :=
  bind_relabel hx fun v => ite_relabel (Value.isTruthy_relabel v) (ha v) (hb v)

/-- A row of parts, all of which are evaluated. -/
theorem row_relabel [Labelled α] {xs xs' : List (Eval Value)} {f f' : List Value → Eval α} (hxs : xs' = relabel r xs)
    (hf : ∀ vs, f' (relabel r vs) = relabel r (f vs)) : (allValues xs' >>= f') = relabel r (allValues xs >>= f) :=
  bind_relabel (by rw [hxs, allValues_relabel]) hf

/-- What the regime asks of a member: its object is a name, of which only the template itself matters, or an
    expression that is asked for. -/
theorem Expr.asks_attribute {e : Expr} {attr : String} (h : g.Asks ((Expr.attribute e attr).allowed g)) :
    (∃ n, e = .name n ∧ (n = "self" → g.Asks (g.reach attr))) ∨ g.Asks (e.allowed g) := by
  cases e with
  | name n =>
    refine .inl ⟨n, rfl, fun hself hown => ?_⟩
    subst hself
    exact h hown
  | _ => exact .inr h

/-! ## Mirrored machines -/

/-- Everything that makes what one machine does in a scope, relabelled, what another one does in the relabelled
    scope. -/
structure Mirror (g : Regime) (r : Relabelling) (m m' : Machine) (s : Scope) : Prop where
  spares : r.Spares g
  kept : m.Respects g g.keeper m
  respects : m.Respects g r m'
  fits : Fits g r s

namespace Mirror

variable (h : Mirror g r m m' s)

include h

/-- The relabelling of the regime, under which nothing changes, mirrors each machine in itself. -/
theorem own : Mirror g g.keeper m m s := ⟨spares_keeper, h.kept, h.kept, h.fits.keeper⟩

theorem inside {names : Bindings} (hn : Kept g names) : Mirror g r m m' (s.inside names) :=
  ⟨h.spares, h.kept, h.respects, h.fits.inside hn⟩

/-- Under it an expression has the value that it has. -/
theorem evaluate_own (e : Expr) : evaluate m (s.relabel g.keeper) (e.reline g.keeper.line) = evaluate m s e := by
  rw [h.fits.kept, Expr.reline_same g.keeper_line]

theorem evaluateEach_own (es : List Expr) :
    evaluateEach m (s.relabel g.keeper) (Expr.relineAll g.keeper.line es) = evaluateEach m s es := by
  rw [h.fits.kept, Expr.relineAll_same g.keeper_line]

theorem givenArguments_own (args : List Expr) (names : List String) (values : List Expr) :
    givenArguments m (s.relabel g.keeper) (Expr.relineAll g.keeper.line args) names
      (Expr.relineAll g.keeper.line values) = givenArguments m s args names values := by
  rw [h.fits.kept, Expr.relineAll_same g.keeper_line, Expr.relineAll_same g.keeper_line]

/-- A name is bound to the same, relabelled. The template itself is asked for only where the regime allows it. -/
theorem lookup (n : String) (hself : g.Asks (n != "self")) :
    (s.relabel r).lookup n = (s.lookup n).relabel r := by
  refine Scope.lookup_relabel s (fun h' => ?_) fun name level hcurrent =>
    h.spares.has name (h.fits.current name level hcurrent)
  cases hown : g.own with
  | false => exact ⟨h.fits.title hown, h.spares.whole hown⟩
  | true => exact absurd h' (bne_iff_ne.mp (hself hown))

/-- A member of what a name is bound to; of the template itself, a block that the regime reaches. -/
theorem member_lookup {n attr : String} (hattr : n = "self" → g.Asks (g.reach attr)) :
    (s.relabel r).member ((s.relabel r).lookup n) attr = relabel r (s.member (s.lookup n) attr) := by
  refine Scope.member_lookup_relabel s h.spares.covers h.fits.kept (fun name level hcurrent => ?_)
    spares_keeper.covers fun hself => Regime.keeper_keeps.mpr (hattr hself)
  exact Regime.keeper_keeps.mpr (h.fits.current name level hcurrent)

end Mirror

/-! ## Evaluation -/

mutual

/-- **The value of an expression under a relabelling** is its value, relabelled. -/
theorem evaluate_relabel : ∀ (e : Expr) {r : Relabelling} {m' : Machine}, Mirror g r m m' s →
    g.Asks (e.allowed g) → evaluate m' (s.relabel r) (e.reline r.line) = relabel r (evaluate m s e)
  | .const l, _, _, _, _ => congrArg Except.ok (relabel_ofLiteral l).symm
  | .name n, _, _, h, he => congrArg Except.ok (h.lookup n he)
  | .captured, _, _, _, _ => rfl
  | .list es, _, _, h, he => row_relabel (evaluateEach_relabel es h he) fun vs => congrArg Except.ok (relabel_listValue vs)
  | .tuple es, _, _, h, he => row_relabel (evaluateEach_relabel es h he) fun vs => congrArg Except.ok (relabel_tupleValue vs)
  | .dict ks vs, _, _, h, he => by
    obtain ⟨hks, hvs⟩ := Regime.asks_and.mp he
    refine row_relabel (inTurns_relabel (evaluateEach_relabel ks h hks) (evaluateEach_relabel vs h hvs)) fun ws => ?_
    rw [relabel_list, outOfTurns_map]
    exact mappingOf_relabel _
  | .attribute e attr, _, _, h, he => by
    rw [Expr.reline, evaluate, evaluate]
    cases Expr.asks_attribute he with
    | inl hname =>
      obtain ⟨n, rfl, hattr⟩ := hname
      exact h.member_lookup hattr
    | inr he =>
      refine bind_relabel_of_ok (evaluate_relabel e h he) fun v hv => ?_
      have hkept := kept_of_ok (h.evaluate_own e) (evaluate_relabel e h.own he) hv
      exact Scope.member_relabel s v h.spares.covers hkept attr
  | .item e i, _, _, h, he => by
    obtain ⟨he, hi⟩ := Regime.asks_and.mp he
    rw [Expr.reline, evaluate_item, evaluate_item, isSlice_reline]
    refine bind_relabel_of_ok (evaluate_relabel e h he) fun v hv => ?_
    have hkept := kept_of_ok (h.evaluate_own e) (evaluate_relabel e h.own he) hv
    exact bind_relabel (evaluate_relabel i h hi) fun w => indexed_relabel h.spares.covers s _ hkept w
  | .slice a b c, _, _, h, he => by
    obtain ⟨ha, hbc⟩ := Regime.asks_and.mp he
    obtain ⟨hb, hc⟩ := Regime.asks_and.mp hbc
    refine bind_relabel (evaluate_relabel a h ha) fun v => ?_
    exact both_relabel (evaluate_relabel b h hb) (evaluate_relabel c h hc) fun _ _ => rfl
  | .call f args names values, _, _, h, he => by
    obtain ⟨hf, hrest⟩ := Regime.asks_and.mp he
    obtain ⟨hargs, hvalues⟩ := Regime.asks_and.mp hrest
    rw [Expr.reline, evaluate_call, evaluate_call]
    refine bind_relabel_of_ok (evaluate_relabel f h hf) fun v hv => ?_
    have hgiven := givenArguments_relabel names (evaluateArgs_relabel args h hargs)
      (evaluateEach_relabel values h hvalues)
    refine bind_relabel_of_ok hgiven fun c hc => ?_
    have hown := givenArguments_relabel names (evaluateArgs_relabel args h.own hargs)
      (evaluateEach_relabel values h.own hvalues)
    have hkeptv := kept_of_ok (h.evaluate_own f) (evaluate_relabel f h.own hf) hv
    have hkeptc := kept_of_ok (h.givenArguments_own args names values) hown hc
    exact callValue_relabel h.spares h.kept h.respects h.fits hkeptv hkeptc
  | .filter _ e name args names values, _, _, h, he => by
    obtain ⟨he, hrest⟩ := Regime.asks_and.mp he
    obtain ⟨hargs, hvalues⟩ := Regime.asks_and.mp hrest
    have hgiven := givenArguments_relabel names (evaluateArgs_relabel args h hargs) (evaluateEach_relabel values h hvalues)
    rw [Expr.reline, evaluate_filter, evaluate_filter]
    exact both_relabel (evaluate_relabel e h he) hgiven (namedFilter_relabel s.markup name)
  | .test _ e name args names values, _, _, h, he => by
    obtain ⟨he, hrest⟩ := Regime.asks_and.mp he
    obtain ⟨hargs, hvalues⟩ := Regime.asks_and.mp hrest
    have hgiven := givenArguments_relabel names (evaluateArgs_relabel args h hargs) (evaluateEach_relabel values h hvalues)
    rw [Expr.reline, evaluate_test, evaluate_test]
    exact both_relabel (evaluate_relabel e h he) hgiven (namedTest_relabel name)
  | .unary op e, _, _, h, he => bind_relabel (evaluate_relabel e h he) fun v => unaryValue_relabel v op
  | .binary op a b, _, _, h, he => by
    obtain ⟨ha, hb⟩ := Regime.asks_and.mp he
    exact both_relabel (evaluate_relabel a h ha) (evaluate_relabel b h hb) fun v w => binaryValue_relabel v w op
  | .concat es, r, _, h, he => by
    refine row_relabel (evaluateEach_relabel es h he) fun vs => congrArg Except.ok ?_
    have hjoin := Value.joinSoft_relabel (r := r) s.escape vs
    rw [relabel_value, relabel_joinSoft]
    exact hjoin
  | .and a b, _, _, h, he => by
    obtain ⟨ha, hb⟩ := Regime.asks_and.mp he
    exact choice_relabel (evaluate_relabel a h ha) (fun _ => evaluate_relabel b h hb) fun _ => rfl
  | .or a b, _, _, h, he => by
    obtain ⟨ha, hb⟩ := Regime.asks_and.mp he
    exact choice_relabel (evaluate_relabel a h ha) (fun _ => rfl) fun _ => evaluate_relabel b h hb
  | .compare e ops es, _, _, h, he => by
    obtain ⟨he, hes⟩ := Regime.asks_and.mp he
    refine bind_relabel (evaluate_relabel e h he) fun v => ?_
    exact bind_relabel (evaluateChain_relabel es h hes v ops) fun _ => rfl
  | .ifElse t a b, _, _, h, he => by
    obtain ⟨ht, hab⟩ := Regime.asks_and.mp he
    obtain ⟨ha, hb⟩ := Regime.asks_and.mp hab
    exact choice_relabel (evaluate_relabel t h ht) (fun _ => evaluate_relabel a h ha) fun _ => evaluate_relabel b h hb
  | .ifOnly line t a, _, _, h, he => by
    obtain ⟨ht, ha⟩ := Regime.asks_and.mp he
    exact choice_relabel (evaluate_relabel t h ht) (fun _ => evaluate_relabel a h ha) fun _ => rfl
  | .spread e, _, _, h, he => evaluate_relabel e h he
  | .spreadNamed e, _, _, h, he => evaluate_relabel e h he

theorem evaluateEach_relabel : ∀ (es : List Expr) {r : Relabelling} {m' : Machine}, Mirror g r m m' s →
    g.Asks (Expr.allAllowed g es) → evaluateEach m' (s.relabel r) (Expr.relineAll r.line es) = relabel r (evaluateEach m s es)
  | [], _, _, _, _ => rfl
  | e :: es, _, _, h, hes => by
    obtain ⟨he, hes⟩ := Regime.asks_and.mp hes
    rw [Expr.relineAll, evaluateEach, evaluateEach, evaluate_relabel e h he, evaluateEach_relabel es h hes]
    rfl

/-- Arguments by position, spread ones among them. -/
theorem evaluateArgs_relabel : ∀ (es : List Expr) {r : Relabelling} {m' : Machine}, Mirror g r m m' s →
    g.Asks (Expr.allAllowed g es) → evaluateArgs m' (s.relabel r) (Expr.relineAll r.line es) = relabel r (evaluateArgs m s es)
  | [], _, _, _, _ => rfl
  | e :: es, _, _, h, hes => by
    obtain ⟨he, hes⟩ := Regime.asks_and.mp hes
    rw [Expr.relineAll, evaluateArgs_cons, evaluateArgs_cons]
    refine bind_relabel (evaluate_relabel e h he) fun v => ?_
    rw [argumentsOf_reline]
    refine bind_relabel (argumentsOf_relabel e v) fun first => ?_
    refine bind_relabel (evaluateArgs_relabel es h hes) fun rest => ?_
    exact congrArg Except.ok (CallValues.append_relabel first.args rest.args first.named rest.named)

/-- A chain of comparisons, which ends at the first that does not hold. -/
theorem evaluateChain_relabel : ∀ (es : List Expr) {r : Relabelling} {m' : Machine}, Mirror g r m m' s →
    g.Asks (Expr.allAllowed g es) → ∀ (v : Value) (ops : List CompareOp),
      evaluateChain m' (s.relabel r) (v.relabel r) ops (Expr.relineAll r.line es) = relabel r (evaluateChain m s v ops es)
  | [], _, _, _, _, _, ops => by cases ops <;> rfl
  | e :: es, _, _, h, hes, v, [] => rfl
  | e :: es, _, _, h, hes, v, op :: ops => by
    obtain ⟨he, hes⟩ := Regime.asks_and.mp hes
    rw [Expr.relineAll, evaluateChain, evaluateChain]
    refine bind_relabel (evaluate_relabel e h he) fun w => ?_
    refine bind_relabel (compareValues_relabel v w op) fun holds => ?_
    exact ite_relabel rfl (evaluateChain_relabel es h hes w ops) rfl

end

end RenderBench.Template
