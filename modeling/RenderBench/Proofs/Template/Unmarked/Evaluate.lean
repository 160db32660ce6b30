import Mathlib.Data.List.Forall2
import RenderBench.Proofs.Template.Expression
import RenderBench.Proofs.Template.Relabel.Scope
import RenderBench.Proofs.Template.Unmarked.Source

/-!
# `Proofs.Template.Unmarked.Evaluate` — evaluation in another mode

A document can be rendered in several modes: with its output escaped or not, and with any other text in place of the
text that is written in it. An expression that makes no markup has the same value in all modes, and nothing that is
called in it renders statements.

## Contents
- `Mode`, `Stmt.retext`, `Scope.view`: modes, and what statements and scopes are in them.
- `mentions_retext`, `hasLocalBlock_retext`: what other text leaves alone.
- `Scope.Unmarked`: scopes whose names have values without markup.
- `callValue_agreed`, `evaluate_agreed`: calls and expressions in two modes.
-/

namespace RenderBench.Template

/-! ## Modes -/

/-- What becomes of the text of a document, and whether its output is escaped. -/
structure Mode where
  literal : String → String
  escape : Bool

/-- Other text in the place of what is written as it stands. -/
def Piece.retext (f : String → String) : Piece → Piece
  | .text s => .text (f s)
  | .value e => .value e

mutual

/-- A statement with other text in place of its own. -/
def Stmt.retext (f : String → String) : Stmt → Stmt
  | .output pieces => .output (pieces.map (Piece.retext f))
  | .forLoop target source condition recursive body otherwise =>
    .forLoop target source condition recursive (Stmt.retextAll f body) (Stmt.retextAll f otherwise)
  | .branch test body otherwise => .branch test (Stmt.retextAll f body) (Stmt.retextAll f otherwise)
  | .assign target value => .assign target value
  | .capture target filter body => .capture target filter (Stmt.retextAll f body)
  | .scope targets values body => .scope targets values (Stmt.retextAll f body)
  | .block line name withLocals required body => .block line name withLocals required (Stmt.retextAll f body)
  | .inherit line parent => .inherit line parent
  | .embed source ignoreMissing withContext => .embed source ignoreMissing withContext
  | .definition name params defaults body => .definition name params defaults (Stmt.retextAll f body)
  | .callBlock params defaults call body => .callBlock params defaults call (Stmt.retextAll f body)
  | .filterBlock filter body => .filterBlock filter (Stmt.retextAll f body)
  | .escaping value body => .escaping value (Stmt.retextAll f body)
  | .importing source names => .importing source names

/-- A body with other text in it. -/
def Stmt.retextAll (f : String → String) : List Stmt → List Stmt
  | [] => []
  | s :: ss => s.retext f :: Stmt.retextAll f ss

end

/-- A block with other text. -/
def Block.retext (f : String → String) (b : Block) : Block := { b with body := Stmt.retextAll f b.body }

/-- A document with other text in place of its own. -/
def Document.retext (f : String → String) (d : Document) : Document :=
  { d with body := Stmt.retextAll f d.body, blocks := d.blocks.map (Block.retext f) }

/-- A document in a mode. -/
def Document.view (μ : Mode) (d : Document) : Document := { d.retext μ.literal with escape := μ.escape }

/-- A block as it is seen from another mode. -/
def BlockSource.view (μ : Mode) (b : BlockSource) : BlockSource :=
  { b with block := b.block.retext μ.literal, escape := μ.escape }

/-- A scope in a mode. -/
def Scope.view (μ : Mode) (s : Scope) : Scope :=
  { s with
    escape := μ.escape
    markup := μ.escape
    blocks := s.blocks.map (Prod.map id (List.map (BlockSource.view μ))) }

/-- Text that stays changes nothing. -/
theorem Piece.retext_id (p : Piece) : p.retext id = p := by cases p <;> rfl

mutual

/-- A statement whose text stays is the same statement. -/
theorem Stmt.retext_id : ∀ st : Stmt, st.retext id = st
  | .output pieces => congrArg Stmt.output ((List.map_congr_left fun p _ => p.retext_id).trans (List.map_id _))
  | .forLoop _ _ _ _ body otherwise => by rw [Stmt.retext, retextAll_id body, retextAll_id otherwise]
  | .branch _ body otherwise => by rw [Stmt.retext, retextAll_id body, retextAll_id otherwise]
  | .capture _ _ body | .scope _ _ body | .block _ _ _ _ body | .definition _ _ _ body | .callBlock _ _ _ body
  | .filterBlock _ body | .escaping _ body => by rw [Stmt.retext, retextAll_id body]
  | .assign _ _ | .inherit _ _ | .embed _ _ _ | .importing _ _ => rfl

theorem Stmt.retextAll_id : ∀ ss : List Stmt, Stmt.retextAll id ss = ss
  | [] => rfl
  | st :: ss => congrArg₂ List.cons (Stmt.retext_id st) (Stmt.retextAll_id ss)

end

theorem Block.retext_id (b : Block) : b.retext id = b := by
  rw [Block.retext, Stmt.retextAll_id]

/-! ## What other text leaves alone -/

section Retext

variable (f : String → String)

theorem Piece.mentions_retext (n : String) (p : Piece) : (p.retext f).mentions n = p.mentions n := by cases p <;> rfl

mutual

/-- Names stand outside of text, so that a loop keeps count in both modes or in none. -/
theorem Stmt.mentions_retext (n : String) : ∀ st : Stmt, (st.retext f).mentions n = st.mentions n
  | .output pieces => by
    rw [Stmt.retext, Stmt.mentions, List.any_map, Stmt.mentions]
    exact congrArg pieces.any (funext (Piece.mentions_retext f n))
  | .forLoop _ _ _ _ body otherwise | .branch _ body otherwise => by
    simp only [Stmt.retext, Stmt.mentions, anyMentions_retext n body, anyMentions_retext n otherwise]
  | .capture _ _ body | .scope _ _ body | .definition _ _ _ body | .callBlock _ _ _ body
  | .filterBlock _ body | .escaping _ body => by simp only [Stmt.retext, Stmt.mentions, anyMentions_retext n body]
  | .assign _ _ | .block _ _ _ _ _ | .inherit _ _ | .embed _ _ _ | .importing _ _ => rfl

theorem Stmt.anyMentions_retext (n : String) : ∀ ss : List Stmt,
    Stmt.anyMentions n (Stmt.retextAll f ss) = Stmt.anyMentions n ss
  | [] => rfl
  | st :: ss => congrArg₂ or (Stmt.mentions_retext n st) (Stmt.anyMentions_retext n ss)

end

mutual

/-- So do blocks. -/
theorem Stmt.hasLocalBlock_retext : ∀ st : Stmt, (st.retext f).hasLocalBlock = st.hasLocalBlock
  | .forLoop _ _ _ _ body otherwise | .branch _ body otherwise => by
    simp only [Stmt.retext, Stmt.hasLocalBlock, anyLocalBlock_retext body, anyLocalBlock_retext otherwise]
  | .capture _ _ body | .scope _ _ body | .block _ _ _ _ body | .definition _ _ _ body | .callBlock _ _ _ body
  | .filterBlock _ body | .escaping _ body => by simp only [Stmt.retext, Stmt.hasLocalBlock, anyLocalBlock_retext body]
  | .output _ | .assign _ _ | .inherit _ _ | .embed _ _ _ | .importing _ _ => rfl

theorem Stmt.anyLocalBlock_retext : ∀ ss : List Stmt, Stmt.anyLocalBlock (Stmt.retextAll f ss) = Stmt.anyLocalBlock ss
  | [] => rfl
  | st :: ss => congrArg₂ or (Stmt.hasLocalBlock_retext st) (Stmt.anyLocalBlock_retext ss)

end

end Retext

/-! ## Scopes -/

/-- A scope whose names have values without markup, and in which no block takes the place of another one. -/
structure Scope.Unmarked (s : Scope) : Prop where
  frames : ∀ f ∈ s.frames, NamedUnmarked f
  globals : NamedUnmarked s.globals
  lone : ∀ n, (s.sources n).length ≤ 1

variable {s : Scope} {μ : Mode}

namespace Scope

/-- The blocks of a name, seen from another mode. -/
theorem sources_view (s : Scope) (μ : Mode) (n : String) :
    (s.view μ).sources n = (s.sources n).map (BlockSource.view μ) := by
  have hlookup := lookup_map (List.map (BlockSource.view μ)) s.blocks n
  rw [sources, view, hlookup, sources]
  cases s.blocks.lookup n <;> rfl

/-- Names are bound to the same values in both modes. -/
theorem lookup_view (s : Scope) (μ : Mode) (n : String) : (s.view μ).lookup n = s.lookup n := by
  have hspecial : (s.view μ).special? n = s.special? n := by
    have hblock (name : String) (level : Nat) : (s.view μ).blockValue name level = s.blockValue name level := by
      rw [blockValue, sources_view, List.length_map, blockValue]
    have hnames : (s.view μ).blocks.map Prod.fst = s.blocks.map Prod.fst := List.map_map ..
    simp only [special?, hblock, hnames]
    rfl
  rw [lookup, hspecial]
  rfl

end Scope

namespace Scope.Unmarked

variable (h : s.Unmarked)

include h

/-- Names without markup may be bound in front of the others. -/
theorem inside {names : Bindings} (hnames : NamedUnmarked names) : (s.inside names).Unmarked where
  frames := List.forall_mem_cons.mpr ⟨hnames, h.frames⟩
  globals := h.globals
  lone := h.lone

/-- Every name but that of the template itself is bound to a value without markup. -/
theorem lookup {n : String} (hn : n ≠ "self") : (s.lookup n).Unmarked := by
  have hframes (fs : List Bindings) (hfs : ∀ f ∈ fs, NamedUnmarked f) :
      ∀ v, lookupFrames fs n = some v → v.Unmarked := by
    induction fs with
    | nil => exact nofun
    | cons f fs ih =>
      intro v hv
      rcases Option.or_eq_some_iff.mp hv with hv | ⟨-, hv⟩
      · exact unmarked_of_lookup (hfs f List.mem_cons_self) hv
      · exact ih (fun f' hf' => hfs f' (List.mem_cons_of_mem f hf')) v hv
  -- no block takes the place of the one that is rendered, so that there is none one level up
  have hspecial : ∀ v, s.special? n = some v → v.Unmarked := by
    intro v hv
    rw [special?, if_neg hn] at hv
    split at hv
    · obtain ⟨⟨name, level⟩, -, rfl⟩ := Option.map_eq_some_iff.mp hv
      have hlone := h.lone name
      show (s.blockValue name (level + 1)).Unmarked
      rw [blockValue, if_neg (by omega)]
      exact .absent _
    · cases hv
  refine unmarked_getD (fun v hv => ?_) (.absent _)
  rcases Option.or_eq_some_iff.mp hv with hv | ⟨-, hv⟩
  · rcases Option.or_eq_some_iff.mp hv with hv | ⟨-, hv⟩
    · exact hframes s.frames h.frames v hv
    · exact hspecial v hv
  · exact unmarked_of_lookup h.globals hv

end Scope.Unmarked

/-! ## Calls -/

/-- Arguments without markup. -/
structure CallValues.Unmarked (c : CallValues) : Prop where
  args : AllUnmarked c.args
  named : NamedUnmarked c.named

/-- A range of numbers. -/
theorem yields_callRange (c : CallValues) : Yields (callRange c) Value.Unmarked := by
  obtain ⟨args, named⟩ := c
  cases named with
  | cons p ps => exact yields_error _
  | nil =>
    rw [callRange_open]
    refine yields_bind fun bounds => ?_
    unfold rangeOf
    split
    · exact yields_ok (.range _ _ _)
    · exact yields_ok (.range _ _ _)
    · exact yields_ite (yields_error _) (yields_ok (.range _ _ _))
    · exact yields_error _
    · exact yields_error _

/-- One of the arguments in turn. -/
theorem yields_callCycle (index : Nat) {c : CallValues} (hc : c.Unmarked) :
    Yields (callCycle index c) Value.Unmarked := by
  unfold callCycle
  split
  · exact yields_error _
  · split
    · rename_i v hv
      exact yields_ok (hc.args v (List.mem_of_getElem? hv))
    · exact yields_error _

/-- A call of a value without markup renders nothing, and is the same in every mode. -/
theorem callValue_agreed (m m' : Machine) (s s' : Scope) {v : Value} (hv : v.Unmarked) {c : CallValues}
    (hc : c.Unmarked) : Agreed Value.Unmarked (callValue m s v c) (callValue m' s' v c) := by
  cases hv with
  | absent a => exact agreed_of_yields (yields_error _)
  | rangeFunction => exact agreed_of_yields (yields_callRange c)
  | cycle index => exact agreed_of_yields (yields_callCycle index hc)
  | _ => exact agreed_of_yields (yields_error _)

/-! ## Expressions -/

/-- Arguments by name, from a mapping that is spread. -/
theorem yields_namedOf {v : Value} (hv : v.Unmarked) : Yields (namedOf v) NamedUnmarked := by
  cases hv with
  | dict hkeys hvalues =>
    refine yields_ok fun p hp => ?_
    obtain ⟨e, he, rfl⟩ := List.mem_map.mp hp
    exact hvalues e he
  | _ => exact yields_error _

theorem yields_argumentsOf (e : Expr) {v : Value} (hv : v.Unmarked) :
    Yields (argumentsOf e v) CallValues.Unmarked := by
  unfold argumentsOf
  split
  · exact (yields_listOf hv).bind fun vs hvs => yields_ok ⟨hvs, List.forall_mem_nil _⟩
  · exact (yields_namedOf hv).bind fun named hnamed => yields_ok ⟨List.forall_mem_nil _, hnamed⟩
  · exact yields_ok ⟨List.forall_mem_singleton.mpr hv, List.forall_mem_nil _⟩

/-- The values of a row of evaluations that agree one by one. -/
theorem agreed_allValues {xs xs' : List (Eval Value)} (h : List.Forall₂ (Agreed Value.Unmarked) xs xs') :
    Agreed AllUnmarked (allValues xs) (allValues xs') := by
  induction h with
  | nil => exact agreed_ok (List.forall_mem_nil _)
  | cons hx _ ih => exact hx.bind fun v hv => ih.bind fun vs hvs => agreed_ok (unmarked_cons hv hvs)

theorem forall₂_inTurns {R : Eval Value → Eval Value → Prop} {xs xs' ys ys' : List (Eval Value)}
    (hxs : List.Forall₂ R xs xs') : List.Forall₂ R ys ys' → List.Forall₂ R (inTurns xs ys) (inTurns xs' ys') := by
  induction hxs generalizing ys ys' with
  | nil => exact fun _ => .nil
  | cons hx _ ih =>
    intro hys
    cases hys with
    | nil => exact .nil
    | cons hy hys => exact .cons hx (.cons hy (ih hys))

theorem unmarked_outOfTurns : ∀ {vs : List Value}, AllUnmarked vs → ∀ e ∈ outOfTurns vs, e.1.Unmarked ∧ e.2.Unmarked
  | [], _, _, h | [_], _, _, h => nomatch h
  | v :: w :: vs, hvs, e, h => by
    obtain ⟨hv, hrest⟩ := List.forall_mem_cons.mp hvs
    obtain ⟨hw, hrest⟩ := List.forall_mem_cons.mp hrest
    rcases List.mem_cons.mp h with rfl | h
    · exact ⟨hv, hw⟩
    · exact unmarked_outOfTurns hrest e h

/-- A member of a value without markup is found without a look at the scope, since the value is no block. -/
theorem member_unmarked (s : Scope) {v : Value} (hv : v.Unmarked) (attr : String) :
    s.member v attr = memberOf v attr := by
  cases hv <;> rfl

theorem element_unmarked (s : Scope) {v : Value} (hv : v.Unmarked) (w : Value) : s.element v w = elementAt v w := by
  unfold Scope.element
  split
  · cases hv
  · cases hv
  · rfl

/-- The element of a value without markup, or a part of it. -/
theorem indexed_agreed (s s' : Scope) (slicing : Bool) {v : Value} (hv : v.Unmarked) (w : Value) :
    Agreed Value.Unmarked (s.indexed slicing v w) (s'.indexed slicing v w) := by
  have helement (w : Value) : Agreed Value.Unmarked (s.element v w) (s'.element v w) := by
    rw [element_unmarked s hv, element_unmarked s' hv]
    exact agreed_of_yields (yields_elementAt hv w)
  cases slicing with
  | false => exact helement w
  | true =>
    cases w with
    | slice a b c => exact agreed_of_yields (yields_sliceValue hv a b c)
    | _ => exact helement _

/-- A filter that is plain, by its name. -/
theorem namedFilter_agreed {name : String} {args : List Expr} (hname : plainFilter name args) {v : Value}
    (hv : v.Unmarked) {c : CallValues} (hc : c.Unmarked) (hargs : args = [] → c.args = []) (escape escape' : Bool) :
    Agreed Value.Unmarked (namedFilter escape name v c) (namedFilter escape' name v c) := by
  obtain ⟨hmarkup, hmap⟩ := Bool.and_eq_true_iff.mp hname
  have hmarkup : makesMarkup name = false := Bool.not_eq_true' _ ▸ hmarkup
  have hmap : name = "map" → c.args = [] := by
    rintro rfl
    exact hargs (List.isEmpty_iff.mp hmap)
  have hflag := applyFilter_flag hmap hv hc.args hc.named
  have hyields := yields_applyFilter hmarkup hmap hv hc.args hc.named
  refine agreed_ite ?_ (agreed_of_yields (yields_error _))
  exact ⟨(hflag escape').trans (hflag escape).symm, (hflag escape).symm ▸ hyields⟩

theorem agreed_same {α : Type} (x : Eval α) : Agreed (fun _ => True) x x := agreed_of_yields fun _ _ => trivial

theorem namedTest_agreed (name : String) (v : Value) (c : CallValues) :
    Agreed Value.Unmarked (namedTest name v c) (namedTest name v c) :=
  agreed_ite ((agreed_same _).bind fun b _ => agreed_ok (.bool b)) (agreed_of_yields (yields_error _))

/-- All arguments of a call. -/
theorem givenArguments_agreed {m m' : Machine} {s' : Scope} {args : List Expr} (names : List String)
    {values : List Expr}
    (hargs : Agreed (fun c => c.Unmarked ∧ (args = [] → c.args = [])) (evaluateArgs m s args)
      (evaluateArgs m' s' args))
    (hvalues : List.Forall₂ (Agreed Value.Unmarked) (evaluateEach m s values) (evaluateEach m' s' values)) :
    Agreed (fun c => c.Unmarked ∧ (args = [] → c.args = [])) (givenArguments m s args names values)
      (givenArguments m' s' args names values) := by
  refine hargs.bind fun given hgiven => (agreed_allValues hvalues).bind fun ws hws => ?_
  refine agreed_ok ⟨⟨hgiven.1.args, fun p hp => ?_⟩, hgiven.2⟩
  exact (List.mem_append.mp hp).elim (unmarked_zip names hws p) (hgiven.1.named p)

variable {m m' : Machine}

mutual

/-- **The value of an expression that makes no markup** is the same in every mode, and without markup. -/
theorem evaluate_agreed (h : s.Unmarked) : ∀ e : Expr, e.unmarked →
    Agreed Value.Unmarked (evaluate m s e) (evaluate m' (s.view μ) e)
  | .const l, he => agreed_ok (unmarked_ofLiteral l he)
  | .name n, he => ⟨congrArg Except.ok (Scope.lookup_view s μ n), yields_ok (h.lookup (bne_iff_ne.mp he))⟩
  | .captured, he => nomatch he
  | .list es, he => (agreed_allValues (evaluateEach_agreed h es he)).bind fun vs hvs => agreed_ok (.list hvs)
  | .tuple es, he => (agreed_allValues (evaluateEach_agreed h es he)).bind fun vs hvs => agreed_ok (.tuple hvs)
  | .dict ks vs, he => by
    obtain ⟨hks, hvs⟩ := Bool.and_eq_true_iff.mp he
    have hturns := forall₂_inTurns (evaluateEach_agreed h ks hks) (evaluateEach_agreed h vs hvs)
    exact (agreed_allValues hturns).bind fun ws hws => agreed_of_yields (yields_mappingOf (unmarked_outOfTurns hws))
  | .attribute e attr, he => by
    rw [evaluate, evaluate]
    refine (evaluate_agreed h e he).bind fun v hv => ?_
    -- without the template itself and its blocks, members do not depend on the scope
    rw [member_unmarked s hv, member_unmarked (s.view μ) hv]
    exact agreed_of_yields (yields_memberOf hv attr)
  | .item e i, he => by
    obtain ⟨he, hi⟩ := Bool.and_eq_true_iff.mp he
    rw [evaluate_item, evaluate_item]
    refine (evaluate_agreed h e he).bind fun v hv => (evaluate_agreed h i hi).bind fun w _ => ?_
    exact indexed_agreed s (s.view μ) i.isSlice hv w
  | .slice a b c, he => by
    obtain ⟨ha, hbc⟩ := Bool.and_eq_true_iff.mp he
    obtain ⟨hb, hc⟩ := Bool.and_eq_true_iff.mp hbc
    rw [evaluate, evaluate]
    refine (evaluate_agreed h a ha).bind fun v hv => (evaluate_agreed h b hb).bind fun w hw => ?_
    exact (evaluate_agreed h c hc).bind fun x hx => agreed_ok (.slice hv hw hx)
  | .call f args names values, he => by
    obtain ⟨hf, hrest⟩ := Bool.and_eq_true_iff.mp he
    obtain ⟨hargs, hvalues⟩ := Bool.and_eq_true_iff.mp hrest
    rw [evaluate_call, evaluate_call]
    refine (evaluate_agreed h f hf).bind fun v hv => ?_
    have hgiven := givenArguments_agreed names (evaluateArgs_agreed h args hargs) (evaluateEach_agreed h values hvalues)
    exact hgiven.bind fun c hc => callValue_agreed m m' s (s.view μ) hv hc.1
  | .filter _ e name args names values, he => by
    obtain ⟨hname, hrest⟩ := Bool.and_eq_true_iff.mp he
    obtain ⟨he, hrest⟩ := Bool.and_eq_true_iff.mp hrest
    obtain ⟨hargs, hvalues⟩ := Bool.and_eq_true_iff.mp hrest
    rw [evaluate_filter, evaluate_filter]
    refine (evaluate_agreed h e he).bind fun v hv => ?_
    have hgiven := givenArguments_agreed names (evaluateArgs_agreed h args hargs) (evaluateEach_agreed h values hvalues)
    exact hgiven.bind fun c hc => namedFilter_agreed hname hv hc.1 hc.2 s.markup (s.view μ).markup
  | .test _ e name args names values, he => by
    obtain ⟨he, hrest⟩ := Bool.and_eq_true_iff.mp he
    obtain ⟨hargs, hvalues⟩ := Bool.and_eq_true_iff.mp hrest
    rw [evaluate_test, evaluate_test]
    refine (evaluate_agreed h e he).bind fun v _ => ?_
    have hgiven := givenArguments_agreed names (evaluateArgs_agreed h args hargs) (evaluateEach_agreed h values hvalues)
    exact hgiven.bind fun c _ => namedTest_agreed name v c
  | .unary op e, he => (evaluate_agreed h e he).bind fun v _ => agreed_of_yields (yields_unaryValue op v)
  | .binary op a b, he => by
    obtain ⟨ha, hb⟩ := Bool.and_eq_true_iff.mp he
    rw [evaluate, evaluate]
    refine (evaluate_agreed h a ha).bind fun v hv => (evaluate_agreed h b hb).bind fun w hw => ?_
    exact agreed_of_yields (yields_binaryValue op hv hw)
  | .concat es, he => by
    rw [evaluate, evaluate]
    refine (agreed_allValues (evaluateEach_agreed h es he)).bind fun vs hvs => ?_
    -- joined texts are markup only where one of them is
    rw [joinSoft_of_unmarked hvs, joinSoft_of_unmarked hvs]
    exact agreed_ok (.text _)
  | .and a b, he => by
    obtain ⟨ha, hb⟩ := Bool.and_eq_true_iff.mp he
    rw [evaluate, evaluate]
    exact (evaluate_agreed h a ha).bind fun v hv => agreed_ite (evaluate_agreed h b hb) (agreed_ok hv)
  | .or a b, he => by
    obtain ⟨ha, hb⟩ := Bool.and_eq_true_iff.mp he
    rw [evaluate, evaluate]
    exact (evaluate_agreed h a ha).bind fun v hv => agreed_ite (agreed_ok hv) (evaluate_agreed h b hb)
  | .compare e ops es, he => by
    obtain ⟨he, hes⟩ := Bool.and_eq_true_iff.mp he
    rw [evaluate, evaluate]
    refine (evaluate_agreed h e he).bind fun v _ => ?_
    exact (evaluateChain_agreed h es hes v ops).bind fun b _ => agreed_ok (.bool b)
  | .ifElse t a b, he => by
    obtain ⟨ht, hab⟩ := Bool.and_eq_true_iff.mp he
    obtain ⟨ha, hb⟩ := Bool.and_eq_true_iff.mp hab
    rw [evaluate, evaluate]
    exact (evaluate_agreed h t ht).bind fun v _ => agreed_ite (evaluate_agreed h a ha) (evaluate_agreed h b hb)
  | .ifOnly line t a, he => by
    obtain ⟨ht, ha⟩ := Bool.and_eq_true_iff.mp he
    rw [evaluate, evaluate]
    exact (evaluate_agreed h t ht).bind fun v _ => agreed_ite (evaluate_agreed h a ha) (agreed_ok (.absent _))
  | .spread e, he => evaluate_agreed h e he
  | .spreadNamed e, he => evaluate_agreed h e he

/-- The parts of an expression agree one by one. -/
theorem evaluateEach_agreed (h : s.Unmarked) : ∀ es : List Expr, Expr.allUnmarked es →
    List.Forall₂ (Agreed Value.Unmarked) (evaluateEach m s es) (evaluateEach m' (s.view μ) es)
  | [], _ => .nil
  | e :: es, hes => by
    obtain ⟨he, hes⟩ := Bool.and_eq_true_iff.mp hes
    exact .cons (evaluate_agreed h e he) (evaluateEach_agreed h es hes)

/-- Arguments by position; without any in the source there are none. -/
theorem evaluateArgs_agreed (h : s.Unmarked) : ∀ es : List Expr, Expr.allUnmarked es →
    Agreed (fun c => c.Unmarked ∧ (es = [] → c.args = [])) (evaluateArgs m s es) (evaluateArgs m' (s.view μ) es)
  | [], _ => agreed_ok ⟨⟨List.forall_mem_nil _, List.forall_mem_nil _⟩, fun _ => rfl⟩
  | e :: es, hes => by
    obtain ⟨he, hes⟩ := Bool.and_eq_true_iff.mp hes
    rw [evaluateArgs_cons, evaluateArgs_cons]
    refine (evaluate_agreed h e he).bind fun v hv => ?_
    refine (agreed_of_yields (yields_argumentsOf e hv)).bind fun first hfirst => ?_
    refine (evaluateArgs_agreed h es hes).bind fun rest hrest => agreed_ok ⟨⟨?_, ?_⟩, nofun⟩
    · exact allUnmarked_append hfirst.args hrest.1.args
    · exact fun p hp => (List.mem_append.mp hp).elim (hfirst.named p) (hrest.1.named p)

theorem evaluateChain_agreed (h : s.Unmarked) : ∀ es : List Expr, Expr.allUnmarked es →
    ∀ (v : Value) (ops : List CompareOp),
      Agreed (fun _ => True) (evaluateChain m s v ops es) (evaluateChain m' (s.view μ) v ops es)
  | [], _, _, ops => by cases ops <;> exact agreed_ok trivial
  | _ :: _, _, _, [] => agreed_ok trivial
  | e :: es, hes, v, op :: ops => by
    obtain ⟨he, hes⟩ := Bool.and_eq_true_iff.mp hes
    rw [evaluateChain, evaluateChain]
    refine (evaluate_agreed h e he).bind fun w _ => (agreed_same _).bind fun holds _ => ?_
    exact agreed_ite (evaluateChain_agreed h es hes w ops) (agreed_ok trivial)

end

end RenderBench.Template
