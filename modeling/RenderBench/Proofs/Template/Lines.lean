import Mathlib.Logic.Basic
import RenderBench.Template.Check
import RenderBench.Template.Mention
import RenderBench.Template.Scope

/-!
# `Proofs.Template.Lines` — the lines in a tree

Trees hold the lines that their words stand on. Nothing that is decided before the rendering looks at them: which
names occur, which values are known, and which blocks there are is the same when the lines are others.

## Contents
- `Expr.reline`, `Stmt.reline`, `Block.reline`, `Document.reline`: trees with other lines.
- `Expr.reline_same`, `Stmt.reline_same`: the same lines.
- `Expr.reline_reline`, `Stmt.reline_reline`: other lines, one after the other.
- `Stmt.mentions_reline`, `Stmt.hasLocalBlock_reline`: names and blocks.
- `constValue_reline`, `Expr.fold_reline`, `Stmt.fold_reline`: what is known.
- `blocksOf_reline`: the blocks of a statement.
-/

namespace RenderBench.Template

/-! ## Other lines -/

mutual

/-- An expression whose filters, tests and conditionals stand on other lines. The values of constants have no lines.
    -/
def Expr.reline (f : Nat → Nat) : Expr → Expr
  | .const l => .const l
  | .name n => .name n
  | .captured => .captured
  | .list es => .list (Expr.relineAll f es)
  | .tuple es => .tuple (Expr.relineAll f es)
  | .dict ks vs => .dict (Expr.relineAll f ks) (Expr.relineAll f vs)
  | .attribute e attr => .attribute (e.reline f) attr
  | .item e i => .item (e.reline f) (i.reline f)
  | .slice a b c => .slice (a.reline f) (b.reline f) (c.reline f)
  | .call g args names values => .call (g.reline f) (Expr.relineAll f args) names (Expr.relineAll f values)
  | .filter line e n args names values =>
    .filter (f line) (e.reline f) n (Expr.relineAll f args) names (Expr.relineAll f values)
  | .test line e n args names values =>
    .test (f line) (e.reline f) n (Expr.relineAll f args) names (Expr.relineAll f values)
  | .unary op e => .unary op (e.reline f)
  | .binary op a b => .binary op (a.reline f) (b.reline f)
  | .concat es => .concat (Expr.relineAll f es)
  | .and a b => .and (a.reline f) (b.reline f)
  | .or a b => .or (a.reline f) (b.reline f)
  | .compare e ops es => .compare (e.reline f) ops (Expr.relineAll f es)
  | .ifElse t a b => .ifElse (t.reline f) (a.reline f) (b.reline f)
  | .ifOnly line t a => .ifOnly (f line) (t.reline f) (a.reline f)
  | .spread e => .spread (e.reline f)
  | .spreadNamed e => .spreadNamed (e.reline f)

/-- A row of expressions on other lines; it is a function of its own because the recursion goes through it. -/
def Expr.relineAll (f : Nat → Nat) : List Expr → List Expr
  | [] => []
  | e :: es => e.reline f :: Expr.relineAll f es

end

mutual

/-- A target on another line: each of its names has one. -/
def Target.reline (f : Nat → Nat) : Target → Target
  | .name line n => .name (f line) n
  | .tuple ts => .tuple (Target.relineAll f ts)
  | .member object attr => .member object attr

def Target.relineAll (f : Nat → Nat) : List Target → List Target
  | [] => []
  | t :: ts => t.reline f :: Target.relineAll f ts

end

/-- A piece of output on another line. Text keeps no line. -/
def Piece.reline (f : Nat → Nat) : Piece → Piece
  | .text s => .text s
  | .value e => .value (e.reline f)

mutual

/-- A statement on other lines, with everything in it. -/
def Stmt.reline (f : Nat → Nat) : Stmt → Stmt
  | .output pieces => .output (pieces.map (Piece.reline f))
  | .forLoop target source condition recursive body otherwise =>
    .forLoop (target.reline f) (source.reline f) (condition.map (Expr.reline f)) recursive (Stmt.relineAll f body)
      (Stmt.relineAll f otherwise)
  | .branch test body otherwise => .branch (test.reline f) (Stmt.relineAll f body) (Stmt.relineAll f otherwise)
  | .assign target value => .assign (target.reline f) (value.reline f)
  | .capture target filter body =>
    .capture (target.reline f) (filter.map (Expr.reline f)) (Stmt.relineAll f body)
  | .scope targets values body =>
    .scope (Target.relineAll f targets) (Expr.relineAll f values) (Stmt.relineAll f body)
  | .block line name withLocals required body => .block (f line) name withLocals required (Stmt.relineAll f body)
  | .inherit line parent => .inherit (f line) (parent.reline f)
  | .embed source ignoreMissing withContext => .embed (source.reline f) ignoreMissing withContext
  | .definition name params defaults body =>
    .definition name params (Expr.relineAll f defaults) (Stmt.relineAll f body)
  | .callBlock params defaults call body =>
    .callBlock params (Expr.relineAll f defaults) (call.reline f) (Stmt.relineAll f body)
  | .filterBlock filter body => .filterBlock (filter.reline f) (Stmt.relineAll f body)
  | .escaping value body => .escaping (value.reline f) (Stmt.relineAll f body)
  | .importing source names => .importing (source.reline f) names

def Stmt.relineAll (f : Nat → Nat) : List Stmt → List Stmt
  | [] => []
  | s :: ss => s.reline f :: Stmt.relineAll f ss

end

/-- A block on other lines. -/
def Block.reline (f : Nat → Nat) (b : Block) : Block :=
  { b with line := f b.line, body := Stmt.relineAll f b.body }

/-- A document on other lines: its body, and its blocks once more where they are listed. -/
def Document.reline (f : Nat → Nat) (d : Document) : Document :=
  { d with body := Stmt.relineAll f d.body, blocks := d.blocks.map (Block.reline f) }

variable {f : Nat → Nat}

/-- The row of expressions is a map, so that the lemmas on lists apply to it. -/
theorem Expr.relineAll_eq (es : List Expr) : Expr.relineAll f es = es.map (Expr.reline f) := by
  induction es with
  | nil => rfl
  | cons e es ih => rw [relineAll, ih, List.map_cons]

theorem Target.relineAll_eq (ts : List Target) : Target.relineAll f ts = ts.map (Target.reline f) := by
  induction ts with
  | nil => rfl
  | cons t ts ih => rw [relineAll, ih, List.map_cons]

theorem Stmt.relineAll_eq (ss : List Stmt) : Stmt.relineAll f ss = ss.map (Stmt.reline f) := by
  induction ss with
  | nil => rfl
  | cons s ss ih => rw [relineAll, ih, List.map_cons]

/-! ## The same lines -/

mutual

/-- Lines that stay what they are change nothing. The identity is given by its values, because the relabellings that
    are trivial are so only up to these. -/
theorem Expr.reline_same (hf : ∀ n, f n = n) : ∀ e : Expr, e.reline f = e
  | .const _ | .name _ | .captured => rfl
  | .list es | .tuple es | .concat es => by rw [Expr.reline, Expr.relineAll_same hf es]
  | .dict ks vs => by rw [Expr.reline, Expr.relineAll_same hf ks, Expr.relineAll_same hf vs]
  | .attribute e _ | .unary _ e | .spread e | .spreadNamed e => by rw [Expr.reline, Expr.reline_same hf e]
  | .item a b | .binary _ a b | .and a b | .or a b => by rw [Expr.reline, Expr.reline_same hf a, Expr.reline_same hf b]
  | .slice a b c | .ifElse a b c => by
    rw [Expr.reline, Expr.reline_same hf a, Expr.reline_same hf b, Expr.reline_same hf c]
  | .call e args _ values => by
    rw [Expr.reline, Expr.reline_same hf e, Expr.relineAll_same hf args, Expr.relineAll_same hf values]
  | .filter line e _ args _ values | .test line e _ args _ values => by
    rw [Expr.reline, hf, Expr.reline_same hf e, Expr.relineAll_same hf args, Expr.relineAll_same hf values]
  | .compare e _ es => by rw [Expr.reline, Expr.reline_same hf e, Expr.relineAll_same hf es]
  | .ifOnly line t a => by rw [Expr.reline, hf, Expr.reline_same hf t, Expr.reline_same hf a]

theorem Expr.relineAll_same (hf : ∀ n, f n = n) : ∀ es : List Expr, Expr.relineAll f es = es
  | [] => rfl
  | e :: es => congrArg₂ List.cons (Expr.reline_same hf e) (Expr.relineAll_same hf es)

end

mutual

theorem Target.reline_same (hf : ∀ n, f n = n) : ∀ t : Target, t.reline f = t
  | .name line n => congrArg (Target.name · n) (hf line)
  | .tuple ts => congrArg Target.tuple (Target.relineAll_same hf ts)
  | .member _ _ => rfl

theorem Target.relineAll_same (hf : ∀ n, f n = n) : ∀ ts : List Target, Target.relineAll f ts = ts
  | [] => rfl
  | t :: ts => congrArg₂ List.cons (Target.reline_same hf t) (Target.relineAll_same hf ts)

end

theorem Piece.reline_same (hf : ∀ n, f n = n) (p : Piece) : p.reline f = p := by
  cases p with
  | text s => rfl
  | value e => exact congrArg Piece.value (e.reline_same hf)

theorem Expr.relineOption_same (hf : ∀ n, f n = n) (o : Option Expr) : o.map (Expr.reline f) = o := by
  cases o with
  | none => rfl
  | some e => exact congrArg some (e.reline_same hf)

mutual

/-- The same for statements, by recursion over what they hold. -/
theorem Stmt.reline_same (hf : ∀ n, f n = n) : ∀ st : Stmt, st.reline f = st
  | .output pieces => congrArg Stmt.output (List.map_id'' (Piece.reline_same hf) pieces)
  | .forLoop target source condition _ body otherwise => by
    rw [Stmt.reline, target.reline_same hf, source.reline_same hf, Expr.relineOption_same hf,
      Stmt.relineAll_same hf body, Stmt.relineAll_same hf otherwise]
  | .branch test body otherwise => by
    rw [Stmt.reline, test.reline_same hf, Stmt.relineAll_same hf body, Stmt.relineAll_same hf otherwise]
  | .assign target value => by rw [Stmt.reline, target.reline_same hf, value.reline_same hf]
  | .capture target filter body => by
    rw [Stmt.reline, target.reline_same hf, Expr.relineOption_same hf, Stmt.relineAll_same hf body]
  | .scope targets values body => by
    rw [Stmt.reline, Target.relineAll_same hf, Expr.relineAll_same hf, Stmt.relineAll_same hf body]
  | .block line _ _ _ body => by rw [Stmt.reline, hf, Stmt.relineAll_same hf body]
  | .inherit line parent => by rw [Stmt.reline, hf, parent.reline_same hf]
  | .embed source _ _ | .importing source _ => by rw [Stmt.reline, source.reline_same hf]
  | .definition _ _ defaults body => by rw [Stmt.reline, Expr.relineAll_same hf, Stmt.relineAll_same hf body]
  | .callBlock _ defaults call body => by
    rw [Stmt.reline, Expr.relineAll_same hf, call.reline_same hf, Stmt.relineAll_same hf body]
  | .filterBlock e body | .escaping e body => by rw [Stmt.reline, e.reline_same hf, Stmt.relineAll_same hf body]

theorem Stmt.relineAll_same (hf : ∀ n, f n = n) : ∀ ss : List Stmt, Stmt.relineAll f ss = ss
  | [] => rfl
  | st :: ss => congrArg₂ List.cons (Stmt.reline_same hf st) (Stmt.relineAll_same hf ss)

end

theorem Block.reline_same (hf : ∀ n, f n = n) (b : Block) : b.reline f = b := by rw [reline, hf, Stmt.relineAll_same hf]

/-- A document whose lines stay is the same document. -/
theorem Document.reline_same (hf : ∀ n, f n = n) (d : Document) : d.reline f = d := by
  rw [reline, Stmt.relineAll_same hf, List.map_id'' (Block.reline_same hf)]

/-! ## Other lines, one after the other -/

section Twice

variable {g : Nat → Nat}

mutual

/-- Two changes of lines are one change, by the composed function. -/
theorem Expr.reline_reline : ∀ e : Expr, (e.reline f).reline g = e.reline (g ∘ f)
  | .const _ | .name _ | .captured => rfl
  | .list es | .tuple es | .concat es => by rw [Expr.reline, Expr.reline, Expr.relineAll_reline es, Expr.reline]
  | .dict ks vs => by
    rw [Expr.reline, Expr.reline, Expr.relineAll_reline ks, Expr.relineAll_reline vs, Expr.reline]
  | .attribute e _ | .unary _ e | .spread e | .spreadNamed e => by
    rw [Expr.reline, Expr.reline, Expr.reline_reline e, Expr.reline]
  | .item a b | .binary _ a b | .and a b | .or a b => by
    rw [Expr.reline, Expr.reline, Expr.reline_reline a, Expr.reline_reline b, Expr.reline]
  | .slice a b c | .ifElse a b c => by
    rw [Expr.reline, Expr.reline, Expr.reline_reline a, Expr.reline_reline b, Expr.reline_reline c, Expr.reline]
  | .call e args _ values => by
    rw [Expr.reline, Expr.reline, Expr.reline_reline e, Expr.relineAll_reline args, Expr.relineAll_reline values,
      Expr.reline]
  | .filter _ e _ args _ values | .test _ e _ args _ values => by
    rw [Expr.reline, Expr.reline, Expr.reline_reline e, Expr.relineAll_reline args, Expr.relineAll_reline values,
      Expr.reline, Function.comp_apply]
  | .compare e _ es => by rw [Expr.reline, Expr.reline, Expr.reline_reline e, Expr.relineAll_reline es, Expr.reline]
  | .ifOnly _ t a => by
    rw [Expr.reline, Expr.reline, Expr.reline_reline t, Expr.reline_reline a, Expr.reline, Function.comp_apply]

theorem Expr.relineAll_reline : ∀ es : List Expr, Expr.relineAll g (Expr.relineAll f es) = Expr.relineAll (g ∘ f) es
  | [] => rfl
  | e :: es => congrArg₂ List.cons (Expr.reline_reline e) (Expr.relineAll_reline es)

end

mutual

theorem Target.reline_reline : ∀ t : Target, (t.reline f).reline g = t.reline (g ∘ f)
  | .name _ _ | .member _ _ => rfl
  | .tuple ts => congrArg Target.tuple (Target.relineAll_reline ts)

theorem Target.relineAll_reline : ∀ ts : List Target,
    Target.relineAll g (Target.relineAll f ts) = Target.relineAll (g ∘ f) ts
  | [] => rfl
  | t :: ts => congrArg₂ List.cons (Target.reline_reline t) (Target.relineAll_reline ts)

end

theorem Piece.reline_reline (p : Piece) : (p.reline f).reline g = p.reline (g ∘ f) := by
  cases p with
  | text s => rfl
  | value e => exact congrArg Piece.value e.reline_reline

theorem Expr.relineOption_reline (o : Option Expr) :
    (o.map (Expr.reline f)).map (Expr.reline g) = o.map (Expr.reline (g ∘ f)) := by
  cases o with
  | none => rfl
  | some e => exact congrArg some e.reline_reline

mutual

/-- Two changes of lines are one for statements too. -/
theorem Stmt.reline_reline : ∀ st : Stmt, (st.reline f).reline g = st.reline (g ∘ f)
  | .output pieces => by
    rw [Stmt.reline, Stmt.reline, List.map_map, Stmt.reline]
    exact congrArg Stmt.output (List.map_congr_left fun p _ => p.reline_reline)
  | .forLoop target source condition _ body otherwise => by
    rw [Stmt.reline, Stmt.reline, target.reline_reline, source.reline_reline, Expr.relineOption_reline condition,
      Stmt.relineAll_reline body, Stmt.relineAll_reline otherwise, Stmt.reline]
  | .branch test body otherwise => by
    rw [Stmt.reline, Stmt.reline, test.reline_reline, Stmt.relineAll_reline body, Stmt.relineAll_reline otherwise,
      Stmt.reline]
  | .assign target value => by rw [Stmt.reline, Stmt.reline, target.reline_reline, value.reline_reline, Stmt.reline]
  | .capture target filter body => by
    rw [Stmt.reline, Stmt.reline, target.reline_reline, Expr.relineOption_reline filter, Stmt.relineAll_reline body,
      Stmt.reline]
  | .scope targets values body => by
    rw [Stmt.reline, Stmt.reline, Target.relineAll_reline targets, Expr.relineAll_reline values,
      Stmt.relineAll_reline body, Stmt.reline]
  | .block _ _ _ _ body => by
    rw [Stmt.reline, Stmt.reline, Stmt.relineAll_reline body, Stmt.reline, Function.comp_apply]
  | .inherit _ parent => by rw [Stmt.reline, Stmt.reline, parent.reline_reline, Stmt.reline, Function.comp_apply]
  | .embed source _ _ | .importing source _ => by rw [Stmt.reline, Stmt.reline, source.reline_reline, Stmt.reline]
  | .definition _ _ defaults body => by
    rw [Stmt.reline, Stmt.reline, Expr.relineAll_reline defaults, Stmt.relineAll_reline body, Stmt.reline]
  | .callBlock _ defaults call body => by
    rw [Stmt.reline, Stmt.reline, Expr.relineAll_reline defaults, call.reline_reline, Stmt.relineAll_reline body,
      Stmt.reline]
  | .filterBlock e body | .escaping e body => by
    rw [Stmt.reline, Stmt.reline, e.reline_reline, Stmt.relineAll_reline body, Stmt.reline]

theorem Stmt.relineAll_reline : ∀ ss : List Stmt, Stmt.relineAll g (Stmt.relineAll f ss) = Stmt.relineAll (g ∘ f) ss
  | [] => rfl
  | st :: ss => congrArg₂ List.cons (Stmt.reline_reline st) (Stmt.relineAll_reline ss)

end

/-- So they are for blocks, which is what composing two relabellings needs. -/
theorem Block.reline_reline (b : Block) : (b.reline f).reline g = b.reline (g ∘ f) := by
  rw [Block.reline, Block.reline, Stmt.relineAll_reline, Block.reline, Function.comp_apply]

end Twice

/-! ## Names and blocks that occur -/

mutual

/-- Which names occur in an expression does not depend on its lines. -/
theorem Expr.mentions_reline (n : String) : ∀ e : Expr, (e.reline f).mentions n = e.mentions n
  | .const _ | .name _ | .captured => rfl
  | .list es | .tuple es | .concat es => by
    rw [Expr.reline, Expr.mentions, Expr.anyMentions_reline n es, Expr.mentions]
  | .dict ks vs => by
    rw [Expr.reline, Expr.mentions, Expr.anyMentions_reline n ks, Expr.anyMentions_reline n vs, Expr.mentions]
  | .attribute e _ | .unary _ e | .spread e | .spreadNamed e => by
    rw [Expr.reline, Expr.mentions, Expr.mentions_reline n e, Expr.mentions]
  | .item a b | .binary _ a b | .and a b | .or a b | .ifOnly _ a b => by
    rw [Expr.reline, Expr.mentions, Expr.mentions_reline n a, Expr.mentions_reline n b, Expr.mentions]
  | .slice a b c | .ifElse a b c => by
    rw [Expr.reline, Expr.mentions, Expr.mentions_reline n a, Expr.mentions_reline n b, Expr.mentions_reline n c,
      Expr.mentions]
  | .call e args _ values | .filter _ e _ args _ values | .test _ e _ args _ values => by
    rw [Expr.reline, Expr.mentions, Expr.mentions_reline n e, Expr.anyMentions_reline n args,
      Expr.anyMentions_reline n values, Expr.mentions]
  | .compare e _ es => by
    rw [Expr.reline, Expr.mentions, Expr.mentions_reline n e, Expr.anyMentions_reline n es, Expr.mentions]

theorem Expr.anyMentions_reline (n : String) : ∀ es : List Expr,
    Expr.anyMentions n (Expr.relineAll f es) = Expr.anyMentions n es
  | [] => rfl
  | e :: es => congrArg₂ (· || ·) (Expr.mentions_reline n e) (Expr.anyMentions_reline n es)

end

/-- Which names occur in a piece of output does not depend on its line. -/
theorem Piece.mentions_reline (n : String) (p : Piece) : (p.reline f).mentions n = p.mentions n := by
  cases p with
  | text s => rfl
  | value e => exact e.mentions_reline n

/-- A condition that may be missing mentions the same names. -/
theorem Expr.anyOption_reline (n : String) (o : Option Expr) :
    (o.map (Expr.reline f)).any (Expr.mentions n) = o.any (Expr.mentions n) := by
  cases o with
  | none => rfl
  | some e => exact e.mentions_reline n

mutual

/-- A statement mentions the same names, which decides whether a loop keeps count. -/
theorem Stmt.mentions_reline (n : String) : ∀ st : Stmt, (st.reline f).mentions n = st.mentions n
  | .output pieces => by
    rw [Stmt.reline, Stmt.mentions, List.any_map, Stmt.mentions]
    exact congrArg pieces.any (funext (Piece.mentions_reline n))
  | .forLoop _ source condition _ body otherwise => by
    rw [Stmt.reline, Stmt.mentions, source.mentions_reline n, Expr.anyOption_reline n condition,
      Stmt.anyMentions_reline n body, Stmt.anyMentions_reline n otherwise, Stmt.mentions]
  | .branch test body otherwise => by
    rw [Stmt.reline, Stmt.mentions, test.mentions_reline n, Stmt.anyMentions_reline n body,
      Stmt.anyMentions_reline n otherwise, Stmt.mentions]
  | .assign _ e | .inherit _ e | .embed e _ _ | .importing e _ => by
    rw [Stmt.reline, Stmt.mentions, e.mentions_reline n, Stmt.mentions]
  | .capture _ filter body => by
    rw [Stmt.reline, Stmt.mentions, Expr.anyOption_reline n filter, Stmt.anyMentions_reline n body, Stmt.mentions]
  | .scope _ values body | .definition _ _ values body => by
    rw [Stmt.reline, Stmt.mentions, Expr.anyMentions_reline n values, Stmt.anyMentions_reline n body, Stmt.mentions]
  | .block _ _ _ _ _ => rfl
  | .callBlock _ defaults call body => by
    rw [Stmt.reline, Stmt.mentions, Expr.anyMentions_reline n defaults, call.mentions_reline n,
      Stmt.anyMentions_reline n body, Stmt.mentions]
  | .filterBlock e body | .escaping e body => by
    rw [Stmt.reline, Stmt.mentions, e.mentions_reline n, Stmt.anyMentions_reline n body, Stmt.mentions]

theorem Stmt.anyMentions_reline (n : String) : ∀ ss : List Stmt,
    Stmt.anyMentions n (Stmt.relineAll f ss) = Stmt.anyMentions n ss
  | [] => rfl
  | st :: ss => congrArg₂ (· || ·) (Stmt.mentions_reline n st) (Stmt.anyMentions_reline n ss)

end

mutual

/-- Whether a block that sees the names around it stands in a statement. -/
theorem Stmt.hasLocalBlock_reline : ∀ st : Stmt, (st.reline f).hasLocalBlock = st.hasLocalBlock
  | .forLoop _ _ _ _ body otherwise | .branch _ body otherwise => by
    rw [Stmt.reline, Stmt.hasLocalBlock, Stmt.anyLocalBlock_reline body, Stmt.anyLocalBlock_reline otherwise,
      Stmt.hasLocalBlock]
  | .capture _ _ body | .scope _ _ body | .block _ _ _ _ body | .definition _ _ _ body | .callBlock _ _ _ body
  | .filterBlock _ body | .escaping _ body => by
    rw [Stmt.reline, Stmt.hasLocalBlock, Stmt.anyLocalBlock_reline body, Stmt.hasLocalBlock]
  | .output _ | .assign _ _ | .inherit _ _ | .embed _ _ _ | .importing _ _ => rfl

theorem Stmt.anyLocalBlock_reline : ∀ ss : List Stmt,
    Stmt.anyLocalBlock (Stmt.relineAll f ss) = Stmt.anyLocalBlock ss
  | [] => rfl
  | st :: ss => congrArg₂ (· || ·) (Stmt.hasLocalBlock_reline st) (Stmt.anyLocalBlock_reline ss)

end

mutual

/-- Whether a target assigns to a member, which is refused. -/
theorem Target.hasMember_reline : ∀ t : Target, (t.reline f).hasMember = t.hasMember
  | .name _ _ | .member _ _ => rfl
  | .tuple ts => Target.anyMember_reline ts

theorem Target.anyMember_reline : ∀ ts : List Target, Target.anyMember (Target.relineAll f ts) = Target.anyMember ts
  | [] => rfl
  | t :: ts => congrArg₂ (· || ·) (Target.hasMember_reline t) (Target.anyMember_reline ts)

end

/-! ## What is known -/

mutual

/-- What an expression is known to be beforehand is told by its words alone. -/
theorem constValue_reline (escape : Bool) : ∀ e : Expr, constValue escape (e.reline f) = constValue escape e
  | .const _ | .name _ | .captured | .call _ _ _ _ | .spread _ | .spreadNamed _ => rfl
  | .list es | .tuple es | .concat es => by
    rw [Expr.reline, constValue, constValues_reline escape es, constValue]
  | .dict ks vs => by
    rw [Expr.reline, constValue, constValues_reline escape ks, constValues_reline escape vs, constValue]
  | .attribute e _ | .unary _ e => by rw [Expr.reline, constValue, constValue_reline escape e, constValue]
  | .item a b | .binary _ a b | .and a b | .or a b | .ifOnly _ a b => by
    rw [Expr.reline, constValue, constValue_reline escape a, constValue_reline escape b, constValue]
  | .slice a b c | .ifElse a b c => by
    rw [Expr.reline, constValue, constValue_reline escape a, constValue_reline escape b, constValue_reline escape c,
      constValue]
  | .filter _ e _ args _ values | .test _ e _ args _ values => by
    rw [Expr.reline, constValue, constValues_reline escape args, constValues_reline escape values,
      constValue_reline escape e, constValue]
  | .compare e ops es => by
    rw [Expr.reline, constValue, constValue_reline escape e, constValue]
    refine congrArg ((constValue escape e).bind ·) (funext fun v => ?_)
    rw [constComparison_reline escape es]

theorem constValues_reline (escape : Bool) : ∀ es : List Expr,
    constValues escape (Expr.relineAll f es) = constValues escape es
  | [] => rfl
  | e :: es => by
    rw [Expr.relineAll, constValues, constValue_reline escape e, constValues_reline escape es, constValues]

/-- So is a chain of comparisons, from the value that it starts with. -/
theorem constComparison_reline (escape : Bool) : ∀ (es : List Expr) (v : Value) (ops : List CompareOp),
    constComparison escape v ops (Expr.relineAll f es) = constComparison escape v ops es
  | [], _, ops => by cases ops <;> rfl
  | _ :: _, _, [] => rfl
  | e :: es, v, op :: ops => by
    rw [Expr.relineAll, constComparison, constValue_reline escape e, constComparison]
    refine congrArg ((constValue escape e).bind ·) (funext fun w => ?_)
    rw [constComparison_reline escape es]

end

/-- An expression that is replaced by a constant is so on every line. -/
theorem Expr.settle_reline (escape : Bool) (e : Expr) :
    (e.reline f).settle escape = (e.settle escape).reline f := by
  rw [settle, constValue_reline, settle]
  cases (constValue escape e).bind Value.literal? <;> rfl

mutual

/-- Constants are put in place before or after the lines are changed. -/
theorem Expr.fold_reline (escape : Bool) : ∀ e : Expr, (e.reline f).fold escape = (e.fold escape).reline f
  | .const _ | .name _ | .captured => rfl
  | .list es | .tuple es | .concat es => by
    rw [Expr.reline, Expr.fold, Expr.foldAll_reline escape es, Expr.fold, ← Expr.settle_reline, Expr.reline]
  | .dict ks vs => by
    rw [Expr.reline, Expr.fold, Expr.foldAll_reline escape ks, Expr.foldAll_reline escape vs, Expr.fold,
      ← Expr.settle_reline, Expr.reline]
  | .attribute e _ | .unary _ e => by
    rw [Expr.reline, Expr.fold, Expr.fold_reline escape e, Expr.fold, ← Expr.settle_reline, Expr.reline]
  | .item a b | .binary _ a b | .and a b | .or a b | .ifOnly _ a b => by
    rw [Expr.reline, Expr.fold, Expr.fold_reline escape a, Expr.fold_reline escape b, Expr.fold,
      ← Expr.settle_reline, Expr.reline]
  | .slice a b c => by
    rw [Expr.reline, Expr.fold, Expr.fold_reline escape a, Expr.fold_reline escape b, Expr.fold_reline escape c,
      Expr.fold, Expr.reline]
  | .ifElse a b c => by
    rw [Expr.reline, Expr.fold, Expr.fold_reline escape a, Expr.fold_reline escape b, Expr.fold_reline escape c,
      Expr.fold, ← Expr.settle_reline, Expr.reline]
  | .call e args _ values => by
    rw [Expr.reline, Expr.fold, Expr.fold_reline escape e, Expr.foldAll_reline escape args,
      Expr.foldAll_reline escape values, Expr.fold, Expr.reline]
  | .filter _ e _ args _ values | .test _ e _ args _ values => by
    rw [Expr.reline, Expr.fold, Expr.fold_reline escape e, Expr.foldAll_reline escape args,
      Expr.foldAll_reline escape values, Expr.fold, ← Expr.settle_reline, Expr.reline]
  | .compare e _ es => by
    rw [Expr.reline, Expr.fold, Expr.fold_reline escape e, Expr.foldAll_reline escape es, Expr.fold,
      ← Expr.settle_reline, Expr.reline]
  | .spread e | .spreadNamed e => by rw [Expr.reline, Expr.fold, Expr.fold_reline escape e, Expr.fold, Expr.reline]

theorem Expr.foldAll_reline (escape : Bool) : ∀ es : List Expr,
    Expr.foldAll escape (Expr.relineAll f es) = Expr.relineAll f (Expr.foldAll escape es)
  | [] => rfl
  | e :: es => congrArg₂ List.cons (Expr.fold_reline escape e) (Expr.foldAll_reline escape es)

end

/-- Pieces of output have the same constants put in. -/
theorem Piece.fold_reline (escape : Bool) (p : Piece) : (p.reline f).fold escape = (p.fold escape).reline f := by
  cases p with
  | text s => rfl
  | value e => exact congrArg Piece.value (e.fold_reline escape)

/-- A condition that may be missing is folded where it is there. -/
theorem Expr.foldOption_reline (escape : Bool) (o : Option Expr) :
    (o.map (Expr.reline f)).map (Expr.fold escape) = (o.map (Expr.fold escape)).map (Expr.reline f) := by
  cases o with
  | none => rfl
  | some e => exact congrArg some (e.fold_reline escape)

mutual

/-- Statements with constants in them, on other lines. -/
theorem Stmt.fold_reline (escape : Bool) : ∀ st : Stmt, (st.reline f).fold escape = (st.fold escape).reline f
  | .output pieces => by
    rw [Stmt.reline, Stmt.fold, Stmt.fold, Stmt.reline, List.map_map, List.map_map]
    exact congrArg Stmt.output (List.map_congr_left fun p _ => p.fold_reline escape)
  | .forLoop _ source condition _ body otherwise => by
    rw [Stmt.reline, Stmt.fold, source.fold_reline escape, Expr.foldOption_reline escape condition,
      Stmt.foldAll_reline escape body, Stmt.foldAll_reline escape otherwise, Stmt.fold, Stmt.reline]
  | .branch test body otherwise => by
    rw [Stmt.reline, Stmt.fold, test.fold_reline escape, Stmt.foldAll_reline escape body,
      Stmt.foldAll_reline escape otherwise, Stmt.fold, Stmt.reline]
  | .assign _ e | .inherit _ e | .embed e _ _ | .importing e _ => by
    rw [Stmt.reline, Stmt.fold, e.fold_reline escape, Stmt.fold, Stmt.reline]
  | .capture _ filter body => by
    rw [Stmt.reline, Stmt.fold, Expr.foldOption_reline escape filter, Stmt.foldAll_reline escape body, Stmt.fold,
      Stmt.reline]
  | .scope _ values body | .definition _ _ values body => by
    rw [Stmt.reline, Stmt.fold, Expr.foldAll_reline escape values, Stmt.foldAll_reline escape body, Stmt.fold,
      Stmt.reline]
  | .block _ _ _ _ body => by rw [Stmt.reline, Stmt.fold, Stmt.foldAll_reline escape body, Stmt.fold, Stmt.reline]
  | .callBlock _ defaults call body => by
    rw [Stmt.reline, Stmt.fold, Expr.foldAll_reline escape defaults, call.fold_reline escape,
      Stmt.foldAll_reline escape body, Stmt.fold, Stmt.reline]
  | .filterBlock e body => by
    rw [Stmt.reline, Stmt.fold, e.fold_reline escape, Stmt.foldAll_reline escape body, Stmt.fold, Stmt.reline]
  | .escaping value body => by
    have hvalue := value.fold_reline (f := f) escape
    rw [Stmt.reline, Stmt.fold, Stmt.fold, hvalue]
    cases value.fold escape with
    | const l => exact congrArg (Stmt.escaping (.const l)) (Stmt.foldAll_reline _ body)
    | _ => rfl

theorem Stmt.foldAll_reline (escape : Bool) : ∀ ss : List Stmt,
    Stmt.foldAll escape (Stmt.relineAll f ss) = Stmt.relineAll f (Stmt.foldAll escape ss)
  | [] => rfl
  | st :: ss => congrArg₂ List.cons (Stmt.fold_reline escape st) (Stmt.foldAll_reline escape ss)

end

/-- A block with constants in it, on other lines. -/
theorem Block.fold_reline (escape : Bool) (b : Block) : (b.reline f).fold escape = (b.fold escape).reline f := by
  rw [Block.fold, Block.reline, Stmt.foldAll_reline, Block.fold, Block.reline]

/-! ## Blocks -/

mutual

/-- The blocks in a statement are those of the statement on other lines. -/
theorem blocksOf_reline : ∀ st : Stmt, blocksOf (st.reline f) = (blocksOf st).map (Block.reline f)
  | .block _ _ _ _ body => by rw [Stmt.reline, blocksOf, blocksOfAll_reline body, blocksOf]; rfl
  | .forLoop _ _ _ _ body otherwise | .branch _ body otherwise => by
    rw [Stmt.reline, blocksOf, blocksOfAll_reline body, blocksOfAll_reline otherwise, blocksOf, List.map_append]
  | .capture _ _ body | .scope _ _ body | .definition _ _ _ body | .callBlock _ _ _ body | .filterBlock _ body
  | .escaping _ body => by rw [Stmt.reline, blocksOf, blocksOfAll_reline body, blocksOf]
  | .output _ | .assign _ _ | .inherit _ _ | .embed _ _ _ | .importing _ _ => rfl

theorem blocksOfAll_reline : ∀ ss : List Stmt, blocksOfAll (Stmt.relineAll f ss) = (blocksOfAll ss).map (Block.reline f)
  | [] => rfl
  | st :: ss => by rw [Stmt.relineAll, blocksOfAll, blocksOf_reline st, blocksOfAll_reline ss, blocksOfAll, List.map_append]

end

end RenderBench.Template
