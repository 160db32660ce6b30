import RenderBench.Proofs.Template.Relabel.Scope

/-!
# `Proofs.Template.Relabel.Regime` — what statements may do

Whether a rendering tells the name of its template is decided by its statements: they are discreet if they look at
the template itself only for one of its blocks. A value may hold a definition, and a definition statements. So the
condition on statements has to reach into values: a regime is kept by the data that one particular relabelling, which
empties the definitions that are not allowed, leaves alone.

## Contents
- `Expr.discreet`, `Stmt.discreet`: discreet expressions and statements.
- `Regime`, `Expr.allowed`, `Stmt.allowed`: what is allowed; `Stmt.allowed_eq`: with every block in reach, what is discreet.
- `Regime.Asks`: conditions as far as they are asked for.
- `Regime.keeper`, `Kept`: the relabelling that empties other definitions, and what it leaves alone.
- `Relabelling.Spares`: relabellings that change no allowed definition.
-/

namespace RenderBench.Template

/-! ## Expressions and statements -/

mutual

/-- Whether an expression looks at the template itself only for one of its blocks. -/
def Expr.discreet : Expr → Bool
  | .const _ => true
  | .name n => n != "self"
  | .captured => true
  | .list es => Expr.allDiscreet es
  | .tuple es => Expr.allDiscreet es
  | .dict ks vs => Expr.allDiscreet ks && Expr.allDiscreet vs
  | .attribute (.name _) _ => true
  | .attribute e _ => e.discreet
  | .item e i => e.discreet && i.discreet
  | .slice a b c => a.discreet && (b.discreet && c.discreet)
  | .call f args _ values => f.discreet && (Expr.allDiscreet args && Expr.allDiscreet values)
  | .filter _ e _ args _ values => e.discreet && (Expr.allDiscreet args && Expr.allDiscreet values)
  | .test _ e _ args _ values => e.discreet && (Expr.allDiscreet args && Expr.allDiscreet values)
  | .unary _ e => e.discreet
  | .binary _ a b => a.discreet && b.discreet
  | .concat es => Expr.allDiscreet es
  | .and a b => a.discreet && b.discreet
  | .or a b => a.discreet && b.discreet
  | .compare e _ es => e.discreet && Expr.allDiscreet es
  | .ifElse t a b => t.discreet && (a.discreet && b.discreet)
  | .ifOnly _ t a => t.discreet && a.discreet
  | .spread e => e.discreet
  | .spreadNamed e => e.discreet

def Expr.allDiscreet : List Expr → Bool
  | [] => true
  | e :: es => e.discreet && Expr.allDiscreet es

end

def Piece.discreet : Piece → Bool
  | .text _ => true
  | .value e => e.discreet

mutual

/-- Whether a statement looks at the template itself only for its blocks, and inherits and asks for another
    document only if that is allowed. A block is left to the block of its name. -/
def Stmt.discreet (inherits loads : Bool) : Stmt → Bool
  | .output pieces => pieces.all Piece.discreet
  | .forLoop _ source condition _ body otherwise =>
    source.discreet && (condition.all Expr.discreet &&
      (Stmt.allDiscreet inherits loads body && Stmt.allDiscreet inherits loads otherwise))
  | .branch test body otherwise =>
    test.discreet && (Stmt.allDiscreet inherits loads body && Stmt.allDiscreet inherits loads otherwise)
  | .assign _ value => value.discreet
  | .capture _ filter body => filter.all Expr.discreet && Stmt.allDiscreet inherits loads body
  | .scope _ values body => Expr.allDiscreet values && Stmt.allDiscreet inherits loads body
  | .block _ _ _ _ _ => true
  | .inherit _ _ => inherits
  | .embed source _ _ => loads && source.discreet
  | .definition _ _ defaults body => Expr.allDiscreet defaults && Stmt.allDiscreet inherits loads body
  | .callBlock _ _ call body => call.discreet && Stmt.allDiscreet inherits loads body
  | .filterBlock filter body => filter.discreet && Stmt.allDiscreet inherits loads body
  | .escaping value body => value.discreet && Stmt.allDiscreet inherits loads body
  | .importing source _ => loads && source.discreet

def Stmt.allDiscreet (inherits loads : Bool) : List Stmt → Bool
  | [] => true
  | s :: ss => s.discreet inherits loads && Stmt.allDiscreet inherits loads ss

end

/-! ## Regimes -/

/-- What the statements of a rendering may do: those of the template's own file may look at the template itself only
    for the blocks of some names, and may ask for other documents or not; those of other files may do everything. -/
structure Regime where
  own : Bool
  loads : Bool
  reach : String → Bool := fun _ => true

mutual

/-- Whether an expression looks at the template itself only for one of the blocks that may be reached. -/
def Expr.allowed (g : Regime) : Expr → Bool
  | .const _ => true
  | .name n => n != "self"
  | .captured => true
  | .list es => Expr.allAllowed g es
  | .tuple es => Expr.allAllowed g es
  | .dict ks vs => Expr.allAllowed g ks && Expr.allAllowed g vs
  | .attribute (.name n) attr => n != "self" || g.reach attr
  | .attribute e _ => e.allowed g
  | .item e i => e.allowed g && i.allowed g
  | .slice a b c => a.allowed g && (b.allowed g && c.allowed g)
  | .call f args _ values => f.allowed g && (Expr.allAllowed g args && Expr.allAllowed g values)
  | .filter _ e _ args _ values => e.allowed g && (Expr.allAllowed g args && Expr.allAllowed g values)
  | .test _ e _ args _ values => e.allowed g && (Expr.allAllowed g args && Expr.allAllowed g values)
  | .unary _ e => e.allowed g
  | .binary _ a b => a.allowed g && b.allowed g
  | .concat es => Expr.allAllowed g es
  | .and a b => a.allowed g && b.allowed g
  | .or a b => a.allowed g && b.allowed g
  | .compare e _ es => e.allowed g && Expr.allAllowed g es
  | .ifElse t a b => t.allowed g && (a.allowed g && b.allowed g)
  | .ifOnly _ t a => t.allowed g && a.allowed g
  | .spread e => e.allowed g
  | .spreadNamed e => e.allowed g

def Expr.allAllowed (g : Regime) : List Expr → Bool
  | [] => true
  | e :: es => e.allowed g && Expr.allAllowed g es

end

def Piece.allowed (g : Regime) : Piece → Bool
  | .text _ => true
  | .value e => e.allowed g

mutual

/-- Whether a statement does not inherit, renders and looks at only such blocks as may be reached, and asks for another
    document only if that is allowed. What stands in a block is left to the block of its name. -/
def Stmt.allowed (g : Regime) : Stmt → Bool
  | .output pieces => pieces.all (Piece.allowed g)
  | .forLoop _ source condition _ body otherwise =>
    source.allowed g && (condition.all (Expr.allowed g) && (Stmt.allAllowed g body && Stmt.allAllowed g otherwise))
  | .branch test body otherwise => test.allowed g && (Stmt.allAllowed g body && Stmt.allAllowed g otherwise)
  | .assign _ value => value.allowed g
  | .capture _ filter body => filter.all (Expr.allowed g) && Stmt.allAllowed g body
  | .scope _ values body => Expr.allAllowed g values && Stmt.allAllowed g body
  | .block _ name _ _ _ => g.reach name
  | .inherit _ _ => false
  | .embed source _ _ => g.loads && source.allowed g
  | .definition _ _ defaults body => Expr.allAllowed g defaults && Stmt.allAllowed g body
  | .callBlock _ _ call body => call.allowed g && Stmt.allAllowed g body
  | .filterBlock filter body => filter.allowed g && Stmt.allAllowed g body
  | .escaping value body => value.allowed g && Stmt.allAllowed g body
  | .importing source _ => g.loads && source.allowed g

def Stmt.allAllowed (g : Regime) : List Stmt → Bool
  | [] => true
  | s :: ss => s.allowed g && Stmt.allAllowed g ss

end

def Definition.allowed (g : Regime) (d : Definition) : Bool :=
  Expr.allAllowed g d.defaults && Stmt.allAllowed g d.body

/-! ## Every block -/

section Discreet

variable {g : Regime}

mutual

/-- Where every block may be reached, discreet expressions are allowed. -/
theorem Expr.allowed_eq (h : ∀ n, g.reach n = true) : ∀ e : Expr, e.allowed g = e.discreet
  | .const _ | .name _ | .captured => rfl
  | .list es | .tuple es | .concat es => Expr.allAllowed_eq h es
  | .dict ks vs => congrArg₂ (· && ·) (Expr.allAllowed_eq h ks) (Expr.allAllowed_eq h vs)
  | .attribute e attr => by
    have he := Expr.allowed_eq h e
    cases e with
    | name n => exact (congrArg (n != "self" || ·) (h attr)).trans (Bool.or_true _)
    | _ => exact he
  | .item a b | .binary _ a b | .and a b | .or a b | .ifOnly _ a b =>
    congrArg₂ (· && ·) (Expr.allowed_eq h a) (Expr.allowed_eq h b)
  | .slice a b c | .ifElse a b c =>
    congrArg₂ (· && ·) (Expr.allowed_eq h a) (congrArg₂ (· && ·) (Expr.allowed_eq h b) (Expr.allowed_eq h c))
  | .call e args _ values | .filter _ e _ args _ values | .test _ e _ args _ values =>
    congrArg₂ (· && ·) (Expr.allowed_eq h e) (congrArg₂ (· && ·) (Expr.allAllowed_eq h args) (Expr.allAllowed_eq h values))
  | .unary _ e | .spread e | .spreadNamed e => Expr.allowed_eq h e
  | .compare e _ es => congrArg₂ (· && ·) (Expr.allowed_eq h e) (Expr.allAllowed_eq h es)

theorem Expr.allAllowed_eq (h : ∀ n, g.reach n = true) : ∀ es : List Expr, Expr.allAllowed g es = Expr.allDiscreet es
  | [] => rfl
  | e :: es => congrArg₂ (· && ·) (Expr.allowed_eq h e) (Expr.allAllowed_eq h es)

end

theorem Piece.allowed_eq (h : ∀ n, g.reach n = true) (p : Piece) : p.allowed g = p.discreet := by
  cases p with
  | text s => rfl
  | value e => exact e.allowed_eq h

theorem Expr.allowedOption_eq (h : ∀ n, g.reach n = true) (o : Option Expr) :
    o.all (Expr.allowed g) = o.all Expr.discreet := by
  cases o with
  | none => rfl
  | some e => exact e.allowed_eq h

mutual

/-- Where every block may be reached, discreet statements are allowed. -/
theorem Stmt.allowed_eq (h : ∀ n, g.reach n = true) : ∀ st : Stmt, st.allowed g = st.discreet false g.loads
  | .output pieces => congrArg pieces.all (funext (Piece.allowed_eq h))
  | .forLoop _ source condition _ body otherwise =>
    congrArg₂ (· && ·) (source.allowed_eq h) (congrArg₂ (· && ·) (Expr.allowedOption_eq h condition)
      (congrArg₂ (· && ·) (Stmt.allAllowed_eq h body) (Stmt.allAllowed_eq h otherwise)))
  | .branch test body otherwise =>
    congrArg₂ (· && ·) (test.allowed_eq h) (congrArg₂ (· && ·) (Stmt.allAllowed_eq h body) (Stmt.allAllowed_eq h otherwise))
  | .assign _ value => value.allowed_eq h
  | .capture _ filter body => congrArg₂ (· && ·) (Expr.allowedOption_eq h filter) (Stmt.allAllowed_eq h body)
  | .scope _ values body | .definition _ _ values body =>
    congrArg₂ (· && ·) (Expr.allAllowed_eq h values) (Stmt.allAllowed_eq h body)
  | .block _ name _ _ _ => h name
  | .inherit _ _ => rfl
  | .embed source _ _ | .importing source _ => congrArg (g.loads && ·) (source.allowed_eq h)
  | .callBlock _ _ e body | .filterBlock e body | .escaping e body =>
    congrArg₂ (· && ·) (e.allowed_eq h) (Stmt.allAllowed_eq h body)

theorem Stmt.allAllowed_eq (h : ∀ n, g.reach n = true) : ∀ ss : List Stmt,
    Stmt.allAllowed g ss = Stmt.allDiscreet false g.loads ss
  | [] => rfl
  | st :: ss => congrArg₂ (· && ·) (Stmt.allowed_eq h st) (Stmt.allAllowed_eq h ss)

end

end Discreet

/-! ## What a regime asks for -/

namespace Regime

variable {g : Regime} {a b : Bool}

/-- Whether a condition holds as far as the regime asks for it. -/
def Asks (g : Regime) (b : Bool) : Prop := g.own = true → b = true

theorem asks_and : g.Asks (a && b) ↔ g.Asks a ∧ g.Asks b := by
  simp only [Asks, Bool.and_eq_true, imp_and]

theorem asks_of_mem {e : Expr} {es : List Expr} (h : g.Asks (Expr.allAllowed g es)) (he : e ∈ es) :
    g.Asks (e.allowed g) := by
  induction es with
  | nil => exact nomatch he
  | cons e' es ih =>
    obtain ⟨hfirst, hrest⟩ := asks_and.mp h
    cases he with
    | head => exact hfirst
    | tail _ htail => exact ih hrest htail

theorem asks_true : g.Asks true := fun _ => rfl

/-- The relabelling that leaves exactly those values alone whose definitions are what the regime allows, and that refer
    only to such blocks as may be reached. -/
def keeper (g : Regime) : Relabelling where
  file := id
  definition d := if g.own && !d.allowed g then { d with defaults := [], body := [] } else d
  definition_name d := by split <;> rfl
  keeps n := !g.own || g.reach n

theorem keeper_line (g : Regime) (n : Nat) : g.keeper.line n = n := rfl

theorem keeper_keeps {n : String} : g.keeper.keeps n = true ↔ g.Asks (g.reach n) := by
  show (!g.own || g.reach n) = true ↔ (g.own = true → g.reach n = true)
  cases g.own <;> simp

theorem asks_of_keeper {d : Definition} (h : g.keeper.definition d = d) : g.Asks (d.allowed g) := by
  intro hown
  cases hd : d.allowed g with
  | true => rfl
  | false =>
    have hblank : g.keeper.definition d = { d with defaults := [], body := [] } := by
      simp only [keeper, hown, hd, Bool.not_false, Bool.and_self, if_true]
    rw [← h, hblank] at hd
    exact nomatch hd

end Regime

variable {α β : Type} [Labelled α] [Labelled β] {g : Regime} {r : Relabelling}

/-- Data whose definitions are what the regime allows, and that refer only to such blocks as may be reached. -/
def Kept (g : Regime) (x : α) : Prop := relabel g.keeper x = x

def Definition.reline (f : Nat → Nat) (d : Definition) : Definition :=
  { d with defaults := Expr.relineAll f d.defaults, body := Stmt.relineAll f d.body }

theorem Definition.reline_same {f : Nat → Nat} (hf : ∀ n, f n = n) (d : Definition) : d.reline f = d := by
  rw [reline, Expr.relineAll_same hf, Stmt.relineAll_same hf]

/-- A relabelling that changes nothing but the lines of a definition that the regime allows, and leaves no block out
    that may be reached. -/
structure Relabelling.Spares (r : Relabelling) (g : Regime) : Prop where
  definition : ∀ d : Definition, g.Asks (d.allowed g) → r.definition d = d.reline r.line
  has : ∀ n, g.Asks (g.reach n) → r.Has n

namespace Relabelling.Spares

theorem covers (h : r.Spares g) : r.Covers g.keeper := fun n hn => h.has n (Regime.keeper_keeps.mp hn)

theorem whole (h : r.Spares g) (hown : g.own = false) : r.Whole := fun n => h.has n fun htrue => by
  rw [hown] at htrue
  cases htrue

end Relabelling.Spares

theorem spares_keeper : g.keeper.Spares g where
  definition d hd := by
    have hfalse : (g.own && !d.allowed g) = false := by
      cases hown : g.own with
      | false => rfl
      | true => rw [hd hown]; rfl
    have hlines : d.reline g.keeper.line = d := Definition.reline_same g.keeper_line d
    rw [hlines]
    simp only [Regime.keeper, hfalse, Bool.false_eq_true, if_false]
  has n hn := ⟨Regime.keeper_keeps.mpr hn, rfl⟩

theorem kept_nil : Kept g ([] : List α) := rfl

theorem kept_cons {x : α} {xs : List α} : Kept g (x :: xs) ↔ Kept g x ∧ Kept g xs :=
  List.cons_eq_cons

theorem kept_of_mem {x : α} {xs : List α} (hxs : Kept g xs) (hx : x ∈ xs) : Kept g x := by
  induction xs with
  | nil => exact nomatch hx
  | cons y ys ih =>
    obtain ⟨hy, hys⟩ := kept_cons.mp hxs
    cases hx with
    | head => exact hy
    | tail _ htail => exact ih hys htail

theorem kept_prod {x : α} {y : β} : Kept g (x, y) ↔ Kept g x ∧ Kept g y := Prod.mk.injEq .. ▸ Iff.rfl

theorem kept_ok {x : α} : Kept g (.ok x : Eval α) ↔ Kept g x := by
  show (Except.ok _ : Eval α) = _ ↔ _
  rw [Except.ok.injEq]
  rfl

/-- What the regime's own relabelling does not change is kept by the regime. -/
theorem kept_of_ok {x x' : Eval α} {a : α} (hsame : x' = x) (hx : x' = relabel g.keeper x) (ha : x = .ok a) :
    Kept g a := by
  rw [hsame, ha] at hx
  exact kept_ok.mp hx.symm

end RenderBench.Template
