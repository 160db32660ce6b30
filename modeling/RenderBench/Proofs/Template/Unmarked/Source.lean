import Mathlib.Logic.Basic
import RenderBench.Proofs.Template.Check
import RenderBench.Proofs.Template.Unmarked.Filter

/-!
# `Proofs.Template.Unmarked.Source` — documents that make no markup

A document makes no markup if it applies no filter that does, keeps nothing of what it writes, does not look at the
template itself, and takes nothing from other documents but their text. What is known of it before the rendering does
not depend on whether output is escaped, and so neither does the document that it is.

## Contents
- `Agreed`, `Known`: evaluations that agree, with what they end with.
- `Literal.isPlain`, `Expr.unmarked`, `Stmt.unmarked`: what makes no markup.
- `constValue_known`: what is known beforehand.
- `fold_same`, `stmtFold_same`: constants in place of what is known.
- `ofStatements_flag`: the documents that statements make up.
-/

namespace RenderBench.Template

variable {α β : Type}

/-! ## Evaluations that agree -/

section Agreement

variable {P : α → Prop} {Q : β → Prop}

/-- Two evaluations agree, and what they end well with has a property. -/
def Agreed (P : α → Prop) (x x' : Eval α) : Prop := x' = x ∧ Yields x P

theorem agreed_of_yields {x : Eval α} (h : Yields x P) : Agreed P x x := ⟨rfl, h⟩

theorem agreed_ok {a : α} (h : P a) : Agreed P (.ok a) (.ok a) := agreed_of_yields (yields_ok h)

/-- The rule for steps one after the other. -/
theorem Agreed.bind {x x' : Eval α} {f f' : α → Eval β} (hx : Agreed P x x') (hf : ∀ a, P a → Agreed Q (f a) (f' a)) :
    Agreed Q (x >>= f) (x' >>= f') := by
  obtain ⟨rfl, hx⟩ := hx
  exact ⟨(hx.bind_congr fun a ha => (hf a ha).1.symm).symm, hx.bind fun a ha => (hf a ha).2⟩

theorem agreed_ite {c : Bool} {x x' y y' : Eval α} (hx : Agreed P x x') (hy : Agreed P y y') :
    Agreed P (if c then x else y) (if c then x' else y') := by
  cases c with
  | true => exact hx
  | false => exact hy

/-- Two values that are known beforehand agree, and if there is one, it has a property. -/
def Known (P : α → Prop) (x x' : Option α) : Prop := x' = x ∧ ∀ a, x = some a → P a

theorem known_none : Known P none none := ⟨rfl, nofun⟩

theorem known_some {a : α} (h : P a) : Known P (some a) (some a) := by
  refine ⟨rfl, fun a' ha => ?_⟩
  cases ha
  exact h

/-- The same rule for what is known beforehand. -/
theorem Known.bind {x x' : Option α} {f f' : α → Option β} (hx : Known P x x')
    (hf : ∀ a, P a → Known Q (f a) (f' a)) : Known Q (x >>= f) (x' >>= f') := by
  obtain ⟨rfl, hx⟩ := hx
  cases x' with
  | none => exact known_none
  | some a => exact hf a (hx a rfl)

/-- What is known of evaluations that agree is the same. -/
theorem Agreed.known {x x' : Eval α} (h : Agreed P x x') : Known P (known? x) (known? x') := by
  obtain ⟨rfl, h⟩ := h
  cases x' with
  | ok a => exact known_some (h a rfl)
  | error f => exact known_none

theorem Yields.known {x : Eval α} (h : Yields x P) : Known P (known? x) (known? x) := (agreed_of_yields h).known

theorem known_ite {c : Bool} {x x' y y' : Option α} (hx : Known P x x') (hy : Known P y y') :
    Known P (if c then x else y) (if c then x' else y') := by
  cases c with
  | true => exact hx
  | false => exact hy

end Agreement

/-! ## What makes no markup -/

mutual

/-- Whether a constant holds no markup. -/
def Literal.isPlain : Literal → Bool
  | .markup _ => false
  | .list es => Literal.allPlain es
  | .tuple es => Literal.allPlain es
  | .dict ks vs => Literal.allPlain ks && Literal.allPlain vs
  | .none => true
  | .bool _ => true
  | .int _ => true
  | .real _ => true
  | .text _ => true

def Literal.allPlain : List Literal → Bool
  | [] => true
  | l :: ls => l.isPlain && Literal.allPlain ls

end

/-- Whether a filter with some arguments makes no markup of values without any. Other filters are not applied
    through it. -/
def plainFilter (name : String) (args : List Expr) : Bool :=
  !makesMarkup name && (name != "map" || args.isEmpty)

mutual

/-- Whether an expression makes no markup and does not look at the template itself. -/
def Expr.unmarked : Expr → Bool
  | .const l => l.isPlain
  | .name n => n != "self"
  | .captured => false
  | .list es => Expr.allUnmarked es
  | .tuple es => Expr.allUnmarked es
  | .dict ks vs => Expr.allUnmarked ks && Expr.allUnmarked vs
  | .attribute e _ => e.unmarked
  | .item e i => e.unmarked && i.unmarked
  | .slice a b c => a.unmarked && (b.unmarked && c.unmarked)
  | .call f args _ values => f.unmarked && (Expr.allUnmarked args && Expr.allUnmarked values)
  | .filter _ e n args _ values =>
    plainFilter n args && (e.unmarked && (Expr.allUnmarked args && Expr.allUnmarked values))
  | .test _ e _ args _ values => e.unmarked && (Expr.allUnmarked args && Expr.allUnmarked values)
  | .unary _ e => e.unmarked
  | .binary _ a b => a.unmarked && b.unmarked
  | .concat es => Expr.allUnmarked es
  | .and a b => a.unmarked && b.unmarked
  | .or a b => a.unmarked && b.unmarked
  | .compare e _ es => e.unmarked && Expr.allUnmarked es
  | .ifElse t a b => t.unmarked && (a.unmarked && b.unmarked)
  | .ifOnly _ t a => t.unmarked && a.unmarked
  | .spread e => e.unmarked
  | .spreadNamed e => e.unmarked

/-- A row of expressions of which none makes markup. -/
def Expr.allUnmarked : List Expr → Bool
  | [] => true
  | e :: es => e.unmarked && Expr.allUnmarked es

end

/-- Text makes no markup, as it is not a value. -/
def Piece.unmarked : Piece → Bool
  | .text _ => true
  | .value e => e.unmarked

mutual

/-- Whether a statement makes no markup: nothing of what it writes is kept, escaping is left as it is, and other
    documents are included at most, if that is allowed. -/
def Stmt.unmarked (embeds : Bool) : Stmt → Bool
  | .output pieces => pieces.all Piece.unmarked
  | .forLoop _ source condition _ body otherwise =>
    source.unmarked && (condition.all Expr.unmarked &&
      (Stmt.allUnmarked embeds body && Stmt.allUnmarked embeds otherwise))
  | .branch test body otherwise =>
    test.unmarked && (Stmt.allUnmarked embeds body && Stmt.allUnmarked embeds otherwise)
  | .assign _ value => value.unmarked
  | .scope _ values body => Expr.allUnmarked values && Stmt.allUnmarked embeds body
  | .block _ _ _ _ body => Stmt.allUnmarked embeds body
  | .inherit _ parent => parent.unmarked
  | .embed source _ _ => embeds && source.unmarked
  | .capture _ _ _ => false
  | .definition _ _ _ _ => false
  | .callBlock _ _ _ _ => false
  | .filterBlock _ _ => false
  | .escaping _ _ => false
  | .importing _ _ => false

def Stmt.allUnmarked (embeds : Bool) : List Stmt → Bool
  | [] => true
  | s :: ss => s.unmarked embeds && Stmt.allUnmarked embeds ss

end

/-! ## Constants -/

mutual

/-- The value of a plain constant. -/
theorem unmarked_ofLiteral : ∀ l : Literal, l.isPlain → (Value.ofLiteral l).Unmarked
  | .none, _ => .none
  | .bool b, _ => .bool b
  | .int i, _ => .int i
  | .real x, _ => .real x
  | .text s, _ => .text s
  | .list ls, h => .list (unmarked_ofLiterals ls h)
  | .tuple ls, h => .tuple (unmarked_ofLiterals ls h)
  | .dict ks vs, h => by
    obtain ⟨hks, hvs⟩ := Bool.and_eq_true_iff.mp h
    exact .dict (fun e he => unmarked_ofLiterals ks hks _ (List.of_mem_zip he).1)
      fun e he => unmarked_ofLiterals vs hvs _ (List.of_mem_zip he).2

theorem unmarked_ofLiterals : ∀ ls : List Literal, Literal.allPlain ls → AllUnmarked (Value.ofLiterals ls)
  | [], _, _, h => nomatch h
  | l :: ls, hls, v, h => by
    obtain ⟨hfirst, hrest⟩ := Bool.and_eq_true_iff.mp hls
    rcases List.mem_cons.mp h with rfl | h
    · exact unmarked_ofLiteral l hfirst
    · exact unmarked_ofLiterals ls hrest v h

end

mutual

/-- A value without markup that can be written as a constant is a plain one. -/
theorem isPlain_of_literal? : ∀ (v : Value) {l : Literal}, v.Unmarked → v.literal? = some l → l.isPlain
  | .none, l, _, h | .bool _, l, _, h | .int _, l, _, h | .real _, l, _, h | .text _, l, _, h => by
    cases h
    rfl
  | .list vs, l, hv, h => by
    obtain ⟨ls, hls, rfl⟩ := Option.map_eq_some_iff.mp h
    cases hv with
    | list hvs => exact allPlain_of_literals? vs hvs hls
  | .tuple vs, l, hv, h => by
    obtain ⟨ls, hls, rfl⟩ := Option.map_eq_some_iff.mp h
    cases hv with
    | tuple hvs => exact allPlain_of_literals? vs hvs hls
  | .dict es, l, hv, h => by
    obtain ⟨⟨ks, vs⟩, hls, rfl⟩ := Option.map_eq_some_iff.mp h
    cases hv with
    | dict hkeys hvalues =>
      obtain ⟨hks, hvs⟩ := allPlain_of_entryLiterals? es hkeys hvalues hls
      exact Bool.and_eq_true_iff.mpr ⟨hks, hvs⟩
  | .markup _, _, hv, _ => nomatch hv
  | .absent _, _, _, h | .item _, _, _, h | .customer _, _, _, h | .range _ _ _, _, _, h | .foreign _, _, _, h
  | .lazy _ _ _, _, _, h | .slice _ _ _, _, _, h | .loop _ _ _ _, _, _, h | .cycle _, _, _, h
  | .rangeFunction, _, _, h | .definition _, _, _, h | .itself _ _, _, _, h | .blockRef _ _, _, _, h
  | .caller _, _, _, h => nomatch h

theorem allPlain_of_literals? : ∀ (vs : List Value) {ls : List Literal}, AllUnmarked vs →
    Value.literals? vs = some ls → Literal.allPlain ls
  | [], _, _, h => by
    cases h
    rfl
  | v :: vs, ls, hvs, h => by
    rw [Value.literals?] at h
    split at h
    · rename_i l ls hl hls
      cases h
      exact Bool.and_eq_true_iff.mpr ⟨isPlain_of_literal? v (hvs v List.mem_cons_self) hl,
        allPlain_of_literals? vs (fun w hw => hvs w (List.mem_cons_of_mem v hw)) hls⟩
    · cases h

theorem allPlain_of_entryLiterals? : ∀ (es : List (Value × Value)) {ks vs : List Literal},
    (∀ e ∈ es, e.1.Unmarked) → (∀ e ∈ es, e.2.Unmarked) → Value.entryLiterals? es = some (ks, vs) →
      Literal.allPlain ks ∧ Literal.allPlain vs
  | [], _, _, _, _, h => by
    cases h
    exact ⟨rfl, rfl⟩
  | (k, v) :: es, ks, vs, hkeys, hvalues, h => by
    rw [Value.entryLiterals?] at h
    split at h
    · rename_i lk lv lks lvs hk hv hes
      cases h
      obtain ⟨hks, hvs⟩ := allPlain_of_entryLiterals? es (fun e he => hkeys e (List.mem_cons_of_mem _ he))
        (fun e he => hvalues e (List.mem_cons_of_mem _ he)) hes
      exact ⟨Bool.and_eq_true_iff.mpr ⟨isPlain_of_literal? k (hkeys _ List.mem_cons_self) hk, hks⟩,
        Bool.and_eq_true_iff.mpr ⟨isPlain_of_literal? v (hvalues _ List.mem_cons_self) hv, hvs⟩⟩
    · cases h

end

/-! ## What is known beforehand -/

theorem unmarked_zip (names : List String) {vs : List Value} (h : AllUnmarked vs) : NamedUnmarked (names.zip vs) :=
  fun _ hp => h _ (List.of_mem_zip hp).2

theorem unmarked_cons {v : Value} {vs : List Value} (hv : v.Unmarked) (hvs : AllUnmarked vs) : AllUnmarked (v :: vs) :=
  List.forall_mem_cons.mpr ⟨hv, hvs⟩

theorem known_test (name : String) (v : Value) (args : List Value) (named : List (String × Value)) :
    Known Value.Unmarked (known? (applyTest name v args named) >>= fun b => some (.bool b))
      (known? (applyTest name v args named) >>= fun b => some (.bool b)) :=
  (Yields.known (P := fun _ => True) fun _ _ => trivial).bind fun b _ => known_some (.bool b)

theorem ne_map_of_plain {name : String} (h : isContextual name = false) : name ≠ "map" := by
  rintro rfl
  rw [isContextual, List.contains_cons, beq_self_eq_true, Bool.true_or] at h
  cases h

mutual

/-- **What is known beforehand** of an expression that makes no markup holds none, whether or not output is escaped. -/
theorem constValue_known (escape : Bool) : ∀ e : Expr, e.unmarked →
    Known Value.Unmarked (constValue false e) (constValue escape e)
  | .const l, h => known_some (unmarked_ofLiteral l h)
  | .name _, _ | .captured, _ | .call _ _ _ _, _ | .spread _, _ | .spreadNamed _, _ => known_none
  | .list es, h => (constValues_known escape es h).bind fun vs hvs => known_some (.list hvs)
  | .tuple es, h => (constValues_known escape es h).bind fun vs hvs => known_some (.tuple hvs)
  | .dict ks vs, h => by
    obtain ⟨hks, hvs⟩ := Bool.and_eq_true_iff.mp h
    refine (constValues_known escape ks hks).bind fun ws hws => (constValues_known escape vs hvs).bind fun xs hxs => ?_
    exact (yields_mappingOf fun e he => ⟨hws _ (List.of_mem_zip he).1, hxs _ (List.of_mem_zip he).2⟩).known
  | .attribute e attr, h => (constValue_known escape e h).bind fun v hv => (yields_memberOf hv attr).known
  | .item e i, h => by
    obtain ⟨he, hi⟩ := Bool.and_eq_true_iff.mp h
    refine (constValue_known escape e he).bind fun v hv => (constValue_known escape i hi).bind fun w _ => ?_
    exact (yields_elementAt hv w).known
  | .slice a b c, h => by
    obtain ⟨ha, hbc⟩ := Bool.and_eq_true_iff.mp h
    obtain ⟨hb, hc⟩ := Bool.and_eq_true_iff.mp hbc
    refine (constValue_known escape a ha).bind fun v hv => (constValue_known escape b hb).bind fun w hw => ?_
    exact (constValue_known escape c hc).bind fun x hx => known_some (.slice hv hw hx)
  | .filter _ e name args names values, h => by
    obtain ⟨hname, hrest⟩ := Bool.and_eq_true_iff.mp h
    obtain ⟨he, hrest⟩ := Bool.and_eq_true_iff.mp hrest
    obtain ⟨hargs, hvalues⟩ := Bool.and_eq_true_iff.mp hrest
    have hmarkup : makesMarkup name = false := Bool.not_eq_true' _ ▸ (Bool.and_eq_true_iff.mp hname).1
    refine (constValues_known escape args hargs).bind fun vs hvs => ?_
    refine (constValues_known escape values hvalues).bind fun ws hws => ?_
    refine (constValue_known escape e he).bind fun v hv => ?_
    cases hcontext : isContextual name with
    -- a filter that asks for the mode is not applied beforehand
    | true => exact known_none
    | false =>
      have hmap : name = "map" → vs = [] := fun hname => absurd hname (ne_map_of_plain hcontext)
      have hnamed := unmarked_zip names hws
      exact Agreed.known ⟨applyFilter_flag hmap hv hvs hnamed escape, yields_applyFilter hmarkup hmap hv hvs hnamed⟩
  | .test _ e name args names values, h => by
    obtain ⟨he, hrest⟩ := Bool.and_eq_true_iff.mp h
    obtain ⟨hargs, hvalues⟩ := Bool.and_eq_true_iff.mp hrest
    refine (constValues_known escape args hargs).bind fun vs _ => ?_
    refine (constValues_known escape values hvalues).bind fun ws _ => (constValue_known escape e he).bind fun v _ => ?_
    exact known_test name v vs (names.zip ws)
  | .unary op e, h => (constValue_known escape e h).bind fun v _ => (yields_unaryValue op v).known
  | .binary op a b, h => by
    obtain ⟨ha, hb⟩ := Bool.and_eq_true_iff.mp h
    refine (constValue_known escape a ha).bind fun v hv => (constValue_known escape b hb).bind fun w hw => ?_
    exact (yields_binaryValue op hv hw).known
  | .concat es, h => (constValues_known escape es h).bind fun vs _ => known_some (.text _)
  | .and a b, h => by
    obtain ⟨ha, hb⟩ := Bool.and_eq_true_iff.mp h
    exact (constValue_known escape a ha).bind fun v hv => known_ite (constValue_known escape b hb) (known_some hv)
  | .or a b, h => by
    obtain ⟨ha, hb⟩ := Bool.and_eq_true_iff.mp h
    exact (constValue_known escape a ha).bind fun v hv => known_ite (known_some hv) (constValue_known escape b hb)
  | .compare e ops es, h => by
    obtain ⟨he, hes⟩ := Bool.and_eq_true_iff.mp h
    refine (constValue_known escape e he).bind fun v _ => ?_
    exact (constComparison_known escape es hes v ops).bind fun b _ => known_some (.bool b)
  | .ifElse t a b, h => by
    obtain ⟨ht, hab⟩ := Bool.and_eq_true_iff.mp h
    obtain ⟨ha, hb⟩ := Bool.and_eq_true_iff.mp hab
    refine (constValue_known escape t ht).bind fun v _ => ?_
    exact known_ite (constValue_known escape a ha) (constValue_known escape b hb)
  | .ifOnly _ t a, h => by
    obtain ⟨ht, ha⟩ := Bool.and_eq_true_iff.mp h
    exact (constValue_known escape t ht).bind fun v _ => known_ite (constValue_known escape a ha) known_none

/-- A row of expressions is known if each of them is. -/
theorem constValues_known (escape : Bool) : ∀ es : List Expr, Expr.allUnmarked es →
    Known AllUnmarked (constValues false es) (constValues escape es)
  | [], _ => known_some (List.forall_mem_nil _)
  | e :: es, h => by
    obtain ⟨he, hes⟩ := Bool.and_eq_true_iff.mp h
    refine (constValue_known escape e he).bind fun v hv => (constValues_known escape es hes).bind fun vs hvs => ?_
    exact known_some (unmarked_cons hv hvs)

/-- A chain of comparisons, from the value that it starts with. -/
theorem constComparison_known (escape : Bool) : ∀ es : List Expr, Expr.allUnmarked es →
    ∀ (v : Value) (ops : List CompareOp),
      Known (fun _ => True) (constComparison false v ops es) (constComparison escape v ops es)
  | [], _, _, ops => by cases ops <;> exact known_some trivial
  | _ :: _, _, _, [] => known_some trivial
  | e :: es, h, v, op :: ops => by
    obtain ⟨he, hes⟩ := Bool.and_eq_true_iff.mp h
    refine (constValue_known escape e he).bind fun w _ => ?_
    refine (Yields.known (P := fun _ => True) fun _ _ => trivial).bind fun holds _ => ?_
    exact known_ite (constComparison_known escape es hes w ops) (known_some trivial)

end

/-! ## Constants in place of what is known -/

/-- Whether an expression that makes no markup becomes a constant does not depend on whether output is escaped. -/
theorem settle_same (escape : Bool) {e : Expr} (he : e.unmarked) :
    e.settle escape = e.settle false ∧ (e.settle false).unmarked := by
  obtain ⟨hflag, hunmarked⟩ := constValue_known escape e he
  refine ⟨by rw [Expr.settle, hflag, Expr.settle], ?_⟩
  rw [Expr.settle]
  split
  · rename_i l hl
    obtain ⟨v, hv, hl⟩ := Option.bind_eq_some_iff.mp hl
    exact isPlain_of_literal? v (hunmarked v hv) hl
  · exact he

theorem plainFilter_foldAll (escape : Bool) (name : String) (args : List Expr) :
    plainFilter name (Expr.foldAll escape args) = plainFilter name args := by
  cases args <;> rfl

theorem both_unmarked {a b : Bool} (ha : a = true) (hb : b = true) : (a && b) = true :=
  Bool.and_eq_true_iff.mpr ⟨ha, hb⟩

/-! A part of an expression is an expression or a row of them; `u` tells whether it makes no markup. What is said of
an expression with its parts folded is that it is the same for both ways of escaping, and makes no markup. -/

section

variable {α β γ : Type} {u : α → Bool} {v : β → Bool} {w : γ → Bool} {a a' a'' : α} {b b' b'' : β} {c c' c'' : γ}

/-- An expression of one part. -/
theorem one_same (make : α → Expr) (hmake : ∀ x, (make x).unmarked = u x) (ha : a' = a'' ∧ u a'') :
    make a' = make a'' ∧ (make a'').unmarked :=
  ⟨congrArg make ha.1, (hmake a'').trans ha.2⟩

/-- An expression of two parts. -/
theorem two_same (make : α → β → Expr) (hmake : ∀ x y, (make x y).unmarked = (u x && v y)) (h : (u a && v b) = true)
    (ha : u a → a' = a'' ∧ u a'') (hb : v b → b' = b'' ∧ v b'') :
    make a' b' = make a'' b'' ∧ (make a'' b'').unmarked := by
  obtain ⟨hua, hvb⟩ := Bool.and_eq_true_iff.mp h
  obtain ⟨rfl, ha⟩ := ha hua
  obtain ⟨rfl, hb⟩ := hb hvb
  exact ⟨rfl, (hmake a' b').trans (both_unmarked ha hb)⟩

/-- An expression of three parts. -/
theorem three_same (make : α → β → γ → Expr) (hmake : ∀ x y z, (make x y z).unmarked = (u x && (v y && w z)))
    (h : (u a && (v b && w c)) = true) (ha : u a → a' = a'' ∧ u a'') (hb : v b → b' = b'' ∧ v b'')
    (hc : w c → c' = c'' ∧ w c'') : make a' b' c' = make a'' b'' c'' ∧ (make a'' b'' c'').unmarked := by
  obtain ⟨hua, hrest⟩ := Bool.and_eq_true_iff.mp h
  obtain ⟨hvb, hwc⟩ := Bool.and_eq_true_iff.mp hrest
  obtain ⟨rfl, ha⟩ := ha hua
  obtain ⟨rfl, hb⟩ := hb hvb
  obtain ⟨rfl, hc⟩ := hc hwc
  exact ⟨rfl, (hmake a' b' c').trans (both_unmarked ha (both_unmarked hb hc))⟩

/-- An expression with its parts folded that may become a constant. -/
theorem settled_same (escape : Bool) {e e' : Expr} (h : e = e' ∧ e'.unmarked) :
    e.settle escape = e'.settle false ∧ (e'.settle false).unmarked := by
  obtain ⟨rfl, he⟩ := h
  exact settle_same escape he

end

mutual

/-- An expression that makes no markup makes none with constants in it, which are the same whether or not output is
    escaped. -/
theorem fold_same (escape : Bool) : ∀ e : Expr, e.unmarked →
    e.fold escape = e.fold false ∧ (e.fold false).unmarked
  | .const _, h | .name _, h => ⟨rfl, h⟩
  | .captured, h => nomatch h
  | .list es, h => settled_same escape (one_same .list (fun _ => rfl) (foldAll_same escape es h))
  | .tuple es, h => settled_same escape (one_same .tuple (fun _ => rfl) (foldAll_same escape es h))
  | .concat es, h => settled_same escape (one_same .concat (fun _ => rfl) (foldAll_same escape es h))
  | .dict ks vs, h =>
    settled_same escape (two_same .dict (fun _ _ => rfl) h (foldAll_same escape ks) (foldAll_same escape vs))
  | .attribute e attr, h => settled_same escape (one_same (.attribute · attr) (fun _ => rfl) (fold_same escape e h))
  | .item e i, h => settled_same escape (two_same .item (fun _ _ => rfl) h (fold_same escape e) (fold_same escape i))
  | .slice a b c, h =>
    three_same .slice (fun _ _ _ => rfl) h (fold_same escape a) (fold_same escape b) (fold_same escape c)
  | .call f args names values, h =>
    three_same (.call · · names ·) (fun _ _ _ => rfl) h (fold_same escape f) (foldAll_same escape args)
      (foldAll_same escape values)
  | .filter line e name args names values, h => by
    obtain ⟨hname, hrest⟩ := Bool.and_eq_true_iff.mp h
    obtain ⟨he, hrest⟩ := Bool.and_eq_true_iff.mp hrest
    obtain ⟨hargs, hvalues⟩ := Bool.and_eq_true_iff.mp hrest
    obtain ⟨he, heu⟩ := fold_same escape e he
    obtain ⟨hargs, hargsu⟩ := foldAll_same escape args hargs
    obtain ⟨hvalues, hvaluesu⟩ := foldAll_same escape values hvalues
    rw [Expr.fold, he, hargs, hvalues, Expr.fold]
    refine settle_same escape (both_unmarked ?_ (both_unmarked heu (both_unmarked hargsu hvaluesu)))
    -- whether a filter is plain is told by its name and by whether it has arguments
    rw [plainFilter_foldAll]
    exact hname
  | .test line e name args names values, h =>
    settled_same escape (three_same (.test line · name · names ·) (fun _ _ _ => rfl) h (fold_same escape e)
      (foldAll_same escape args) (foldAll_same escape values))
  | .unary op e, h => settled_same escape (one_same (.unary op) (fun _ => rfl) (fold_same escape e h))
  | .binary op a b, h =>
    settled_same escape (two_same (.binary op) (fun _ _ => rfl) h (fold_same escape a) (fold_same escape b))
  | .and a b, h => settled_same escape (two_same .and (fun _ _ => rfl) h (fold_same escape a) (fold_same escape b))
  | .or a b, h => settled_same escape (two_same .or (fun _ _ => rfl) h (fold_same escape a) (fold_same escape b))
  | .compare e ops es, h =>
    settled_same escape (two_same (.compare · ops ·) (fun _ _ => rfl) h (fold_same escape e) (foldAll_same escape es))
  | .ifElse t a b, h =>
    settled_same escape (three_same .ifElse (fun _ _ _ => rfl) h (fold_same escape t) (fold_same escape a)
      (fold_same escape b))
  | .ifOnly line t a, h =>
    settled_same escape (two_same (.ifOnly line) (fun _ _ => rfl) h (fold_same escape t) (fold_same escape a))
  | .spread e, h => one_same .spread (fun _ => rfl) (fold_same escape e h)
  | .spreadNamed e, h => one_same .spreadNamed (fun _ => rfl) (fold_same escape e h)

/-- A row of expressions, each with constants in it. -/
theorem foldAll_same (escape : Bool) : ∀ es : List Expr, Expr.allUnmarked es →
    Expr.foldAll escape es = Expr.foldAll false es ∧ Expr.allUnmarked (Expr.foldAll false es)
  | [], _ => ⟨rfl, rfl⟩
  | e :: es, h => by
    obtain ⟨he, hes⟩ := Bool.and_eq_true_iff.mp h
    obtain ⟨he, heu⟩ := fold_same escape e he
    obtain ⟨hes, hesu⟩ := foldAll_same escape es hes
    exact ⟨congrArg₂ List.cons he hes, both_unmarked heu hesu⟩

end

/-- The pieces of an output, with constants in them. -/
theorem piecesFold_same (escape : Bool) : ∀ ps : List Piece, ps.all Piece.unmarked →
    ps.map (Piece.fold escape) = ps.map (Piece.fold false) ∧ (ps.map (Piece.fold false)).all Piece.unmarked
  | [], _ => by
    rw [List.map_nil, List.map_nil]
    exact ⟨rfl, rfl⟩
  | .text s :: ps, h => by
    rw [List.all_cons, Bool.and_eq_true] at h
    obtain ⟨hps, hunmarked⟩ := piecesFold_same escape ps h.2
    rw [List.map_cons, List.map_cons, List.all_cons, hps, hunmarked]
    exact ⟨rfl, rfl⟩
  | .value e :: ps, h => by
    rw [List.all_cons, Bool.and_eq_true, Piece.unmarked] at h
    obtain ⟨he, heu⟩ := fold_same escape e h.1
    obtain ⟨hps, hpsu⟩ := piecesFold_same escape ps h.2
    rw [List.map_cons, List.map_cons, List.all_cons, hps, hpsu, Piece.fold, he, Piece.fold, Piece.unmarked, heu]
    exact ⟨rfl, rfl⟩

/-- A condition that may be missing. -/
theorem conditionFold_same (escape : Bool) {condition : Option Expr} (h : condition.all Expr.unmarked) :
    condition.map (Expr.fold escape) = condition.map (Expr.fold false) ∧
      (condition.map (Expr.fold false)).all Expr.unmarked := by
  cases condition with
  | none =>
    rw [Option.map_none, Option.map_none]
    exact ⟨rfl, rfl⟩
  | some c =>
    rw [Option.all_some] at h
    obtain ⟨hc, hunmarked⟩ := fold_same escape c h
    rw [Option.map_some, Option.map_some, Option.all_some, hc]
    exact ⟨rfl, hunmarked⟩

variable {embeds : Bool}

mutual

/-- **A statement** that makes no markup has the same constants in it, whether or not output is escaped. -/
theorem stmtFold_same (escape : Bool) : ∀ st : Stmt, st.unmarked embeds →
    st.fold escape = st.fold false ∧ (st.fold false).unmarked embeds
  | .output pieces, h => by
    obtain ⟨hpieces, hunmarked⟩ := piecesFold_same escape pieces h
    rw [Stmt.fold, hpieces, Stmt.fold]
    exact ⟨rfl, hunmarked⟩
  | .forLoop target source condition recursive body otherwise, h => by
    obtain ⟨hsource, hrest⟩ := Bool.and_eq_true_iff.mp h
    obtain ⟨hcondition, hrest⟩ := Bool.and_eq_true_iff.mp hrest
    obtain ⟨hbody, hotherwise⟩ := Bool.and_eq_true_iff.mp hrest
    obtain ⟨hsource, hsourceu⟩ := fold_same escape source hsource
    obtain ⟨hcondition, hconditionu⟩ := conditionFold_same escape hcondition
    obtain ⟨hbody, hbodyu⟩ := stmtsFold_same escape body hbody
    obtain ⟨hotherwise, hotherwiseu⟩ := stmtsFold_same escape otherwise hotherwise
    rw [Stmt.fold, hsource, hcondition, hbody, hotherwise, Stmt.fold]
    exact ⟨rfl, both_unmarked hsourceu (both_unmarked hconditionu (both_unmarked hbodyu hotherwiseu))⟩
  | .branch test body otherwise, h => by
    obtain ⟨htest, hrest⟩ := Bool.and_eq_true_iff.mp h
    obtain ⟨hbody, hotherwise⟩ := Bool.and_eq_true_iff.mp hrest
    obtain ⟨htest, htestu⟩ := fold_same escape test htest
    obtain ⟨hbody, hbodyu⟩ := stmtsFold_same escape body hbody
    obtain ⟨hotherwise, hotherwiseu⟩ := stmtsFold_same escape otherwise hotherwise
    rw [Stmt.fold, htest, hbody, hotherwise, Stmt.fold]
    exact ⟨rfl, both_unmarked htestu (both_unmarked hbodyu hotherwiseu)⟩
  | .assign target value, h => by
    obtain ⟨hvalue, hunmarked⟩ := fold_same escape value h
    rw [Stmt.fold, hvalue, Stmt.fold]
    exact ⟨rfl, hunmarked⟩
  | .scope targets values body, h => by
    obtain ⟨hvalues, hbody⟩ := Bool.and_eq_true_iff.mp h
    obtain ⟨hvalues, hvaluesu⟩ := foldAll_same escape values hvalues
    obtain ⟨hbody, hbodyu⟩ := stmtsFold_same escape body hbody
    rw [Stmt.fold, hvalues, hbody, Stmt.fold]
    exact ⟨rfl, both_unmarked hvaluesu hbodyu⟩
  | .block line name withLocals required body, h => by
    obtain ⟨hbody, hunmarked⟩ := stmtsFold_same escape body h
    rw [Stmt.fold, hbody, Stmt.fold]
    exact ⟨rfl, hunmarked⟩
  | .inherit line parent, h => by
    obtain ⟨hparent, hunmarked⟩ := fold_same escape parent h
    rw [Stmt.fold, hparent, Stmt.fold]
    exact ⟨rfl, hunmarked⟩
  | .embed source ignoreMissing withContext, h => by
    obtain ⟨hembeds, hsource⟩ := Bool.and_eq_true_iff.mp h
    obtain ⟨hsource, hunmarked⟩ := fold_same escape source hsource
    rw [Stmt.fold, hsource, Stmt.fold]
    exact ⟨rfl, both_unmarked hembeds hunmarked⟩
  | .capture _ _ _, h | .definition _ _ _ _, h | .callBlock _ _ _ _, h | .filterBlock _ _, h | .escaping _ _, h
  | .importing _ _, h => nomatch h

theorem stmtsFold_same (escape : Bool) : ∀ ss : List Stmt, Stmt.allUnmarked embeds ss →
    Stmt.foldAll escape ss = Stmt.foldAll false ss ∧ Stmt.allUnmarked embeds (Stmt.foldAll false ss)
  | [], _ => ⟨rfl, rfl⟩
  | st :: ss, h => by
    obtain ⟨hst, hss⟩ := Bool.and_eq_true_iff.mp h
    obtain ⟨hst, hstu⟩ := stmtFold_same escape st hst
    obtain ⟨hss, hssu⟩ := stmtsFold_same escape ss hss
    exact ⟨congrArg₂ List.cons hst hss, both_unmarked hstu hssu⟩

end

/-! ## Blocks -/

mutual

/-- The blocks in a statement that makes no markup make none. -/
theorem unmarked_blocksOf : ∀ st : Stmt, st.unmarked embeds → ∀ b ∈ blocksOf st, Stmt.allUnmarked embeds b.body
  | .block line name withLocals required body, h => by
    intro b hb
    rcases List.mem_cons.mp hb with rfl | hb
    · exact h
    · exact unmarked_blocksOfAll body h b hb
  | .forLoop _ _ _ _ body otherwise, h => by
    obtain ⟨-, hrest⟩ := Bool.and_eq_true_iff.mp h
    obtain ⟨-, hrest⟩ := Bool.and_eq_true_iff.mp hrest
    obtain ⟨hbody, hotherwise⟩ := Bool.and_eq_true_iff.mp hrest
    exact fun b hb => (List.mem_append.mp hb).elim (unmarked_blocksOfAll body hbody b)
      (unmarked_blocksOfAll otherwise hotherwise b)
  | .branch _ body otherwise, h => by
    obtain ⟨-, hrest⟩ := Bool.and_eq_true_iff.mp h
    obtain ⟨hbody, hotherwise⟩ := Bool.and_eq_true_iff.mp hrest
    exact fun b hb => (List.mem_append.mp hb).elim (unmarked_blocksOfAll body hbody b)
      (unmarked_blocksOfAll otherwise hotherwise b)
  | .scope _ _ body, h => unmarked_blocksOfAll body (Bool.and_eq_true_iff.mp h).2
  | .output _, _ | .assign _ _, _ | .inherit _ _, _ | .embed _ _ _, _ => nofun
  | .capture _ _ _, h | .definition _ _ _ _, h | .callBlock _ _ _ _, h | .filterBlock _ _, h | .escaping _ _, h
  | .importing _ _, h => nomatch h

theorem unmarked_blocksOfAll : ∀ ss : List Stmt, Stmt.allUnmarked embeds ss →
    ∀ b ∈ blocksOfAll ss, Stmt.allUnmarked embeds b.body
  | [], _ => nofun
  | st :: ss, h => by
    obtain ⟨hst, hss⟩ := Bool.and_eq_true_iff.mp h
    exact fun b hb => (List.mem_append.mp hb).elim (unmarked_blocksOf st hst b) (unmarked_blocksOfAll ss hss b)

end

/-- The blocks of a document are therefore the same. -/
theorem documentBlocks_same (escape : Bool) {ss : List Stmt} (h : Stmt.allUnmarked embeds ss) :
    documentBlocks escape ss = documentBlocks false ss ∧
      ∀ b ∈ documentBlocks false ss, Stmt.allUnmarked embeds b.body := by
  have hblocks := unmarked_blocksOfAll ss h
  refine ⟨List.map_congr_left fun b hb => ?_, fun b hb => ?_⟩
  · exact congrArg (fun body => { b with body }) (stmtsFold_same escape b.body (hblocks b hb)).1
  · obtain ⟨b', hb', rfl⟩ := List.mem_map.mp hb
    exact (stmtsFold_same false b'.body (hblocks b' hb')).2

/-! ## The check of a document -/

/-- Nothing that is checked of a piece depends on whether output is escaped. -/
theorem checkPieces_flag (escape : Bool) (g : Glance) : ∀ ps : List Piece, ps.all Piece.unmarked →
    checkPieces escape g ps = checkPieces false g ps
  | [], _ => rfl
  | .text _ :: ps, h => checkPieces_flag escape g ps h
  | .value e :: ps, h => by
    obtain ⟨he, hps⟩ := Bool.and_eq_true_iff.mp h
    rw [checkPieces, (constValue_known escape e he).1, checkPieces_flag escape g ps hps, checkPieces]

mutual

/-- A statement is refused in both cases or in none. -/
theorem checkStmt_flag (escape : Bool) : ∀ (st : Stmt) (p : Place), st.unmarked embeds →
    checkStmt escape p st = checkStmt false p st
  | .output pieces, p, h => by rw [checkStmt, checkPieces_flag escape p.toGlance pieces h, checkStmt]
  | .forLoop target source condition recursive body otherwise, p, h => by
    obtain ⟨-, hrest⟩ := Bool.and_eq_true_iff.mp h
    obtain ⟨-, hrest⟩ := Bool.and_eq_true_iff.mp hrest
    obtain ⟨hbody, hotherwise⟩ := Bool.and_eq_true_iff.mp hrest
    rw [checkStmt_forLoop, checkStmt_forLoop, checkStmts_flag escape body _ hbody,
      checkStmts_flag escape otherwise _ hotherwise]
  | .branch test body otherwise, p, h => by
    obtain ⟨-, hrest⟩ := Bool.and_eq_true_iff.mp h
    obtain ⟨hbody, hotherwise⟩ := Bool.and_eq_true_iff.mp hrest
    rw [checkStmt, checkStmts_flag escape body _ hbody, checkStmts_flag escape otherwise _ hotherwise, checkStmt]
  | .scope _ values body, p, h => by
    rw [checkStmt, checkStmts_flag escape body _ (Bool.and_eq_true_iff.mp h).2, checkStmt]
  | .assign _ _, _, _ | .block _ _ _ _ _, _, _ | .inherit _ _, _, _ | .embed _ _ _, _, _ => rfl
  | .capture _ _ _, _, h | .definition _ _ _ _, _, h | .callBlock _ _ _ _, _, h | .filterBlock _ _, _, h
  | .escaping _ _, _, h | .importing _ _, _, h => nomatch h

theorem checkStmts_flag (escape : Bool) : ∀ (ss : List Stmt) (p : Place), Stmt.allUnmarked embeds ss →
    checkStmts escape p ss = checkStmts false p ss
  | [], _, _ => rfl
  | st :: ss, p, h => by
    obtain ⟨hst, hss⟩ := Bool.and_eq_true_iff.mp h
    rw [checkStmts_cons, checkStmts_cons, checkStmt_flag escape st p hst, checkStmts_flag escape ss p hss]

end

theorem checkRoot_flag (code escape : Bool) : ∀ (ss : List Stmt) (inherits : Bool), Stmt.allUnmarked embeds ss →
    checkRoot code escape inherits ss = checkRoot code false inherits ss
  | [], _, _ => rfl
  | st :: ss, inherits, h => by
    obtain ⟨hst, hss⟩ := Bool.and_eq_true_iff.mp h
    rw [checkRoot_cons, checkRoot_cons, checkStmt_flag escape st _ hst, checkRoot_flag code escape ss _ hss]

/-- So are the blocks of a document. -/
theorem checkBlocks_flag (code escape : Bool) : ∀ bs : List Block, (∀ b ∈ bs, Stmt.allUnmarked embeds b.body) →
    checkBlocks code escape bs = checkBlocks code false bs
  | [], _ => rfl
  | b :: bs, h => by
    rw [checkBlocks, checkStmts_flag escape b.body _ (h b List.mem_cons_self),
      checkBlocks_flag code escape bs fun b' hb' => h b' (List.mem_cons_of_mem b hb'), checkBlocks]

/-- So is the document with all its blocks. -/
theorem checkAll_flag (code escape : Bool) {body : List Stmt} {blocks : List Block} (hbody : Stmt.allUnmarked embeds body)
    (hblocks : ∀ b ∈ blocks, Stmt.allUnmarked embeds b.body) :
    checkAll code escape body blocks = checkAll code false body blocks := by
  rw [checkAll, checkRoot_flag code escape body _ hbody, checkBlocks_flag code escape blocks hblocks, checkAll]

/-- **Statements that make no markup** make up the same document whether or not its output is to be escaped. -/
theorem ofStatements_flag (name : Option String) (escape : Bool) {ss : List Stmt} (h : Stmt.allUnmarked embeds ss) :
    Document.ofStatements name escape ss =
      (Document.ofStatements name false ss).map fun d => { d with escape } := by
  obtain ⟨hbody, hunmarked⟩ := stmtsFold_same escape ss h
  obtain ⟨hblocks, hblocksu⟩ := documentBlocks_same escape h
  have hcheck : checkDocument escape (Stmt.foldAll false ss) (documentBlocks false ss) =
      checkDocument false (Stmt.foldAll false ss) (documentBlocks false ss) := by
    rw [checkDocument, checkAll_flag false escape hunmarked hblocksu, checkAll_flag true escape hunmarked hblocksu,
      checkDocument]
  rw [ofStatements_eq, ofStatements_eq, hbody, hblocks, hcheck]
  cases checkDocument false (Stmt.foldAll false ss) (documentBlocks false ss) <;> rfl

end RenderBench.Template
