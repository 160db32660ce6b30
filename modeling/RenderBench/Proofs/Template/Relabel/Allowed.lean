import RenderBench.Proofs.Template.Relabel.Regime

/-!
# `Proofs.Template.Relabel.Allowed` — what stays allowed

Whether a statement is allowed does not depend on the lines in it, and it stays allowed when constants stand in the
place of what is known.

## Contents
- `Expr.allowed_reline`, `Stmt.allowed_reline`: other lines.
- `Expr.allowed_fold`, `Stmt.allowed_fold`: constants in place of what is known.
-/

namespace RenderBench.Template

variable {g : Regime} {f : Nat → Nat}

/-! ## Other lines -/

mutual

/-- What a regime allows of an expression is told by its words, not by its lines. -/
theorem Expr.allowed_reline : ∀ e : Expr, (e.reline f).allowed g = e.allowed g
  | .const _ | .name _ | .captured => rfl
  | .list es | .tuple es | .concat es => Expr.allAllowed_reline es
  | .dict ks vs => congrArg₂ (· && ·) (Expr.allAllowed_reline ks) (Expr.allAllowed_reline vs)
  | .attribute e _ => by
    have he := Expr.allowed_reline e
    cases e <;> first | rfl | exact he
  | .item a b | .binary _ a b | .and a b | .or a b | .ifOnly _ a b =>
    congrArg₂ (· && ·) (Expr.allowed_reline a) (Expr.allowed_reline b)
  | .slice a b c | .ifElse a b c =>
    congrArg₂ (· && ·) (Expr.allowed_reline a) (congrArg₂ (· && ·) (Expr.allowed_reline b) (Expr.allowed_reline c))
  | .call e args _ values | .filter _ e _ args _ values | .test _ e _ args _ values =>
    congrArg₂ (· && ·) (Expr.allowed_reline e)
      (congrArg₂ (· && ·) (Expr.allAllowed_reline args) (Expr.allAllowed_reline values))
  | .unary _ e | .spread e | .spreadNamed e => Expr.allowed_reline e
  | .compare e _ es => congrArg₂ (· && ·) (Expr.allowed_reline e) (Expr.allAllowed_reline es)

theorem Expr.allAllowed_reline : ∀ es : List Expr, Expr.allAllowed g (Expr.relineAll f es) = Expr.allAllowed g es
  | [] => rfl
  | e :: es => congrArg₂ (· && ·) (Expr.allowed_reline e) (Expr.allAllowed_reline es)

end

theorem Piece.allowed_reline (p : Piece) : (p.reline f).allowed g = p.allowed g := by
  cases p with
  | text s => rfl
  | value e => exact e.allowed_reline

/-- A condition that is missing is allowed. -/
theorem Expr.allowedOption_reline (o : Option Expr) :
    (o.map (Expr.reline f)).all (Expr.allowed g) = o.all (Expr.allowed g) := by
  cases o with
  | none => rfl
  | some e => exact e.allowed_reline

mutual

/-- What it allows of a statement is told by its words, too. -/
theorem Stmt.allowed_reline : ∀ st : Stmt, (st.reline f).allowed g = st.allowed g
  | .output pieces => by
    rw [Stmt.reline, Stmt.allowed, List.all_map, Stmt.allowed]
    exact congrArg pieces.all (funext Piece.allowed_reline)
  | .forLoop _ source condition _ body otherwise =>
    congrArg₂ (· && ·) source.allowed_reline (congrArg₂ (· && ·) (Expr.allowedOption_reline condition)
      (congrArg₂ (· && ·) (Stmt.allAllowed_reline body) (Stmt.allAllowed_reline otherwise)))
  | .branch test body otherwise =>
    congrArg₂ (· && ·) test.allowed_reline
      (congrArg₂ (· && ·) (Stmt.allAllowed_reline body) (Stmt.allAllowed_reline otherwise))
  | .assign _ value => value.allowed_reline
  | .capture _ filter body => congrArg₂ (· && ·) (Expr.allowedOption_reline filter) (Stmt.allAllowed_reline body)
  | .scope _ values body => congrArg₂ (· && ·) (Expr.allAllowed_reline values) (Stmt.allAllowed_reline body)
  | .block _ _ _ _ _ | .inherit _ _ => rfl
  | .embed source _ _ | .importing source _ => congrArg (g.loads && ·) source.allowed_reline
  | .definition _ _ defaults body => congrArg₂ (· && ·) (Expr.allAllowed_reline defaults) (Stmt.allAllowed_reline body)
  | .callBlock _ _ call body => congrArg₂ (· && ·) call.allowed_reline (Stmt.allAllowed_reline body)
  | .filterBlock e body | .escaping e body => congrArg₂ (· && ·) e.allowed_reline (Stmt.allAllowed_reline body)

theorem Stmt.allAllowed_reline : ∀ ss : List Stmt, Stmt.allAllowed g (Stmt.relineAll f ss) = Stmt.allAllowed g ss
  | [] => rfl
  | st :: ss => congrArg₂ (· && ·) (Stmt.allowed_reline st) (Stmt.allAllowed_reline ss)

end

/-! ## What is known -/

/-- A constant is always allowed, so that putting one in the place of an expression forbids nothing. -/
theorem Expr.allowed_settle {escape : Bool} {e : Expr} (h : e.allowed g = true) : (e.settle escape).allowed g = true := by
  unfold Expr.settle
  split
  · rfl
  · exact h

/-- Conjunctions go along with what implies their parts. -/
theorem and_true_mono {a b a' b' : Bool} (ha : a = true → a' = true) (hb : b = true → b' = true) (h : (a && b) = true) :
    (a' && b') = true := by
  obtain ⟨ha', hb'⟩ := Bool.and_eq_true_iff.mp h
  exact Bool.and_eq_true_iff.mpr ⟨ha ha', hb hb'⟩

/-- A member is allowed where its object is, except for the object that is the template itself. -/
theorem Expr.allowed_attribute {e : Expr} {attr : String} (h : e.allowed g = true) :
    (Expr.attribute e attr).allowed g = true := by
  cases e with
  | name n => exact Bool.or_eq_true_iff.mpr (.inl h)
  | _ => exact h

mutual

/-- Putting constants into an expression that is allowed leaves it allowed. The converse does not hold: what is
    forbidden may be among what is known. -/
theorem Expr.allowed_fold {escape : Bool} : ∀ e : Expr, e.allowed g = true → (e.fold escape).allowed g = true
  | .const _, h | .name _, h | .captured, h => h
  | .list es, h | .tuple es, h | .concat es, h => Expr.allowed_settle (Expr.allAllowed_fold es h)
  | .dict ks vs, h =>
    Expr.allowed_settle (and_true_mono (Expr.allAllowed_fold ks) (Expr.allAllowed_fold vs) h)
  | .attribute e attr, h => by
    have he : e.allowed g = true → (e.fold escape).allowed g = true := Expr.allowed_fold e
    refine Expr.allowed_settle ?_
    cases e with
    -- a member of a name may be allowed where the name alone is not
    | name n => exact h
    | _ => exact Expr.allowed_attribute (he h)
  | .item a b, h | .binary _ a b, h | .and a b, h | .or a b, h | .ifOnly _ a b, h =>
    Expr.allowed_settle (and_true_mono (Expr.allowed_fold a) (Expr.allowed_fold b) h)
  | .slice a b c, h => and_true_mono (Expr.allowed_fold a) (and_true_mono (Expr.allowed_fold b) (Expr.allowed_fold c)) h
  | .ifElse a b c, h =>
    Expr.allowed_settle
      (and_true_mono (Expr.allowed_fold a) (and_true_mono (Expr.allowed_fold b) (Expr.allowed_fold c)) h)
  | .call e args _ values, h =>
    and_true_mono (Expr.allowed_fold e) (and_true_mono (Expr.allAllowed_fold args) (Expr.allAllowed_fold values)) h
  | .filter _ e _ args _ values, h | .test _ e _ args _ values, h =>
    Expr.allowed_settle
      (and_true_mono (Expr.allowed_fold e) (and_true_mono (Expr.allAllowed_fold args) (Expr.allAllowed_fold values)) h)
  | .unary _ e, h => Expr.allowed_settle (Expr.allowed_fold e h)
  | .spread e, h | .spreadNamed e, h => Expr.allowed_fold e h
  | .compare e _ es, h => Expr.allowed_settle (and_true_mono (Expr.allowed_fold e) (Expr.allAllowed_fold es) h)

theorem Expr.allAllowed_fold {escape : Bool} : ∀ es : List Expr, Expr.allAllowed g es = true →
    Expr.allAllowed g (Expr.foldAll escape es) = true
  | [], _ => rfl
  | e :: es, h => and_true_mono (Expr.allowed_fold e) (Expr.allAllowed_fold es) h

end

theorem Piece.allowed_fold {escape : Bool} (p : Piece) (h : p.allowed g = true) : (p.fold escape).allowed g = true := by
  cases p with
  | text s => rfl
  | value e => exact e.allowed_fold h

theorem Expr.allowedOption_fold {escape : Bool} (o : Option Expr) (h : o.all (Expr.allowed g) = true) :
    (o.map (Expr.fold escape)).all (Expr.allowed g) = true := by
  cases o with
  | none => rfl
  | some e => exact e.allowed_fold h

mutual

/-- Putting constants into a statement, too; inside, output may be escaped or not. -/
theorem Stmt.allowed_fold : ∀ (st : Stmt) {escape : Bool}, st.allowed g = true → (st.fold escape).allowed g = true
  | .output pieces, escape, h => by
    rw [Stmt.allowed, List.all_eq_true] at h
    rw [Stmt.fold, Stmt.allowed, List.all_map, List.all_eq_true]
    exact fun p hp => p.allowed_fold (h p hp)
  | .forLoop _ source condition _ body otherwise, _, h =>
    and_true_mono source.allowed_fold (and_true_mono (Expr.allowedOption_fold condition)
      (and_true_mono (Stmt.allAllowed_fold body) (Stmt.allAllowed_fold otherwise))) h
  | .branch test body otherwise, _, h =>
    and_true_mono test.allowed_fold (and_true_mono (Stmt.allAllowed_fold body) (Stmt.allAllowed_fold otherwise)) h
  | .assign _ value, _, h => value.allowed_fold h
  | .capture _ filter body, _, h => and_true_mono (Expr.allowedOption_fold filter) (Stmt.allAllowed_fold body) h
  | .scope _ values body, _, h => and_true_mono (Expr.allAllowed_fold values) (Stmt.allAllowed_fold body) h
  | .block _ _ _ _ _, _, h | .inherit _ _, _, h => h
  | .embed source _ _, _, h | .importing source _, _, h => and_true_mono id source.allowed_fold h
  | .definition _ _ defaults body, _, h => and_true_mono (Expr.allAllowed_fold defaults) (Stmt.allAllowed_fold body) h
  | .callBlock _ _ call body, _, h => and_true_mono call.allowed_fold (Stmt.allAllowed_fold body) h
  | .filterBlock e body, _, h => and_true_mono e.allowed_fold (Stmt.allAllowed_fold body) h
  | .escaping value body, escape, h => by
    have hvalue : value.allowed g = true → (value.fold escape).allowed g = true := value.allowed_fold
    rw [Stmt.fold]
    split
    · exact and_true_mono hvalue (Stmt.allAllowed_fold body) h
    · exact and_true_mono hvalue id h

theorem Stmt.allAllowed_fold : ∀ (ss : List Stmt) {escape : Bool}, Stmt.allAllowed g ss = true →
    Stmt.allAllowed g (Stmt.foldAll escape ss) = true
  | [], _, _ => rfl
  | st :: ss, _, h => and_true_mono (Stmt.allowed_fold st) (Stmt.allAllowed_fold ss) h

end

end RenderBench.Template
