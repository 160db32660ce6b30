import RenderBench.Proofs.Template.Parsing.Alike

/-!
# `Proofs.Template.Parsing.Expressions` — expressions at two places

Every parser of expressions finds the same at both places. The parsers are taken in the order in which they are
defined; those that are given the parser of whole expressions need the same of that.

## Contents
- `Lined.reline_append`, …: other lines in what is put together.
- `Alike.commaSeparated`, `Alike.elementsUntil`: sequences.
- `Alike.primary` … `Alike.filtered`: operands.
- `Alike.expression`, `Alike.sequence`: whole expressions.
-/

namespace RenderBench.Template

open Parse RenderBench.Template.Parser

/-! ## Data that is put together -/

namespace Lined

variable {α β : Type} [Lined α] [Lined β] {f : Nat → Nat}

/-- Other lines in a row that is put together; these rules are simp lemmas, and rewrite what a parser returns. -/
@[simp] theorem reline_append (l l' : List α) : reline f (l ++ l') = reline f l ++ reline f l' := List.map_append

@[simp] theorem reline_nil : reline f ([] : List α) = [] := rfl

@[simp] theorem reline_cons (a : α) (l : List α) : reline f (a :: l) = reline f a :: reline f l := rfl

@[simp] theorem isEmpty_reline (l : List α) : (reline f l).isEmpty = l.isEmpty := List.isEmpty_map

@[simp] theorem reline_pair (a : α) (b : β) : reline f (a, b) = (reline f a, reline f b) := rfl

@[simp] theorem reline_inl (a : α) : reline f (Sum.inl a : α ⊕ β) = .inl (reline f a) := rfl

@[simp] theorem reline_inr (b : β) : reline f (Sum.inr b : α ⊕ β) = .inr (reline f b) := rfl

@[simp] theorem reline_bool (b : Bool) : reline f b = b := rfl

@[simp] theorem reline_string (s : String) : reline f s = s := rfl

@[simp] theorem reline_operator (op : CompareOp) : reline f op = op := rfl

/-- Names and operators have no lines. -/
@[simp] theorem reline_strings (names : List String) : reline f names = names := List.map_id names

@[simp] theorem reline_operators (ops : List CompareOp) : reline f ops = ops := List.map_id ops

/-- The row of expressions of a tree is the row of relined expressions. -/
@[simp] theorem relineAll_expr (es : List Expr) : Expr.relineAll f es = reline f es := Expr.relineAll_eq es

end Lined

instance : Lined CallArguments :=
  ⟨fun f a => { a with
    args := Lined.reline f a.args
    values := Lined.reline f a.values }⟩

open Lined (reline)

/-! ## Parsers of expressions -/

namespace Twins.Alike

variable {r : Twins} {α β : Type} [Lined α] [Lined β] {E : β → Prop} {ks : List TokenKind}

/-- A sequence ends where the next word begins nothing, which is seen alike at both places. -/
theorem endsSequence : r.Alike Never [] endsSequence endsSequence := by
  refine .kind fun k => ?_
  split <;> exact .pure rfl

/-- Elements with commas between them, found alike if each element is. -/
theorem commaSeparated {element element' : Parse α} (h : r.Alike Never [] element element') :
    r.Alike Never [] (commaSeparated element) (commaSeparated element') := by
  refine .iterate ?_ rfl
  rintro ⟨done, comma⟩
  simp only [Lined.reline_pair, Lined.isEmpty_reline]
  refine .optional (.discarded (.expectSign _)) (endsSequence.bind fun ends => ite (fun _ => .pure ?_) fun _ => ?_)
  · rfl
  · refine h.bind fun a => .ifSign _ (.mono (.pure ?_)) (.pure ?_) <;> simp

/-- Elements up to the sign that closes them. -/
theorem elementsUntil (close : Sign) {element element' : Parse α} (h : r.Alike Never [] element element') :
    r.Alike Never [] (elementsUntil close element) (elementsUntil close element') := by
  refine .bind (.iterate (fun done => ?_) rfl) fun elements => .discard (.expectSign close) (.pure rfl)
  refine .ifSign _ (.mono (.pure rfl)) ?_
  extract_lets next next'
  have hnext : r.Alike Never [] (next ()) (next' ()) := h.bind fun a => .pure (by simp)
  simp only [Lined.isEmpty_reline]
  exact .ite (fun _ => .discard (.expectSign _) (.ifSign _ (.mono (.pure rfl)) hnext)) fun _ => hnext

/-- Texts that stand behind each other are one text. -/
theorem joinedTexts (first : String) : r.Alike Never [] (joinedTexts first) (joinedTexts first) := by
  refine .iterate (fun done => .kind fun k => ?_) rfl
  split
  · exact .discard_advance rfl (.pure rfl)
  · exact .pure rfl

/-- One element without a comma is itself, and several are a tuple. -/
theorem sequenceOf {element element' : Parse Expr} (h : r.Alike Never [] element element') (emptyAllowed : Bool) :
    r.Alike Never [] (sequenceOf element emptyAllowed) (sequenceOf element' emptyAllowed) := by
  refine h.commaSeparated.bind ?_
  rintro ⟨es, comma⟩
  match es, comma with
  | [e], false => exact .pure rfl
  | [], false => exact .ite (fun _ => .pure rfl) fun _ => .kind fun k => .fail _
  | [], true => exact .pure rfl
  | [e], true => exact .pure rfl
  | _ :: _ :: _, _ => exact .pure (congrArg Expr.tuple (Expr.relineAll_eq (f := r.there) (_ :: _ :: _)).symm)

section Whole
variable {whole whole' : Whole} (hw : ∀ b, r.Alike Never [] (whole b) (whole' b))
include hw

/-- A name, a constant, or something in brackets, in which whole expressions stand. -/
theorem primary : r.Alike Never [] (primary whole) (primary whole') := by
  refine .current fun t => ?_
  obtain ⟨line, k⟩ := t
  simp only [reline]
  split
  · refine .discard_advance rfl (.pure ?_)
    unfold nameExpr
    split
    · rfl
    · split
      · rfl
      · split <;> rfl
  · exact .discard_advance rfl ((joinedTexts _).bind fun s => .pure rfl)
  · exact .discard_advance rfl (.pure rfl)
  · exact .discard_advance rfl (.pure rfl)
  · exact .discard_advance rfl ((sequenceOf (hw true) true).bind fun e => .discard (.expectSign _) (.pure rfl))
  · refine .discard_advance rfl ((elementsUntil _ (hw true)).bind fun es => .pure ?_)
    exact congrArg Expr.list (Expr.relineAll_eq _).symm
  · have hentry : r.Alike Never [] (do
        let key ← whole true
        Functor.discard (Parse.expectSign .colon)
        return (key, ← whole true)) (do
        let key ← whole' true
        Functor.discard (Parse.expectSign .colon)
        return (key, ← whole' true)) :=
      (hw true).bind fun key => .discard (.expectSign _) ((hw true).bind fun v => .pure rfl)
    refine .discard_advance rfl ((elementsUntil _ hentry).bind fun entries => .pure ?_)
    simp [reline, Expr.reline]
  · exact .failAt _ _

omit hw in
/-- An argument that stands where it must not is a fault at both places, though on different lines. -/
theorem ensureOrder {line line' : Nat} {ok ok' : Bool} {p q : Parse β} (h : r.Alike E ks p q) :
    r.Alike E ks (ensureOrder line ok >>= fun _ => p) (ensureOrder line' ok' >>= fun _ => q) := by
  cases ok with
  | false => exact .failAt_bind line _
  | true =>
    cases ok' with
    | true => exact h
    | false => exact fun _ _ _ _ _ _ _ _ _ hrun' => nomatch hrun'

/-- One more argument of a call, by position, by name or spread. -/
theorem callArgument (line line' : Nat) (a : CallArguments) :
    r.Alike Never [] (callArgument whole line a) (callArgument whole' line' (reline r.there a)) := by
  have hlast : r.Alike Never [] (whole true >>= fun e => Pure.pure { a with args := a.args ++ [e] })
      (whole' true >>= fun e => Pure.pure { reline r.there a with args := (reline r.there a).args ++ [e] }) :=
    (hw true).bind fun e => .pure (by simp [reline])
  refine .kind fun k => ?_
  split
  · exact .ensureOrder (.discard_advance rfl ((hw true).bind fun e => .pure (by simp [reline, Expr.reline])))
  · exact .ensureOrder (.discard_advance rfl ((hw true).bind fun e => .pure (by simp [reline, Expr.reline])))
  · refine .look rfl fun k' => .ite (fun hk => ?_) fun _ => .ensureOrder hlast.mono
    cases beq_iff_eq.mp hk
    refine .ensureOrder (.discard_advance rfl (.discard_advance rfl ((hw true).bind fun e => .pure ?_)))
    simp [reline]
  · exact .ensureOrder hlast.mono

/-- The arguments of a call between its brackets. -/
theorem callArguments : r.Alike Never [] (callArguments whole) (callArguments whole') := by
  refine .bind (.expectSign _) fun opener => ?_
  refine .bind (.iterate ?_ rfl) fun a => .discard (.expectSign _) (.pure rfl)
  rintro ⟨a, started⟩
  refine .ifSign _ (.mono (.pure rfl)) ?_
  extract_lets next next'
  have hnext : r.Alike Never [] (next ()) (next' ()) := (callArgument hw _ _ a).bind fun a => .pure rfl
  exact .ite (fun _ => .discard (.expectSign _) (.ifSign _ (.mono (.pure rfl)) hnext)) fun _ => hnext

theorem callOf (e : Expr) : r.Alike Never [] (callOf whole e) (callOf whole' (reline r.there e)) :=
  (callArguments hw).bind fun a => .pure (by simp [reline, Expr.reline])

/-- A bound of a slice may be missing. -/
theorem sliceBound : r.Alike Never [] (Parser.sliceBound whole) (Parser.sliceBound whole') := by
  refine .kind fun k => ?_
  split
  · exact .pure rfl
  · exact .pure rfl
  · exact (hw true).mono

/-- An index, or a slice with up to three bounds. -/
theorem subscript : r.Alike Never [] (subscript whole) (subscript whole') := by
  refine .join (.isSign _) (.pure rfl) (hw true) fun start => ?_
  refine (skipSign _).bind fun ranged => .ite (fun _ => ?_) fun _ => .pure rfl
  refine .join (.isSign _) (.pure rfl) (sliceBound hw) fun stop => ?_
  exact .join (.skipSign _) (sliceBound hw) (.pure rfl) fun step => .pure rfl

/-- The subscripts between brackets, with commas between them. -/
theorem subscripts : r.Alike Never [] (subscripts whole) (subscripts whole') := by
  refine .bind (.iterate (fun done => ?_) rfl) fun elements => .discard (.expectSign _) (.pure rfl)
  simp only [Lined.isEmpty_reline]
  refine .ifSign _ (.mono (.pure rfl)) (.optional (.discarded (.expectSign _)) ?_)
  exact (subscript hw).bind fun e => .pure (by simp)

omit hw in
/-- A member by its name or by a number, behind the dot. -/
theorem member (object : Expr) :
    r.Alike Never [.sign .dot] (Parser.member object) (Parser.member (reline r.there object)) := by
  refine .discard_advance rfl (.byKind fun k => ?_)
  cases k with
  | name n => exact .advance rfl fun line => .pure rfl
  | integer i => exact .advance rfl fun line => .pure rfl
  | _ => exact .advance_fail fun line => rfl

/-- A member, a subscript or a call, as often as there is one. -/
theorem access (e : Expr) : r.Alike Never [] (access whole e) (access whole' (reline r.there e)) := by
  refine .iterate (fun e => .kind fun k => ?_) rfl
  split
  · exact (member e).bind fun e => .pure rfl
  · refine .discard_advance rfl ((subscripts hw).bind fun is => ?_)
    match is with
    | [i] => exact .pure rfl
    | [] => exact .pure rfl
    | i :: j :: is => 
      refine .pure ?_
      simp [reline, Expr.reline]
  · exact (callOf hw e).mono.bind fun e => .pure rfl
  · exact .pure rfl

omit hw in
/-- The name of a filter or of a test, which may hold dots. -/
theorem dottedName : r.Alike Never [] dottedName dottedName := by
  refine .bind .expectAnyName ?_
  rintro ⟨line, first⟩
  refine .bind (.iterate (fun done => ?_) rfl) fun name => .pure rfl
  refine (skipSign _).bind fun more => .ite (fun _ => ?_) fun _ => .pure rfl
  exact .bind .expectAnyName fun p => .pure rfl

/-- One filter, with arguments if a bracket follows; it stands on the line of its name. -/
theorem filterAfter (e : Expr) : r.Alike Never [] (filterAfter whole e) (filterAfter whole' (reline r.there e)) := by
  refine dottedName.bind ?_
  rintro ⟨line, name⟩
  refine (isSign _).bind fun given => .ite (fun _ => ?_) fun _ => .pure rfl
  exact (callArguments hw).bind fun a => .pure (by simp [reline, Expr.reline])

/-- As many filters as there are. -/
theorem filters (e : Expr) : r.Alike Never [] (filters whole e) (filters whole' (reline r.there e)) := by
  refine .iterate (fun e => ?_) rfl
  refine (skipSign _).bind fun more => .ite (fun _ => ?_) fun _ => .pure rfl
  exact (filterAfter hw e).bind fun e => .pure rfl

/-- A test takes arguments in brackets, or one that stands behind it without any. -/
theorem testAfter (e : Expr) {n : String} :
    r.Alike Never [.name n] (testAfter whole e) (testAfter whole' (reline r.there e)) := by
  refine .advance rfl fun line => (skipName _).bind fun negated => dottedName.bind ?_
  rintro ⟨_, name⟩
  refine (isSign _).bind fun given => .kind fun k => ?_
  extract_lets test next test' next'
  have htest (a : CallArguments) : r.Alike Never [] (test a) (test' (reline r.there a)) := by
    refine .pure ?_
    cases negated <;> simp [reline, Expr.reline]
  have hnext : r.Alike Never [] (next ()) (next' ()) :=
    (primary hw).bind fun e => (access hw e).bind fun e => .bind (.pure rfl) htest
  refine .ite (fun _ => ((callArguments hw).bind htest).mono) fun _ => ?_
  refine .ite (fun _ => .mono ?_) fun _ => .bind (.pure rfl) htest
  exact (isName _).bind fun chained => .ite (fun _ => .fail_bind _) fun _ => hnext

/-- Filters and tests in any order. -/
theorem filtered (e : Expr) : r.Alike Never [] (filtered whole e) (filtered whole' (reline r.there e)) := by
  refine .iterate (fun e => .kind fun k => ?_) rfl
  split
  · exact .discard_advance rfl ((filterAfter hw e).bind fun e => .pure rfl)
  · exact (testAfter hw e).bind fun e => .pure rfl
  · exact (callOf hw e).mono.bind fun e => .pure rfl
  · exact .pure rfl

/-- Signs before an operand. The fuel need not be the same at both places, since only what is found in the end is
    compared. -/
theorem unaryWithin : ∀ (n n' : Nat) (filtersToo : Bool),
    r.Alike Never [] (unaryWithin whole n filtersToo) (unaryWithin whole' n' filtersToo)
  | 0, _, _ => .fail _
  | _ + 1, 0, _ => fun _ _ _ _ _ _ _ _ _ hrun' => nomatch hrun'
  | n + 1, n' + 1, filtersToo => by
    refine .kind fun k => ?_
    extract_lets rest rest'
    have hrest (e : Expr) : r.Alike Never [] (rest e) (rest' (reline r.there e)) :=
      (access hw e).bind fun e => .ite (fun _ => filtered hw e) fun _ => .pure rfl
    split
    · exact .discard_advance rfl ((unaryWithin n n' false).bind fun e => .bind (.pure rfl) hrest)
    · exact .discard_advance rfl ((unaryWithin n n' false).bind fun e => .bind (.pure rfl) hrest)
    · exact ((primary hw).bind hrest).mono

theorem unary : r.Alike Never [] (unary whole) (unary whole') :=
  .wordsLeft fun n n' => unaryWithin hw n n' true
end Whole

/-- Operands with operators of one rank between them, which group to the left. -/
theorem leftChain {operand operand' : Parse Expr} (h : r.Alike Never [] operand operand')
    (operator : TokenKind → Option BinaryOp) (hplain : ∀ k op, operator k = some op → k.isPlain = true) :
    r.Alike Never [] (leftChain operand operator) (leftChain operand' operator) := by
  refine h.bind fun first => .iterate (fun left => .kind fun k => ?_) rfl
  cases hop : operator k with
  | none => exact .pure rfl
  | some op => exact .discard_advance (hplain k op hop) (h.bind fun right => .pure rfl)

section Whole
variable {whole whole' : Whole} (hw : ∀ b, r.Alike Never [] (whole b) (whole' b))
include hw

theorem power : r.Alike Never [] (power whole) (power whole') := by
  refine (unary hw).leftChain _ fun k op h => ?_
  split at h <;> cases h
  rfl

theorem product : r.Alike Never [] (product whole) (product whole') := by
  refine (power hw).leftChain _ fun k op h => ?_
  split at h <;> cases h <;> rfl

theorem joined : r.Alike Never [] (joined whole) (joined whole') := by
  refine (product hw).bind fun first => .bind (.iterate (fun done => ?_) rfl) fun parts => ?_
  · refine (skipSign _).bind fun more => .ite (fun _ => ?_) fun _ => .pure rfl
    exact (product hw).bind fun e => .pure (by simp)
  · match parts with
    | [] => exact .pure rfl
    | [e] => exact .pure rfl
    | _ :: _ :: _ => exact .pure (congrArg Expr.concat (Expr.relineAll_eq (f := r.there) (_ :: _ :: _)).symm)

theorem sum : r.Alike Never [] (sum whole) (sum whole') := by
  refine (joined hw).leftChain _ fun k op h => ?_
  split at h <;> cases h <;> rfl

omit hw in
/-- The operator of a comparison, of which two have two words. -/
theorem comparator? : r.Alike Never [] comparator? comparator? := by
  refine .kind fun k => ?_
  split
  on_goal 8 =>
    refine .look rfl fun k' => .ite (fun hk => ?_) fun _ => .pure rfl
    cases beq_iff_eq.mp hk
    exact .discard_advance rfl (.discard_advance rfl (.pure rfl))
  on_goal 8 => exact .pure rfl
  all_goals exact .discard_advance rfl (.pure rfl)

/-- A chain of comparisons. -/
theorem comparison : r.Alike Never [] (comparison whole) (comparison whole') := by
  refine (sum hw).bind fun first => .bind (.iterate ?_ rfl) ?_
  · rintro ⟨ops, operands⟩
    refine comparator?.bind fun op => ?_
    cases op with
    | none => exact .pure rfl
    | some op => exact (sum hw).bind fun e => .pure (by simp)
  · rintro ⟨ops, operands⟩
    simp only [Lined.reline_pair, Lined.reline_operators]
    exact .ite (fun _ => .pure rfl) fun _ => .pure (by simp [reline, Expr.reline])

/-- As often as `not` stands before it. -/
theorem negationWithin : ∀ n n' : Nat, r.Alike Never [] (negationWithin whole n) (negationWithin whole' n')
  | 0, _ => .fail _
  | _ + 1, 0 => fun _ _ _ _ _ _ _ _ _ hrun' => nomatch hrun'
  | n + 1, n' + 1 => by
    refine (skipName _).bind fun negated => .ite (fun _ => ?_) fun _ => comparison hw
    exact (negationWithin n n').bind fun e => .pure rfl

theorem negation : r.Alike Never [] (negation whole) (negation whole') :=
  .wordsLeft fun n n' => negationWithin hw n n'

omit hw in
/-- Operands joined by a name, from the left. -/
theorem nameChain {operand operand' : Parse Expr} (h : r.Alike Never [] operand operand') (n : String)
    (op : Expr → Expr → Expr) (hop : ∀ a b, op (reline r.there a) (reline r.there b) = reline r.there (op a b))
    (first : Expr) :
    r.Alike Never [] (Parse.iterate (fun left => do
      if ← Parse.skipName n then return .inl (op left (← operand))
      else return .inr left) first) (Parse.iterate (fun left => do
      if ← Parse.skipName n then return .inl (op left (← operand'))
      else return .inr left) (reline r.there first)) := by
  refine .iterate (fun left => (skipName _).bind fun more => .ite (fun _ => ?_) fun _ => .pure rfl) rfl
  exact h.bind fun right => .pure (congrArg Sum.inl (hop left right))

theorem conjunction : r.Alike Never [] (conjunction whole) (conjunction whole') :=
  (negation hw).bind fun first => (negation hw).nameChain "and" Expr.and (fun _ _ => rfl) first

theorem disjunction : r.Alike Never [] (disjunction whole) (disjunction whole') :=
  (conjunction hw).bind fun first => (conjunction hw).nameChain "or" Expr.or (fun _ _ => rfl) first

/-- A conditional may have another one in its alternative. -/
theorem conditionalWithin : ∀ n n' : Nat, r.Alike Never [] (conditionalWithin whole n) (conditionalWithin whole' n')
  | 0, _ => .fail _
  | _ + 1, 0 => fun _ _ _ _ _ _ _ _ _ hrun' => nomatch hrun'
  | n + 1, n' + 1 => by
    refine .line fun start => (disjunction hw).bind fun first => .bind (.iterate ?_ rfl) fun p => .pure rfl
    rintro ⟨e, start⟩
    refine (skipName _).bind fun more => .ite (fun _ => ?_) fun _ => .pure rfl
    refine (disjunction hw).bind fun test => (skipName _).bind fun other => .ite (fun _ => ?_) fun _ => ?_
    · exact (conditionalWithin n n').bind fun e => .bind (.pure rfl) fun e => .line fun line => .pure rfl
    · exact .bind (.pure rfl) fun e => .line fun line => .pure rfl

theorem conditional : r.Alike Never [] (conditional whole) (conditional whole') :=
  .wordsLeft fun n n' => conditionalWithin hw n n'

end Whole

/-- The parser of whole expressions is given itself with less fuel, so that the induction is on the fuel. -/
theorem expressionWithin : ∀ (n n' : Nat) (conditionals : Bool),
    r.Alike Never [] (expressionWithin n conditionals) (expressionWithin n' conditionals)
  | 0, _, _ => .fail _
  | _ + 1, 0, _ => fun _ _ _ _ _ _ _ _ _ hrun' => nomatch hrun'
  | n + 1, n' + 1, _ =>
    .ite (fun _ => conditional (expressionWithin n n')) fun _ => disjunction (expressionWithin n n')

/-- **A whole expression** is found alike at both places. -/
theorem expression (conditionals : Bool) : r.Alike Never ks (expression conditionals) (expression conditionals) :=
  .wordsLeft fun n n' => (expressionWithin n n' conditionals).mono

/-- So is a sequence of them, which may be a tuple without brackets. -/
theorem sequence (conditionals : Bool) : r.Alike Never ks (sequence conditionals) (sequence conditionals) :=
  (sequenceOf (expression conditionals) false).mono

end Twins.Alike
end RenderBench.Template
