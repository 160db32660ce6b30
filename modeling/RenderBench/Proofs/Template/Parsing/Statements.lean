import RenderBench.Proofs.Template.Blocks
import RenderBench.Proofs.Template.Parsing.Expressions

/-!
# `Proofs.Template.Parsing.Statements` — statements at two places

Every parser of statements finds the same at both places, if the parser of bodies does. While a body is read the
statement that is looked for may be found in it; then the statement around it holds the blocks of the one that was
found, and what stands at the other place is of no account.

## Contents
- `Twins.Found`, `Twins.Holds`, `Twins.HoldsAll`: the statement that is looked for, and what holds its blocks.
- `Twins.Bodies`: parsers of bodies that find the same at both places.
- `Alike.assignTarget` … `Alike.printStatement`: targets, and statements without bodies.
- `Alike.setStatement` … `Alike.filterStatement`: statements with bodies.
- `Alike.statement`: all of them.
-/

namespace RenderBench.Template

open Parse RenderBench.Template.Parser
open Lined (reline)

namespace Lined

variable {f : Nat → Nat}

@[simp] theorem relineAll_target (ts : List Target) : Target.relineAll f ts = reline f ts := Target.relineAll_eq ts

@[simp] theorem relineAll_stmt (ss : List Stmt) : Stmt.relineAll f ss = reline f ss := Stmt.relineAll_eq ss

end Lined

/-! ## The statement that is looked for -/

namespace Twins

variable (r : Twins)

/-- Whether a statement has been read where the one that is looked for stands. -/
def Found (st : Stmt) : Prop := ∃ n σ σ', r.Spot σ.words ∧ statement (bodyWithin n) σ = .ok (st, σ')

/-- Whether a statement holds the blocks of one that was looked for. -/
def Holds (st : Stmt) : Prop := ∃ found, r.Found found ∧ (blocksOf found).Sublist (blocksOf st)

/-- Whether some statements hold the blocks of one that was looked for. -/
def HoldsAll (ss : List Stmt) : Prop := ∃ found, r.Found found ∧ (blocksOf found).Sublist (blocksOfAll ss)

variable {r}

theorem Found.holds {st : Stmt} (h : r.Found st) : r.Holds st := ⟨st, h, .refl _⟩

theorem HoldsAll.of_body {st : Stmt} {body : List Stmt} (h : r.HoldsAll body) (hbody : body ∈ st.bodies) :
    r.Holds st := by
  obtain ⟨found, hfound, hsub⟩ := h
  refine ⟨found, hfound, hsub.trans ?_⟩
  rw [blocksOf_eq]
  exact .trans (List.sublist_flatten_of_mem (List.mem_map_of_mem hbody)) (List.sublist_append_right _ _)

theorem blocksOfAll_append (ss ss' : List Stmt) : blocksOfAll (ss ++ ss') = blocksOfAll ss ++ blocksOfAll ss' := by
  induction ss with
  | nil => rfl
  | cons st ss ih => rw [List.cons_append, blocksOfAll, blocksOfAll, ih, List.append_assoc]

theorem HoldsAll.mono {ss ss' : List Stmt} (h : r.HoldsAll ss) (hstart : ss <+: ss') : r.HoldsAll ss' := by
  obtain ⟨found, hfound, hsub⟩ := h
  obtain ⟨rest, rfl⟩ := hstart
  exact ⟨found, hfound, by rw [blocksOfAll_append]; exact hsub.trans (List.sublist_append_left _ _)⟩

theorem Holds.append {st : Stmt} (h : r.Holds st) (ss : List Stmt) : r.HoldsAll (ss ++ [st]) := by
  obtain ⟨found, hfound, hsub⟩ := h
  refine ⟨found, hfound, hsub.trans ?_⟩
  rw [blocksOfAll_append, blocksOfAll, blocksOfAll, List.append_nil]
  exact List.sublist_append_right _ _

end Twins

/-! ## Targets and blank text -/

mutual

theorem targetOf?_reline {f : Nat → Nat} (line : Nat) : ∀ e : Expr,
    targetOf? (f line) (e.reline f) = (targetOf? line e).map (Target.reline f)
  | .tuple es => by
    rw [Expr.reline, targetOf?, targetsOf?_reline line es, targetOf?]
    cases targetsOf? line es with
    | none => rfl
    | some ts => exact congrArg (some <| Target.tuple ·) (Target.relineAll_eq ts).symm
  | .name _ | .const _ | .captured | .list _ | .dict _ _ | .attribute _ _ | .item _ _ | .slice _ _ _ | .call _ _ _ _
  | .filter _ _ _ _ _ _ | .test _ _ _ _ _ _ | .unary _ _ | .binary _ _ _ | .concat _ | .and _ _ | .or _ _
  | .compare _ _ _ | .ifElse _ _ _ | .ifOnly _ _ _ | .spread _ | .spreadNamed _ => rfl

theorem targetsOf?_reline {f : Nat → Nat} (line : Nat) : ∀ es : List Expr,
    targetsOf? (f line) (Expr.relineAll f es) = (targetsOf? line es).map (List.map (Target.reline f))
  | [] => rfl
  | e :: es => by
    rw [Expr.relineAll, targetsOf?, targetOf?_reline line e, targetsOf?_reline line es, targetsOf?]
    cases targetOf? line e with
    | none => rfl
    | some t => cases targetsOf? line es <;> rfl

end

theorem kindName_reline {f : Nat → Nat} (e : Expr) : Expr.kindName (e.reline f) = Expr.kindName e := by
  cases e with
  | unary op e => cases op <;> rfl
  | binary op a b => cases op <;> rfl
  | _ => rfl

theorem isBlankText_reline {f : Nat → Nat} (st : Stmt) : Stmt.isBlankText (st.reline f) = Stmt.isBlankText st := by
  cases st with
  | output pieces =>
    rw [Stmt.reline, Stmt.isBlankText, List.all_map]
    refine congrArg pieces.all (funext fun p => ?_)
    cases p <;> rfl
  | _ => rfl

/-- The target among what was read, if it is one. -/
def okTarget? : Except String Target → Option Target
  | .ok t => some t
  | .error _ => none

theorem mapM_okTarget?_reline {f : Nat → Nat} (elements : List (Except String Target)) :
    (reline f elements).mapM okTarget? = (elements.mapM okTarget?).map (reline f) := by
  induction elements with
  | nil => rfl
  | cons e es ih =>
    rw [Lined.reline_cons, List.mapM_cons, ih, List.mapM_cons]
    cases e with
    | error kind => rfl
    | ok t => cases es.mapM okTarget? <;> rfl

/-- What an expression that is no name is as an element of a target. -/
def plainElement (start : Nat) (e : Expr) : Parse (Except String Target) :=
  match targetOf? start e with
  | some t => pure (.ok t)
  | none => pure (.error (Expr.kindName e))

/-- Several elements as one target. -/
def severalTargets (start : Nat) (elements : List (Except String Target)) : Parse Target :=
  match elements.mapM okTarget? with
  | some ts => pure (.tuple ts)
  | none => failAt start (.cannotAssign "tuple")

/-- The two words about the context, of which the first has been looked at. -/
def contextWords (first : String) (given absent : Bool) : Parse Bool := do
  if first == "with" || first == "without" then
    if (← look) == .name "context" then
      discard advance
      discard advance
      return given
    else return absent
  else return absent

/-! ## Parsers of statements -/

namespace Twins.Alike

variable {r : Twins} {α β : Type} [Lined α] [Lined β] {E : β → Prop} {ks : List TokenKind} {n : String}

theorem plainElement (start : Nat) (e : Expr) :
    r.Alike Never [] (plainElement start e) (plainElement (r.there start) (e.reline r.there)) := by
  rw [Template.plainElement, Template.plainElement, targetOf?_reline, kindName_reline]
  cases targetOf? start e with
  | some t => exact .pure rfl
  | none => exact .pure rfl

theorem targetElement (membersToo : Bool) : r.Alike Never [] (targetElement membersToo) (targetElement membersToo) := by
  refine .line fun start => (primary expression).bind fun e => ?_
  have hother := plainElement (r := r) start e
  cases e with
  | name n =>
    refine .ite (fun _ => ?_) fun _ => .pure rfl
    refine (skipSign _).bind fun dotted => .ite (fun _ => ?_) fun _ => .pure rfl
    exact expectAnyName.bind fun p => .pure rfl
  | _ => exact hother

theorem severalTargets (start : Nat) (elements : List (Except String Target)) :
    r.Alike Never [] (severalTargets start elements)
      (severalTargets (r.there start) (reline r.there elements)) := by
  rw [Template.severalTargets, Template.severalTargets, mapM_okTarget?_reline]
  cases elements.mapM okTarget? with
  | some ts => exact .pure (congrArg Target.tuple (Target.relineAll_eq ts).symm)
  | none => exact .failAt _ _

theorem assignTarget (membersToo : Bool) : r.Alike Never ks (assignTarget membersToo) (assignTarget membersToo) := by
  refine .mono (.line fun start => (targetElement membersToo).commaSeparated.bind ?_)
  rintro ⟨elements, comma⟩
  have hmany := severalTargets (r := r) start elements
  cases elements with
  | nil =>
    cases comma with
    | false => exact .kind fun k => .fail _
    | true => exact hmany
  | cons e es =>
    cases es with
    | cons e' es => cases e <;> exact hmany
    | nil =>
      cases comma with
      | true => cases e <;> exact hmany
      | false =>
        cases e with
        | ok t => exact .pure rfl
        | error kind => exact .failAt _ _

theorem nameTarget : r.Alike Never ks nameTarget nameTarget := by
  refine expectAnyName.bind ?_
  rintro ⟨start, n⟩
  simp only [reline, Prod.map, id]
  split
  · exact .pure rfl
  · exact .failAt _ _

theorem signature : r.Alike Never ks signature signature := by
  refine .discard (.expectSign _) (.bind (.iterate ?_ rfl) fun found => .discard (.expectSign _) (.pure rfl))
  rintro ⟨params, defaults⟩
  simp only [Lined.reline_pair, Lined.reline_strings, Lined.isEmpty_reline]
  refine .ifSign _ (.mono (.pure (by simp))) (.optional (.discarded (.expectSign _)) (nameTarget.bind fun name => ?_))
  refine (skipSign _).bind fun given => .ite (fun _ => ?_) fun _ => .ite (fun _ => .fail _) fun _ => .pure (by simp)
  exact (expression _).bind fun e => .pure (by simp)

theorem contextWords (first : String) (given absent : Bool) :
    r.Alike Never [.name first] (contextWords first given absent) (contextWords first given absent) := by
  refine .ite (fun _ => .look rfl fun k' => .ite (fun hk => ?_) fun _ => .pure rfl) fun _ => .pure rfl
  cases beq_iff_eq.mp hk
  exact .discard_advance rfl (.discard_advance rfl (.pure rfl))

theorem contextClause (default : Bool) : r.Alike Never ks (contextClause default) (contextClause default) := by
  refine .mono (.kind fun k => ?_)
  split
  · exact contextWords _ _ _
  · exact .pure rfl

theorem skipContext : r.Alike Never ks skipContext skipContext := by
  refine .mono (.kind fun k => ?_)
  split
  · exact contextWords _ _ _
  · exact .pure rfl

/-! ### Statements without bodies -/

theorem extendsStatement : r.Alike Never [.name n] extendsStatement extendsStatement :=
  .advance rfl fun _ => (expression _).bind fun _ => .pure rfl

theorem includeStatement : r.Alike Never [.name n] includeStatement includeStatement := by
  refine .discard_advance rfl ((expression _).bind fun source => ?_)
  have hend (ignoreMissing : Bool) : r.Alike Never [] (do return Stmt.embed source ignoreMissing (← Parser.contextClause true))
      (do return Stmt.embed (reline r.there source) ignoreMissing (← Parser.contextClause true)) :=
    (contextClause true).bind fun c => .pure rfl
  refine .ifName _ (.look rfl fun k' => .ite (fun hk => ?_) fun _ => (hend false).mono) (hend false)
  cases beq_iff_eq.mp hk
  exact .discard_advance rfl (.discard_advance rfl (hend true))

theorem importStatement : r.Alike Never [.name n] importStatement importStatement := by
  refine .discard_advance rfl ((expression _).bind fun source => .discard (.expectName _) ?_)
  exact nameTarget.bind fun name => .discard (contextClause false) (.pure rfl)

theorem fromStatement : r.Alike Never [.name n] fromStatement fromStatement := by
  refine .discard_advance rfl ((expression _).bind fun source => .discard (.expectName _) ?_)
  refine .bind (.iterate (fun done => ?_) rfl) fun names => .pure (by simp [reline, Stmt.reline])
  simp only [Lined.reline_strings]
  refine .optional (.discarded (.expectSign _)) (.kind fun k => ?_)
  split
  · refine skipContext.bind fun clause => .ite (fun _ => .pure (by simp)) fun _ => .line fun start => ?_
    refine nameTarget.bind fun name => .ite (fun _ => .failAt_bind _ _) fun _ => ?_
    refine .join (.skipName _) nameTarget (.pure rfl) fun bound => skipContext.bind fun clause => ?_
    refine .ite (fun _ => .pure (by simp)) fun _ => .ifSign _ (.mono (.pure (by simp))) (.pure (by simp))
  · exact .unexpected _

theorem printStatement : r.Alike Never [.name n] printStatement printStatement := by
  refine .discard_advance rfl (.bind (.iterate (fun done => .kind fun k => ?_) rfl) fun pieces => .pure rfl)
  simp only [Lined.isEmpty_reline]
  refine .ite (fun _ => .pure rfl) fun _ => .mono (.optional (.discarded (.expectSign _)) ?_)
  exact (expression _).bind fun e => .pure (by simp; rfl)

end Twins.Alike

/-! ## Bodies -/

namespace Twins

variable (r : Twins) {α β : Type} [Lined α] [Lined β]

/-- Whether two parsers of bodies find the same at both places, or the first one has found the statement; before a tag
    that is not gone past they are at a name. -/
def Bodies (body body' : Body) : Prop :=
  ∀ ⦃tags : List String⦄, "block" ∉ tags → ∀ ⦃goPast : Bool⦄ ⦃σ τ : ParseState⦄, r.Meet σ.words τ.words →
    ∀ ⦃a σ' b τ'⦄, body tags goPast σ = .ok (a, σ') → body' tags goPast τ = .ok (b, τ') →
      (b = reline r.there a ∧ r.Meet σ'.words τ'.words ∧ (goPast = false → ∃ n, Ahead [.name n] σ'.words)) ∨
        r.HoldsAll a

namespace Bodies

variable {r} {body body' : Body} {tags : List String} {f g : List Stmt → Parse β} {E : β → Prop}

/-- A body with its last tag. -/
theorem past (h : r.Bodies body body') (htags : "block" ∉ tags)
    (hf : ∀ a, r.Alike E [] (f a) (g (reline r.there a))) (hE : ∀ a, r.HoldsAll a → Gives (f a) E) :
    r.Alike E [] (body tags true >>= f) (body' tags true >>= g) := by
  refine .bind_found (fun σ τ hmeet _ a σ' b τ' hrun hrun' => ?_) hf hE
  exact (h htags hmeet hrun hrun').imp_left fun ⟨ha, hmeet', _⟩ => ⟨ha, hmeet'⟩

/-- A body before its last tag. -/
theorem before (h : r.Bodies body body') (htags : "block" ∉ tags)
    (hf : ∀ a n, r.Alike E [.name n] (f a) (g (reline r.there a))) (hE : ∀ a, r.HoldsAll a → Gives (f a) E) :
    r.Alike E [] (body tags false >>= f) (body' tags false >>= g) := by
  intro σ τ hmeet _ b σ'' b' τ'' hrun hrun'
  obtain ⟨a, σ', hbody, hfa⟩ := bind_ok hrun
  obtain ⟨a', τ', hbody', hga⟩ := bind_ok hrun'
  rcases h htags hmeet hbody hbody' with ⟨rfl, hmeet', hname⟩ | ha
  · obtain ⟨n, hn⟩ := hname rfl
    exact hf a n hmeet' hn hfa hga
  · exact .inr (hE a ha hfa)

end Bodies

end Twins

/-! ## Statements with bodies -/

namespace Twins.Alike

variable {r : Twins} {body body' : Body} {ks : List TokenKind} {n : String}

/-- A statement whose body is read last. -/
theorem body_last (hbody : r.Bodies body body') {tags : List String} (htags : "block" ∉ tags) {st st' : List Stmt → Stmt}
    (hst : ∀ ss, st' (reline r.there ss) = reline r.there (st ss)) (hbodies : ∀ ss, ss ∈ (st ss).bodies) :
    r.Alike r.Holds [] (body tags true >>= fun ss => Pure.pure (st ss))
      (body' tags true >>= fun ss => Pure.pure (st' ss)) :=
  hbody.past htags (fun ss => .pure (hst ss)) fun ss hss => Gives.pure (hss.of_body (hbodies ss))

section Bodies

variable (hbody : r.Bodies body body')
include hbody

theorem setStatement : r.Alike r.Holds [.name n] (setStatement body) (setStatement body') := by
  refine .discard_advance rfl ((assignTarget true).bind fun target => ?_)
  refine (skipSign _).bind fun valued => .ite (fun _ => ?_) fun _ => ?_
  · exact (sequence true).bind fun e => .pure rfl
  · refine .join (.isSign _) ((filters expression .captured).map fun e => rfl) (.pure rfl) fun filter => ?_
    exact .body_last hbody (by decide) (fun ss => by simp [reline, Stmt.reline]) fun ss => .head _

theorem forStatement : r.Alike r.Holds ks (forStatement body) (forStatement body') := by
  refine .discard (.expectName _) ((assignTarget false).bind fun target => .discard (.expectName _) ?_)
  refine (sequence false).bind fun source => ?_
  refine .join (.skipName _) ((expression true).map fun e => rfl) (.pure rfl) fun condition => ?_
  refine (skipName _).bind fun recursive => ?_
  refine hbody.before (by decide) (fun main n => .advance rfl fun line => ?_) fun main hmain => .bind fun t => ?_
  · dsimp only
    split
    · exact .pure (by simp [reline, Stmt.reline])
    · exact .body_last hbody (by decide) (fun ss => by simp [reline, Stmt.reline]) fun ss => .tail _ (.head _)
  · split
    · exact .pure (hmain.of_body (.head _))
    · exact .bind fun ss => .pure (hmain.of_body (.head _))

theorem branchWithin : ∀ n n' : Nat, r.Alike r.Holds [] (branchWithin body n) (branchWithin body' n')
  | 0, _ => .fail _
  | _ + 1, 0 => fun _ _ _ _ _ _ _ _ _ hrun' => nomatch hrun'
  | n + 1, n' + 1 => by
    refine (sequence false).bind fun test => ?_
    refine hbody.before (by decide) (fun main n => .advance rfl fun line => ?_) fun main hmain => .bind fun t => ?_
    · dsimp only
      split
      · refine (branchWithin _ _).bind_found (fun st => .pure ?_) fun st hst => .pure ?_
        · simp [reline, Stmt.reline]
        · exact HoldsAll.of_body (hst.append []) (.tail _ (.head _))
      · exact .body_last hbody (by decide) (fun ss => by simp [reline, Stmt.reline]) fun ss => .tail _ (.head _)
      · exact .pure (by simp [reline, Stmt.reline])
    · split
      · exact .bind fun ss => .pure (hmain.of_body (.head _))
      · exact .bind fun ss => .pure (hmain.of_body (.head _))
      · exact .pure (hmain.of_body (.head _))

theorem ifStatement : r.Alike r.Holds ks (ifStatement body) (ifStatement body') :=
  .discard (.expectName _) (.wordsLeft fun n n' => branchWithin hbody n n')

theorem withStatement : r.Alike r.Holds [.name n] (withStatement body) (withStatement body') := by
  refine .discard_advance rfl (.bind (.iterate ?_ rfl) ?_)
  · rintro ⟨targets, values⟩
    simp only [Lined.reline_pair, Lined.isEmpty_reline]
    refine .kind fun k => .ite (fun _ => .pure rfl) fun _ => .mono (.optional (.discarded (.expectSign _)) ?_)
    refine (assignTarget false).bind fun target => .discard (.expectSign _) ?_
    exact (expression true).bind fun e => .pure (by simp)
  · rintro ⟨targets, values⟩
    exact .body_last hbody (by decide) (fun ss => by simp [reline, Stmt.reline]) fun ss => .head _

theorem escapingStatement : r.Alike r.Holds [.name n] (escapingStatement body) (escapingStatement body') := by
  refine .discard_advance rfl ((expression true).bind fun e => ?_)
  exact .body_last hbody (by decide) (fun ss => by simp [reline, Stmt.reline]) fun ss => .head _

theorem blockStatement : r.Alike r.Holds [.name n] (blockStatement body) (blockStatement body') := by
  refine .advance rfl fun start => expectAnyName.bind ?_
  rintro ⟨_, name⟩
  refine (skipName _).bind fun withLocals => (skipName _).bind fun required => ?_
  refine (isSign _).bind fun hyphen => .ite (fun _ => .fail_bind _) fun _ => ?_
  refine hbody.past (by decide) (fun main => ?_) fun main hmain => ?_
  · have hblank : (reline r.there main).all Stmt.isBlankText = main.all Stmt.isBlankText := by
      rw [show reline r.there main = main.map (Stmt.reline r.there) from rfl, List.all_map]
      exact congrArg main.all (funext isBlankText_reline)
    simp only [hblank]
    refine .ite (fun _ => .fail_bind _) fun _ => .discard (.skipName _) (.pure ?_)
    simp [reline, Stmt.reline]
  · dsimp only
    split
    · exact .bind fun _ => .bind fun _ => .pure (hmain.of_body (.head _))
    · exact .bind fun _ => .pure (hmain.of_body (.head _))

theorem definitionStatement : r.Alike r.Holds [.name n] (definitionStatement body) (definitionStatement body') := by
  refine .discard_advance rfl (nameTarget.bind fun name => signature.bind ?_)
  rintro ⟨params, defaults⟩
  exact .body_last hbody (by decide) (fun ss => by simp [reline, Stmt.reline]) fun ss => .head _

theorem callStatement : r.Alike r.Holds [.name n] (callStatement body) (callStatement body') := by
  refine .advance rfl fun start => .join (.isSign _) signature (.pure rfl) ?_
  rintro ⟨params, defaults⟩
  refine (expression true).bind fun e => ?_
  cases e with
  | call f args names values =>
    exact .body_last hbody (by decide) (fun ss => by simp [reline, Stmt.reline]) fun ss => .head _
  | _ => exact .failAt _ _

theorem filterStatement : r.Alike r.Holds [.name n] (filterStatement body) (filterStatement body') := by
  refine .discard_advance rfl ((filterAfter expression .captured).bind fun first => ?_)
  refine (filters expression first).bind fun all => ?_
  exact .body_last hbody (by decide) (fun ss => by simp [reline, Stmt.reline]) fun ss => .head _

/-! ### All statements -/

omit hbody in
/-- The names of the open statements are of no account. -/
theorem opening {α : Type} [Lined α] {E : α → Prop} {f g : ParseState → Parse α} (n : String)
    (h : ∀ s s', r.Alike E ks (f s) (g s')) :
    r.Alike E ks (do
      let s ← get
      set { s with opened := n :: s.opened }
      f s) (do
      let s ← get
      set { s with opened := n :: s.opened }
      g s) :=
  fun σ τ hmeet hks _ _ _ _ hrun hrun' =>
    @h σ τ { σ with opened := n :: σ.opened } { τ with opened := n :: τ.opened } hmeet hks _ _ _ _ hrun hrun'

theorem statement : r.Alike r.Holds [] (statement body) (statement body') := by
  refine .current fun t => ?_
  obtain ⟨line, k⟩ := t
  cases k with
  | name n =>
    refine .opening n fun s s' => ?_
    extract_lets close close'
    have hclose (p q : Parse Stmt) (h : r.Alike r.Holds [.name n] p q) :
        r.Alike r.Holds [.name n] (p >>= close) (q >>= close') := by
      refine h.bind_found (fun st => ?_) fun st hst => .bind fun _ => .pure hst
      intro σ τ hmeet _ a σ' b τ' hrun hrun'
      cases hrun
      cases hrun'
      exact .inl ⟨rfl, hmeet⟩
    refine .ite (fun _ => hclose _ _ (forStatement hbody)) fun _ => ?_
    refine .ite (fun _ => hclose _ _ (ifStatement hbody)) fun _ => ?_
    refine .ite (fun _ => hclose _ _ (blockStatement hbody)) fun _ => ?_
    refine .ite (fun _ => hclose _ _ extendsStatement.found) fun _ => ?_
    refine .ite (fun _ => hclose _ _ printStatement.found) fun _ => ?_
    refine .ite (fun _ => hclose _ _ (definitionStatement hbody)) fun _ => ?_
    refine .ite (fun _ => hclose _ _ includeStatement.found) fun _ => ?_
    refine .ite (fun _ => hclose _ _ fromStatement.found) fun _ => ?_
    refine .ite (fun _ => hclose _ _ importStatement.found) fun _ => ?_
    refine .ite (fun _ => hclose _ _ (setStatement hbody)) fun _ => ?_
    refine .ite (fun _ => hclose _ _ (withStatement hbody)) fun _ => ?_
    refine .ite (fun _ => hclose _ _ (escapingStatement hbody)) fun _ => ?_
    refine .ite (fun _ => hclose _ _ (callStatement hbody)) fun _ => ?_
    exact .ite (fun _ => hclose _ _ (filterStatement hbody)) fun _ => .failAt_bind _ _
  | _ => exact .failAt _ _

end Bodies

end Twins.Alike

end RenderBench.Template
