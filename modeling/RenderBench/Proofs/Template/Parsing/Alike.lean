import RenderBench.Proofs.Stepwise
import RenderBench.Proofs.Template.Lines
import RenderBench.Proofs.Template.Parsing.Lexing
import RenderBench.Template.Parser.Statement

/-!
# `Proofs.Template.Parsing.Alike` — one parser at two places

The same words may stand at two places, on other lines. A parser that reads them at both finds the same at both, on
other lines, and stops at the same word. The rules here tell this of a parser from its steps; they say nothing of a
parser that fails.

What the two places have in common is left open: `Twins` asks only for what the rules need.

## Contents
- `Lined`: data with lines.
- `Twins`: two places.
- `Twins.Alike`: parsers that find the same at both.
- `Alike.bind`, `Alike.kind`, `Alike.advance`, `Alike.look`, …: its rules.
- `Twins.iterate_rule`, `Alike.iterate`: loops.
-/

namespace RenderBench.Template

/-! ## Data with lines -/

/-- Data that may hold lines, which can be replaced by others. -/
class Lined (α : Type) where
  reline (f : Nat → Nat) : α → α

namespace Lined

variable {α β : Type}

instance : Lined Nat := ⟨fun f => f⟩

instance : Lined Unit := ⟨fun _ => id⟩

instance : Lined Bool := ⟨fun _ => id⟩

instance : Lined String := ⟨fun _ => id⟩

instance : Lined CompareOp := ⟨fun _ => id⟩

instance : Lined Token := ⟨fun f t => ⟨f t.line, t.kind⟩⟩

instance : Lined Expr := ⟨Expr.reline⟩

instance : Lined Target := ⟨Target.reline⟩

instance : Lined Piece := ⟨Piece.reline⟩

instance : Lined Stmt := ⟨Stmt.reline⟩

instance [Lined α] : Lined (List α) := ⟨fun f => List.map (reline f)⟩

instance [Lined α] : Lined (Option α) := ⟨fun f => Option.map (reline f)⟩

instance [Lined α] : Lined (Except String α) := ⟨fun f => Except.map (reline f)⟩

instance [Lined α] [Lined β] : Lined (α × β) := ⟨fun f => Prod.map (reline f) (reline f)⟩

instance [Lined α] [Lined β] : Lined (α ⊕ β) := ⟨fun f => Sum.map (reline f) (reline f)⟩

end Lined

open Lined (reline)

/-! ## Two places -/

/-- The words that a state is at. -/
def ParseState.words (σ : ParseState) : List Lexeme := .token σ.current :: σ.rest

/-- Whether some words begin with tokens of some kinds. -/
def Ahead : List TokenKind → List Lexeme → Prop
  | [], _ => True
  | k :: ks, .token t :: words => t.kind = k ∧ Ahead ks words
  | _, _ => False

theorem ahead_unique {k k' : TokenKind} : ∀ {words : List Lexeme}, Ahead [k] words → Ahead [k'] words → k = k'
  | .token _ :: _, h, h' => h.1.symm.trans h'.1

/-- Words that neither begin nor end a statement's tag. -/
def TokenKind.isPlain : TokenKind → Bool
  | .tagBegin | .tagEnd => false
  | _ => true

/-- Two places where the same words stand, the second on other lines. From words at which the places meet they meet
    at the words after them, but that the first place ends with the end of a tag, and that the statement that is
    looked for stands behind the beginning of one. -/
structure Twins where
  /-- Whether the words of the first place end. -/
  Ends : Prop
  /-- The line at the second place, for one at the first. -/
  there : Nat → Nat
  Meet : List Lexeme → List Lexeme → Prop
  /-- Whether some words are those of the statement that is looked for. -/
  Spot : List Lexeme → Prop
  head : ∀ {x ws vs}, Meet (x :: ws) vs → ∃ vs', vs = x.reline there :: vs'
  step : ∀ {t ws y vs}, Meet (.token t :: ws) (y :: vs) →
    t.kind = .tagEnd ∧ ws = [] ∧ Ends ∨ t.kind = .tagBegin ∧ Spot ws ∨ ws ≠ [] ∧ Meet ws vs
  outside : ∀ {t ws vs}, Meet (.token t :: ws) vs → t.kind.closes = true → Outside ws
  spot_block : ∀ {ws}, Spot ws → Ahead [.name "block"] ws

namespace Twins

variable {r : Twins} {σ τ σ' τ' : ParseState}

/-- At the same words the current ones are the same. -/
theorem current_of_meet (h : r.Meet σ.words τ.words) : τ.current = reline r.there σ.current := by
  obtain ⟨vs, hvs⟩ := r.head h
  exact Lexeme.token.inj (List.cons.inj hvs).1

theorem ahead_of_meet {k : TokenKind} : ∀ {ws vs : List Lexeme}, r.Meet ws vs → Ahead [k] ws → Ahead [k] vs
  | .token _ :: _, _, hmeet, hahead => by
    obtain ⟨vs', rfl⟩ := r.head hmeet
    exact ⟨hahead.1, trivial⟩

/-- After any other word than the ends of a tag, the same words follow. -/
theorem rest_of_meet (h : r.Meet σ.words τ.words) (hplain : σ.current.kind.isPlain = true) :
    σ.rest ≠ [] ∧ r.Meet σ.rest τ.rest := by
  rcases r.step h with ⟨hkind, -⟩ | ⟨hkind, -⟩ | hrest
  · rw [hkind] at hplain
    cases hplain
  · rw [hkind] at hplain
    cases hplain
  · exact hrest

end Twins

/-! ## Parsers at two places -/

namespace Parse

variable {α β : Type} {σ σ' σ'' : ParseState}

theorem bind_ok {p : Parse α} {f : α → Parse β} {b : β} (h : (p >>= f) σ = .ok (b, σ'')) :
    ∃ a σ', p σ = .ok (a, σ') ∧ f a σ' = .ok (b, σ'') := by
  obtain ⟨⟨a, σ'⟩, hp, hf⟩ := exists_of_bind_ok h
  exact ⟨a, σ', hp, hf⟩

theorem advance_ok {t : Token} (h : advance σ = .ok (t, σ')) : t = σ.current ∧
    (σ.rest = [] ∧ σ'.current.kind = .finish ∨ σ.rest = σ'.words) := by
  obtain ⟨current, rest, waiting, opened⟩ := σ
  match rest with
  | [] =>
    cases h
    exact ⟨rfl, .inl ⟨rfl, rfl⟩⟩
  | .token next :: rest =>
    cases h
    exact ⟨rfl, .inr rfl⟩
  | .fault f :: rest => cases h

theorem look_ok {k : TokenKind} (h : look σ = .ok (k, σ')) :
    σ' = σ ∧ (σ.rest = [] ∨ Ahead [k] σ.rest) := by
  obtain ⟨current, rest, waiting, opened⟩ := σ
  match rest with
  | [] =>
    cases h
    exact ⟨rfl, .inl rfl⟩
  | .token next :: rest =>
    cases h
    exact ⟨rfl, .inr ⟨rfl, trivial⟩⟩
  | .fault f :: rest => cases h

theorem kind_ok {k : TokenKind} (h : kind σ = .ok (k, σ')) : k = σ.current.kind ∧ σ' = σ := by
  cases h
  exact ⟨rfl, rfl⟩

theorem discard_advance_ok (h : discard advance σ = .ok ((), σ')) : ∃ t, advance σ = .ok (t, σ') := by
  obtain ⟨current, rest, waiting, opened⟩ := σ
  match rest with
  | [] =>
    cases h
    exact ⟨_, rfl⟩
  | .token t :: rest =>
    cases h
    exact ⟨_, rfl⟩
  | .fault f :: rest => cases h

theorem not_unexpected {a : α} {wanted : String} : unexpected wanted σ ≠ .ok (a, σ') := by
  intro h
  obtain ⟨k, σ₁, -, hk⟩ := bind_ok h
  cases k <;> cases hk

/-- Whether all that a parser finds has a property. -/
def Gives (p : Parse α) (P : α → Prop) : Prop := ∀ ⦃σ a σ'⦄, p σ = .ok (a, σ') → P a

theorem Gives.pure {P : α → Prop} {a : α} (h : P a) : Gives (pure a) P := by
  intro σ a' σ' hrun
  cases hrun
  exact h

theorem Gives.bind {P : β → Prop} {p : Parse α} {f : α → Parse β} (h : ∀ a, Gives (f a) P) : Gives (p >>= f) P := by
  intro σ b σ' hrun
  obtain ⟨a, σ₁, -, hf⟩ := bind_ok hrun
  exact h a hf

end Parse

open Parse

namespace Twins

variable (r : Twins) {α β : Type} [Lined α] [Lined β]

/-- Whether two parsers find the same at both places, from words of some kinds on, and stop at the same words; or what
    the first one finds is as it may be when the statement has been found. -/
def Alike (E : α → Prop) (ks : List TokenKind) (p q : Parse α) : Prop :=
  ∀ ⦃σ τ : ParseState⦄, r.Meet σ.words τ.words → Ahead ks σ.words → ∀ ⦃a σ' b τ'⦄, p σ = .ok (a, σ') →
    q τ = .ok (b, τ') → b = reline r.there a ∧ r.Meet σ'.words τ'.words ∨ E a

/-- What is found when the statement cannot have been. -/
def Never (_ : α) : Prop := False

namespace Alike

variable {r} {E : β → Prop} {ks : List TokenKind} {k : TokenKind}

/-! ### Steps -/

section Steps

variable {p q : Parse α} {f g : α → Parse β} {p' q' : Parse β}

/-- A step that may have found the statement, where the rest makes of it what it may be. -/
theorem bind_found {E' : α → Prop} (h : r.Alike E' ks p q) (hf : ∀ a, r.Alike E [] (f a) (g (reline r.there a)))
    (hE : ∀ a, E' a → Gives (f a) E) : r.Alike E ks (p >>= f) (q >>= g) := by
  intro σ τ hmeet hks b σ'' b' τ'' hrun hrun'
  obtain ⟨a, σ', hp, hfa⟩ := bind_ok hrun
  obtain ⟨a', τ', hq, hga⟩ := bind_ok hrun'
  rcases h hmeet hks hp hq with ⟨rfl, hmeet'⟩ | ha
  · exact hf a hmeet' trivial hfa hga
  · exact .inr (hE a ha hfa)

theorem bind (h : r.Alike Never ks p q) (hf : ∀ a, r.Alike E [] (f a) (g (reline r.there a))) :
    r.Alike E ks (p >>= f) (q >>= g) :=
  bind_found h hf fun _ => False.elim

theorem pure {a b : β} (h : b = reline r.there a) : r.Alike E ks (pure a) (pure b) := by
  intro σ τ hmeet _ a' σ' b' τ' hrun hrun'
  cases hrun
  cases hrun'
  exact .inl ⟨h, hmeet⟩

theorem mono (h : r.Alike E [] p' q') : r.Alike E ks p' q' := fun _ _ hmeet _ => h hmeet trivial

theorem found (h : r.Alike Never ks p' q') : r.Alike E ks p' q' :=
  fun _ _ hmeet hks _ _ _ _ hrun hrun' => (h hmeet hks hrun hrun').imp_right False.elim

theorem map {f g : α → β} (h : r.Alike Never ks p q) (hf : ∀ a, g (reline r.there a) = reline r.there (f a)) :
    r.Alike E ks (f <$> p) (g <$> q) := by
  rw [map_eq_pure_bind, map_eq_pure_bind]
  exact h.bind fun a => pure (hf a)

theorem ite {c : Prop} [Decidable c] (hyes : c → r.Alike E ks p' q') {p'' q'' : Parse β}
    (hno : ¬c → r.Alike E ks p'' q'') : r.Alike E ks (if c then p' else p'') (if c then q' else q'') := by
  by_cases hc : c
  · rw [if_pos hc, if_pos hc]
    exact hyes hc
  · rw [if_neg hc, if_neg hc]
    exact hno hc

/-- A step that is left out or not. -/
theorem optional {c : Prop} [Decidable c] {s s' : Parse Unit} (hs : r.Alike Never [] s s') (h : r.Alike E [] p' q') :
    r.Alike E [] (if c then s >>= fun _ => p' else p') (if c then s' >>= fun _ => q' else q') :=
  ite (fun _ => hs.bind fun _ => h) fun _ => h

/-- Two ways that come together again. -/
theorem join {c c' : Parse Bool} {p₁ q₁ : Parse α} (hc : r.Alike Never [] c c') (htrue : r.Alike Never [] p q)
    (hfalse : r.Alike Never [] p₁ q₁) (hf : ∀ a, r.Alike E [] (f a) (g (reline r.there a))) :
    r.Alike E [] (c >>= fun b => if b = true then p >>= f else p₁ >>= f)
      (c' >>= fun b => if b = true then q >>= g else q₁ >>= g) :=
  hc.bind fun _ => ite (fun _ => htrue.bind hf) fun _ => hfalse.bind hf

theorem failAt (line : Nat) (cause : SyntaxCause) : r.Alike E ks (failAt line cause) q' :=
  fun _ _ _ _ _ _ _ _ hrun => nomatch hrun

theorem fail (cause : SyntaxCause) : r.Alike E ks (fail cause) q' :=
  fun _ _ _ _ _ _ _ _ hrun => nomatch hrun

omit [Lined α] in
theorem fail_bind (cause : SyntaxCause) : r.Alike E ks (Parse.fail cause >>= f) q' :=
  fun _ _ _ _ _ _ _ _ hrun => nomatch hrun

omit [Lined α] in
theorem failAt_bind (line : Nat) (cause : SyntaxCause) : r.Alike E ks (Parse.failAt line cause >>= f) q' :=
  fun _ _ _ _ _ _ _ _ hrun => nomatch hrun

end Steps

/-! ### Words -/

section Words

variable {p q p' q' : Parse β}

/-- The rest may depend on the kind of the current word, whatever it is. -/
theorem byKind (h : ∀ k, r.Alike E [k] p q) : r.Alike E [] p q :=
  fun σ _ hmeet _ => h σ.current.kind hmeet ⟨rfl, trivial⟩

theorem current {f g : Token → Parse β} (h : ∀ t, r.Alike E [t.kind] (f t) (g (reline r.there t))) :
    r.Alike E [] (current >>= f) (current >>= g) := by
  intro σ τ hmeet _ b σ'' b' τ'' hrun hrun'
  have hrun : f σ.current σ = .ok (b, σ'') := hrun
  have hrun' : g τ.current τ = .ok (b', τ'') := hrun'
  rw [current_of_meet hmeet] at hrun'
  exact h σ.current hmeet ⟨rfl, trivial⟩ hrun hrun'

theorem kind {f g : TokenKind → Parse β} (h : ∀ k, r.Alike E [k] (f k) (g k)) :
    r.Alike E [] (kind >>= f) (kind >>= g) :=
  current (f := fun t => f t.kind) (g := fun t => g t.kind) fun t => h t.kind

theorem line {f g : Nat → Parse β} (h : ∀ n, r.Alike E ks (f n) (g (r.there n))) :
    r.Alike E ks (line >>= f) (line >>= g) := by
  intro σ τ hmeet hks b σ'' b' τ'' hrun hrun'
  have hrun : f σ.current.line σ = .ok (b, σ'') := hrun
  have hrun' : g τ.current.line τ = .ok (b', τ'') := hrun'
  rw [current_of_meet hmeet] at hrun'
  exact h σ.current.line hmeet hks hrun hrun'

theorem advance {f g : Token → Parse β} (hk : k.isPlain = true)
    (h : ∀ line, r.Alike E ks (f ⟨line, k⟩) (g ⟨r.there line, k⟩)) :
    r.Alike E (k :: ks) (advance >>= f) (advance >>= g) := by
  intro σ τ hmeet hks b σ'' b' τ'' hrun hrun'
  obtain ⟨t, σ', hadvance, hf⟩ := bind_ok hrun
  obtain ⟨t', τ', hadvance', hg⟩ := bind_ok hrun'
  have hkind : σ.current.kind = k := hks.1
  obtain ⟨hne, hrest⟩ := rest_of_meet hmeet (by rw [hkind]; exact hk)
  obtain ⟨rfl, ⟨hnil, -⟩ | hwords⟩ := advance_ok hadvance
  · exact absurd hnil hne
  obtain ⟨rfl, ⟨hnil, -⟩ | hwords'⟩ := advance_ok hadvance'
  · rw [hwords, hnil] at hrest
    -- the second place cannot end where the first one goes on
    obtain ⟨vs, hvs⟩ := r.head hrest
    cases hvs
  rw [hwords, hwords'] at hrest
  rw [current_of_meet hmeet] at hg
  obtain ⟨⟨line, kind⟩, rest, waiting, opened⟩ := σ
  cases hkind
  exact h line hrest (by rw [← hwords]; exact hks.2) hf hg

/-- A word that is not wanted. -/
theorem advance_fail {f : Token → Parse β} {cause : SyntaxCause} (h : ∀ line, f ⟨line, k⟩ = Parse.failAt line cause) :
    r.Alike E [k] (Parse.advance >>= f) q := by
  intro σ τ hmeet hks b σ'' b' τ'' hrun
  obtain ⟨t, σ', hadvance, hf⟩ := bind_ok hrun
  obtain ⟨rfl, -⟩ := advance_ok hadvance
  obtain ⟨⟨line, kind⟩, rest, waiting, opened⟩ := σ
  cases hks.1
  rw [h] at hf
  cases hf

theorem discard_advance (hk : k.isPlain = true) (h : r.Alike E ks p q) :
    r.Alike E (k :: ks) (discard Parse.advance >>= fun _ => p) (discard Parse.advance >>= fun _ => q) := by
  have hdiscard (p : Parse β) : (discard Parse.advance >>= fun _ => p) = Parse.advance >>= fun _ => p := by
    simp only [discard, Functor.discard, map_const, Function.comp_apply, bind_map_left]
  rw [hdiscard, hdiscard]
  exact advance hk fun _ => h

theorem look {f g : TokenKind → Parse β} (hk : k.isPlain = true) (h : ∀ k', r.Alike E [k, k'] (f k') (g k')) :
    r.Alike E [k] (look >>= f) (look >>= g) := by
  intro σ τ hmeet hks b σ'' b' τ'' hrun hrun'
  obtain ⟨k₁, σ', hlook, hf⟩ := bind_ok hrun
  obtain ⟨k₂, τ', hlook', hg⟩ := bind_ok hrun'
  have hkind : σ.current.kind = k := hks.1
  obtain ⟨hne, hrest⟩ := rest_of_meet hmeet (by rw [hkind]; exact hk)
  obtain ⟨rfl, hnil | hahead⟩ := look_ok hlook
  · exact absurd hnil hne
  have hahead' := ahead_of_meet hrest hahead
  obtain ⟨rfl, hnil | hthere⟩ := look_ok hlook'
  · rw [hnil] at hahead'
    exact hahead'.elim
  cases ahead_unique hahead' hthere
  exact h k₁ hmeet ⟨hkind, hahead⟩ hf hg

theorem wordsLeft {f g : Nat → Parse β} (h : ∀ n n', r.Alike E ks (f n) (g n')) :
    r.Alike E ks (wordsLeft >>= f) (wordsLeft >>= g) :=
  fun _ _ hmeet hks _ _ _ _ hrun hrun' => h _ _ hmeet hks hrun hrun'

theorem isSign (s : Sign) : r.Alike Never [] (isSign s) (isSign s) := kind fun _ => pure rfl

theorem isName (n : String) : r.Alike Never [] (isName n) (isName n) := kind fun _ => pure rfl

/-- A word that may be a sign. -/
theorem ifSign (s : Sign) (htrue : r.Alike E [.sign s] p q) (hfalse : r.Alike E [] p' q') :
    r.Alike E [] (Parse.isSign s >>= fun b => if b = true then p else p')
      (Parse.isSign s >>= fun b => if b = true then q else q') := by
  refine kind (f := fun k => if (k == .sign s) = true then p else p') fun k => ite (fun hk => ?_) fun _ => hfalse.mono
  rw [beq_iff_eq.mp hk]
  exact htrue

/-- A word that may be a name. -/
theorem ifName (n : String) (htrue : r.Alike E [.name n] p q) (hfalse : r.Alike E [] p' q') :
    r.Alike E [] (Parse.isName n >>= fun b => if b = true then p else p')
      (Parse.isName n >>= fun b => if b = true then q else q') := by
  refine kind (f := fun k => if (k == .name n) = true then p else p') fun k => ite (fun hk => ?_) fun _ => hfalse.mono
  rw [beq_iff_eq.mp hk]
  exact htrue

theorem skipSign (s : Sign) : r.Alike Never ks (skipSign s) (skipSign s) :=
  (ifSign s (discard_advance rfl (pure rfl)) (pure rfl)).mono

theorem skipName (n : String) : r.Alike Never ks (skipName n) (skipName n) :=
  (ifName n (discard_advance rfl (pure rfl)) (pure rfl)).mono

theorem unexpected (wanted : String) : r.Alike E ks (unexpected wanted) q :=
  fun _ _ _ _ _ _ _ _ hrun => (not_unexpected hrun).elim

theorem expectSign (s : Sign) : r.Alike Never ks (expectSign s) (expectSign s) := by
  refine (ifSign s ?_ (unexpected _)).mono
  rw [← bind_pure Parse.advance]
  exact advance rfl fun _ => pure rfl

theorem expectName (n : String) : r.Alike Never ks (expectName n) (expectName n) := by
  refine (ifName n ?_ (unexpected _)).mono
  rw [← bind_pure Parse.advance]
  exact advance rfl fun _ => pure rfl

theorem expectAnyName : r.Alike Never ks expectAnyName expectAnyName := by
  refine (current fun t => ?_).mono
  obtain ⟨line, k⟩ := t
  cases k with
  | name n => exact discard_advance rfl (pure rfl)
  | _ => exact unexpected _

theorem discarded {p q : Parse α} (h : r.Alike Never ks p q) : r.Alike Never ks (discard p) (discard q) :=
  map h fun _ => rfl

theorem discard {p q : Parse α} {f g : Unit → Parse β} (h : r.Alike Never ks p q) (hf : r.Alike E [] (f ()) (g ())) :
    r.Alike E ks (discard p >>= f) (discard q >>= g) :=
  (discarded h).bind fun _ => hf

end Words

end Alike

end Twins

/-! ## Loops -/

namespace Parse

variable {α β α' β' : Type} {step : α → Parse (α ⊕ β)} {step' : α' → Parse (α' ⊕ β')}

theorem iterate_ok {a : α} {σ σ' : ParseState} {c : β} (h : iterate step a σ = .ok (c, σ')) :
    ∃ n, iterateWithin step n a σ = .ok (c, σ') := ⟨_, h⟩

theorem iterateWithin_ok {n : Nat} {a : α} {σ σ'' : ParseState} {c : β}
    (h : iterateWithin step n a σ = .ok (c, σ'')) : ∃ m x σ', n = m + 1 ∧ step a σ = .ok (x, σ') ∧
      ((∃ a', x = .inl a' ∧ iterateWithin step m a' σ' = .ok (c, σ'')) ∨ x = .inr c ∧ σ' = σ'') := by
  cases n with
  | zero => cases h
  | succ m =>
    obtain ⟨x, σ', hstep, hrest⟩ := bind_ok h
    refine ⟨m, x, σ', rfl, hstep, ?_⟩
    cases x with
    | inl a' => exact .inl ⟨a', rfl, hrest⟩
    | inr c' =>
      cases hrest
      exact .inr ⟨rfl, rfl⟩

/-- What the steps of a loop keep holds at its end. -/
theorem iterateWithin_keeps {L : α ⊕ β → ParseState → Prop}
    (hlost : ∀ {a σ}, L (.inl a) σ → ∀ {x σ'}, step a σ = .ok (x, σ') → L x σ') :
    ∀ {n : Nat} {a : α} {σ σ' : ParseState} {c : β}, L (.inl a) σ → iterateWithin step n a σ = .ok (c, σ') →
      L (.inr c) σ' := by
  intro n
  induction n with
  | zero => exact fun _ h => nomatch h
  | succ n ih =>
    intro a σ σ' c hl h
    obtain ⟨m, x, σ₁, hn, hstep, ⟨a', rfl, hrest⟩ | ⟨rfl, rfl⟩⟩ := iterateWithin_ok h
    · cases hn
      exact ih (hlost hl hstep) hrest
    · exact hlost hl hstep

/-- **Two loops** go round together while an invariant `I` holds of both, and end together with `Q`; or the first one
    has come to `L`, and stays there. -/
theorem iterate_rule {I : α → ParseState → α' → ParseState → Prop} {Q : β → ParseState → β' → ParseState → Prop}
    {L : α ⊕ β → ParseState → Prop}
    (hstep : ∀ {a σ b τ}, I a σ b τ → ∀ {x σ' y τ'}, step a σ = .ok (x, σ') → step' b τ = .ok (y, τ') →
      Sum.LiftRel (I · σ' · τ') (Q · σ' · τ') x y ∨ L x σ')
    (hlost : ∀ {a σ}, L (.inl a) σ → ∀ {x σ'}, step a σ = .ok (x, σ') → L x σ') {a : α} {b : α'}
    {σ τ σ' τ' : ParseState} {c : β} {d : β'} (hI : I a σ b τ) (h : iterate step a σ = .ok (c, σ'))
    (h' : iterate step' b τ = .ok (d, τ')) : Q c σ' d τ' ∨ L (.inr c) σ' := by
  obtain ⟨n, hloop⟩ := iterate_ok h
  obtain ⟨n', hloop'⟩ := iterate_ok h'
  clear h h'
  -- the two loops may be given different numbers of rounds
  induction n generalizing n' a b σ τ with
  | zero => cases hloop
  | succ n ih =>
    obtain ⟨m, x, σ₁, hn, hrun, hrest⟩ := iterateWithin_ok hloop
    obtain ⟨m', y, τ₁, -, hrun', hrest'⟩ := iterateWithin_ok hloop'
    cases hn
    rcases hstep hI hrun hrun' with hlift | hl
    · cases hlift with
      | inl hnext =>
        obtain ⟨_, heq, hgo⟩ | ⟨hend, -⟩ := hrest
        · cases heq
          obtain ⟨_, heq, hgo'⟩ | ⟨hend, -⟩ := hrest'
          · cases heq
            exact ih hnext hgo m' hgo'
          · cases hend
        · cases hend
      | inr hlast =>
        obtain ⟨_, heq, -⟩ | ⟨hend, rfl⟩ := hrest
        · cases heq
        · cases hend
          obtain ⟨_, heq, -⟩ | ⟨hend', rfl⟩ := hrest'
          · cases heq
          · cases hend'
            exact .inl hlast
    · right
      obtain ⟨a', rfl, hgo⟩ | ⟨rfl, rfl⟩ := hrest
      · exact iterateWithin_keeps hlost hl hgo
      · exact hl

end Parse

namespace Twins.Alike

variable {r : Twins} {α β : Type} [Lined α] [Lined β] {ks : List TokenKind}

theorem iterate {step step' : α → Parse (α ⊕ β)} (h : ∀ a, r.Alike Never [] (step a) (step' (reline r.there a))) {a b : α}
    (hb : b = reline r.there a) : r.Alike Never ks (iterate step a) (iterate step' b) := by
  intro σ τ hmeet _ c σ' d τ' hrun hrun'
  subst hb
  refine iterate_rule (I := fun a σ b τ => b = reline r.there a ∧ r.Meet σ.words τ.words)
    (Q := fun a σ b τ => b = reline r.there a ∧ r.Meet σ.words τ.words) (L := fun _ _ => False)
    (fun hI x σ' y τ' hx hy => ?_) (fun hl => hl.elim) ⟨rfl, hmeet⟩ hrun hrun'
  obtain ⟨rfl, hmeet⟩ := hI
  refine (h _ hmeet trivial hx hy).imp_left ?_
  rintro ⟨rfl, hmeet'⟩
  cases x with
  | inl a' => exact .inl ⟨rfl, hmeet'⟩
  | inr c' => exact .inr ⟨rfl, hmeet'⟩

end Twins.Alike

end RenderBench.Template
