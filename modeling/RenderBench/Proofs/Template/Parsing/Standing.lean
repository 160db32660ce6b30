import RenderBench.Proofs.Template.Parsing.Bodies

/-!
# `Proofs.Template.Parsing.Standing` — a statement that stands in a document

A statement's words stand at one place by themselves and at another one in a document, on other lines and with other
words around them. The reading of the document comes to them, since nothing but contents goes past the beginning of a
tag, and there it reads what the statement is by itself.

## Contents
- `Twins.moved`: words by themselves, and on other lines with others behind them.
- `Twins.visiting`: words of a document on the way to a statement.
- `statement_of_parse`: what is read of words that are one statement.
- `found_of_parse`: a document is read by reading the statement.
- `blocksOf_sublist_of_parse`: the blocks of the statement are among those of the document.
-/

namespace RenderBench.Template

open Parse RenderBench.Template.Parser
open Lined (reline)

/-! ## Places -/

theorem Lexeme.reline_id (x : Lexeme) : x.reline id = x := by
  cases x <;> rfl

/-- Words by themselves, which end with the end of a tag, and the same words on other lines with others behind them. -/
def Twins.moved (line : Nat → Nat) : Twins where
  Ends := True
  there := line
  Meet ws vs := EndsTag ws ∧ Alternating ws ∧ ∃ rest, vs = ws.map (Lexeme.reline line) ++ rest
  Spot _ := False
  head := fun ⟨_, _, rest, hvs⟩ => ⟨_, hvs⟩
  step := fun {t ws y vs} ⟨hends, halternating, rest, hvs⟩ => by
    rcases hends.nil_or with rfl | hrest
    · obtain ⟨line, hlast⟩ := hends
      cases hlast
      exact .inl ⟨rfl, rfl, trivial⟩
    · refine .inr (.inr ⟨?_, hrest, halternating.2, rest, (List.cons.inj hvs).2⟩)
      rintro rfl
      exact EndsTag.not_nil hrest
  outside := fun ⟨_, halternating, _⟩ => halternating.1
  spot_block := False.elim

/-- The words of a document on the way to a statement, behind the beginning of its tag. -/
def Twins.visiting (line : Nat) {words : List Lexeme} (hblock : Ahead [.name "block"] words) : Twins where
  Ends := False
  there := id
  Meet ws vs := vs = ws ∧ Alternating ws ∧ .token ⟨line, .tagBegin⟩ :: words <:+ ws
  Spot ws := ws = words
  head := fun {x ws vs} ⟨hvs, _⟩ => ⟨ws, by rw [hvs, x.reline_id]⟩
  step := fun {t ws y vs} ⟨hvs, halternating, hsuffix⟩ => by
    rcases List.suffix_cons_iff.mp hsuffix with heq | hrest
    · cases heq
      exact .inr (.inl ⟨rfl, rfl⟩)
    · refine .inr (.inr ⟨?_, (List.cons.inj hvs).2, halternating.2, hrest⟩)
      rintro rfl
      cases List.suffix_nil.mp hrest
  outside := fun ⟨_, halternating, _⟩ => halternating.1
  spot_block := fun h => h ▸ hblock

/-! ## Readings -/

theorem parseLexemes_ok {α : Type} {p : Parse α} {x : Lexeme} {words : List Lexeme} {a : α}
    (h : parseLexemes p (x :: words) = .ok a) :
    ∃ σ σ' : ParseState, σ.words = x :: words ∧ p σ = .ok (a, σ') := by
  unfold parseLexemes at h
  dsimp only at h
  split at h
  · rename_i hrun
    cases h
    obtain ⟨_, σ, hadvance, hp⟩ := bind_ok hrun
    obtain ⟨t, ht⟩ := discard_advance_ok hadvance
    rcases (advance_ok ht).2 with ⟨hnil, -⟩ | hwords
    · cases hnil
    · exact ⟨σ, _, hwords.symm, hp⟩
  · cases h

theorem statements_ok {σ σ' : ParseState} {ss : List Stmt} (h : statements σ = .ok (ss, σ')) :
    ∃ n, contents (bodyWithin n) [] σ = .ok (ss, σ') := by
  obtain ⟨n, σ₁, hleft, h⟩ := bind_ok h
  cases hleft
  exact ⟨_, h⟩

/-- Words that are one statement are read by reading that statement behind the beginning of its tag. -/
theorem statement_of_parse {line : Nat} {words : List Lexeme} {st : Stmt} (hblock : Ahead [.name "block"] words)
    (h : parseStatements (.token ⟨line, .tagBegin⟩ :: words) = .ok [st]) :
    ∃ n σ σ', σ.words = words ∧ statement (bodyWithin n) σ = .ok (st, σ') := by
  obtain ⟨σ, σ', hwords, hrun⟩ := parseLexemes_ok h
  obtain ⟨n, hrun⟩ := statements_ok hrun
  rw [contents_open] at hrun
  obtain ⟨m, hrun⟩ := iterate_ok hrun
  obtain ⟨m, x, σ₁, rfl, hstep, hrest⟩ := iterateWithin_ok hrun
  obtain ⟨k, σ₂, hk, hstep⟩ := bind_ok hstep
  obtain ⟨rfl, rfl⟩ := kind_ok hk
  have hcurrent : σ₂.current = ⟨line, .tagBegin⟩ := Lexeme.token.inj (List.cons.inj hwords).1
  have hafter : σ₂.rest = words := (List.cons.inj hwords).2
  rw [hcurrent] at hstep
  obtain ⟨_, σ₃, hadvance, hstep⟩ := bind_ok hstep
  obtain ⟨t, hadvance⟩ := discard_advance_ok hadvance
  rw [← hafter] at hblock ⊢
  obtain hnil | hσ₃ : σ₂.rest = [] ∨ σ₂.rest = σ₃.words := (advance_ok hadvance).2.imp_left And.left
  · rw [hnil] at hblock
    exact hblock.elim
  rw [hσ₃] at hblock ⊢
  obtain ⟨k, σ₃, hk, hstep⟩ := bind_ok hstep
  obtain ⟨rfl, rfl⟩ := kind_ok hk
  have hkind : σ₃.current.kind = .name "block" := hblock.1
  rw [hkind] at hstep
  obtain ⟨st', σ₄, hst, hstep⟩ := bind_ok hstep
  obtain ⟨_, σ₅, -, hstep⟩ := bind_ok hstep
  cases hstep
  -- what the later steps read comes after the statement
  have hone : [st'] <+: [st] := by
    obtain ⟨_, heq, hrest⟩ | ⟨hend, -⟩ := hrest
    · cases heq
      exact iterateWithin_keeps (L := fun y _ => [st'] <+: y.elim Prod.fst id)
        (fun h => fun {_ _} hrun => h.trans (contentsStep_extends _ hrun)) List.prefix_rfl hrest
    · cases hend
  obtain rfl : st' = st := List.cons.inj (hone.eq_of_length rfl) |>.1
  exact ⟨n, _, σ₄, rfl, hst⟩

/-- A document with a statement in it is read by reading that statement. -/
theorem found_of_parse {line : Nat} {words before : List Lexeme} (hblock : Ahead [.name "block"] words)
    (halternating : Alternating (before ++ .token ⟨line, .tagBegin⟩ :: words))
    (houtside : Outside (before ++ .token ⟨line, .tagBegin⟩ :: words)) {ss : List Stmt}
    (h : parseStatements (before ++ .token ⟨line, .tagBegin⟩ :: words) = .ok ss) :
    (Twins.visiting line hblock).HoldsAll ss := by
  obtain ⟨x, rest, hcons⟩ : ∃ x rest, before ++ .token ⟨line, .tagBegin⟩ :: words = x :: rest := by
    cases before <;> exact ⟨_, _, rfl⟩
  rw [hcons] at h
  obtain ⟨σ, σ', hwords, hrun⟩ := parseLexemes_ok h
  obtain ⟨n, hrun⟩ := statements_ok hrun
  rw [← hcons] at hwords
  -- the document is read beside itself, with the statement as the place looked for
  have hmeet : (Twins.visiting line hblock).Meet σ.words σ.words :=
    ⟨rfl, hwords ▸ halternating, before, hwords.symm⟩
  rcases Twins.contents_meet (Twins.bodies n n) (List.not_mem_nil) (.inl ⟨hmeet, hwords ▸ houtside⟩) hrun hrun with
    ⟨-, -, _, hnil, -⟩ | hholds | ⟨hends, -⟩
  · cases hnil
  · exact hholds
  · exact hends.elim

theorem ahead_map {k : TokenKind} {f : Nat → Nat} {words : List Lexeme} (h : Ahead [k] words) (rest : List Lexeme) :
    Ahead [k] (words.map (Lexeme.reline f) ++ rest) := by
  match words, h with
  | .token t :: words, h => exact ⟨h.1, trivial⟩

/-- **The blocks of a statement** that stands in a document are among those of the document, on other lines. -/
theorem blocksOf_sublist_of_parse {line : Nat} {words before rest : List Lexeme} {f : Nat → Nat} {st : Stmt}
    {ss : List Stmt} (hblock : Ahead [.name "block"] words) (hends : EndsTag (.token ⟨line, .tagBegin⟩ :: words))
    (hst : parseStatements (.token ⟨line, .tagBegin⟩ :: words) = .ok [st])
    (houtside : Outside (before ++ ((.token ⟨line, .tagBegin⟩ :: words).map (Lexeme.reline f) ++ rest)))
    (halternating : Alternating (before ++ ((.token ⟨line, .tagBegin⟩ :: words).map (Lexeme.reline f) ++ rest)))
    (hwords : Alternating words)
    (hss : parseStatements (before ++ ((.token ⟨line, .tagBegin⟩ :: words).map (Lexeme.reline f) ++ rest)) = .ok ss) :
    ((blocksOf st).map (Block.reline f)).Sublist (blocksOfAll ss) := by
  obtain ⟨found, ⟨n, σ, σ', hspot, hrun⟩, hsub⟩ := found_of_parse (ahead_map hblock rest) halternating houtside hss
  obtain ⟨m, τ, τ', hτ, hrun'⟩ := statement_of_parse hblock hst
  have hrest : EndsTag words := hends.of_cons fun _ h => nomatch h
  have hmeet : (Twins.moved f).Meet τ.words σ.words := ⟨hτ ▸ hrest, hτ ▸ hwords, rest, by rw [hτ]; exact hspot⟩
  -- the statement alone and the statement in the document, whose place goes on behind it
  have halike := Twins.Alike.statement (r := Twins.moved f) (Twins.bodies m n)
  rcases halike hmeet trivial hrun' hrun with ⟨rfl, -⟩ | ⟨_, ⟨_, _, _, hnever, _⟩, _⟩
  · rw [← blocksOf_reline]
    exact hsub
  · exact hnever.elim

end RenderBench.Template
