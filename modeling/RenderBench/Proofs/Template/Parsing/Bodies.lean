import RenderBench.Proofs.Template.Parsing.Statements

/-!
# `Proofs.Template.Parsing.Bodies` — bodies at two places

The contents of a body are read one text, output or statement at a time. At two places the readings go on together
until the first place ends or the statement that is looked for has been read. A body must not end with its place, and
so two parsers of bodies find the same.

## Contents
- `Twins.meet_advance`: going past a word.
- `tagStep`, `contentsStep`, `contents_open`: one step of reading contents.
- `contentsStep_extends`: what was read stays.
- `Twins.contentsStep_meet`, `Twins.contents_meet`: contents at two places.
- `Twins.bodies`: bodies at two places.
-/

namespace RenderBench.Template

open Parse RenderBench.Template.Parser
open Lined (reline)

/-! ## Contents and bodies -/

namespace Twins

variable {r : Twins} {σ τ σ' τ' : ParseState} {tags : List String} {body body' : Body}

theorem kind_of_meet (h : r.Meet σ.words τ.words) : τ.current.kind = σ.current.kind := by
  rw [current_of_meet h]
  rfl

/-- Going past a word leads from the same words to the same words, but where the first place ends, and where the
    statement begins that is looked for. -/
theorem meet_advance (hmeet : r.Meet σ.words τ.words) {t t' : Token} (h : advance σ = .ok (t, σ'))
    (h' : advance τ = .ok (t', τ')) :
    (t.kind = .tagEnd ∧ r.Ends ∧ σ'.current.kind = .finish) ∨ (t.kind = .tagBegin ∧ r.Spot σ'.words) ∨
      r.Meet σ'.words τ'.words ∧ (t.kind.closes = true → Outside σ'.words) := by
  obtain ⟨rfl, hσ⟩ := advance_ok h
  obtain ⟨rfl, hτ⟩ := advance_ok h'
  rcases r.step hmeet with ⟨hkind, hnil, hends⟩ | ⟨hkind, hspot⟩ | ⟨hne, hrest⟩
  · refine .inl ⟨hkind, hends, ?_⟩
    rcases hσ with ⟨-, hfinish⟩ | hwords
    · exact hfinish
    · rw [hnil] at hwords
      cases hwords
  · rcases hσ with ⟨hnil, -⟩ | hwords
    · rw [hnil] at hspot
      exact (r.spot_block hspot).elim
    · exact .inr (.inl ⟨hkind, hwords ▸ hspot⟩)
  · rcases hσ with ⟨hnil, -⟩ | hwords
    · exact absurd hnil hne
    have houtside := r.outside hmeet
    rw [hwords] at hrest houtside
    rcases hτ with ⟨hnil, -⟩ | hwords'
    · rw [hnil] at hrest
      obtain ⟨vs, hvs⟩ := r.head hrest
      cases hvs
    · exact .inr (.inr ⟨hwords' ▸ hrest, houtside⟩)

/-- A word that had to come has been passed. -/
theorem expect_ok {k : TokenKind} {expected : String}
    (h : (do if (← kind) == k then discard advance else unexpected expected : Parse Unit) σ = .ok ((), σ')) :
    ∃ t, advance σ = .ok (t, σ') ∧ t.kind = k := by
  obtain ⟨k', σ₁, hk, h⟩ := bind_ok h
  obtain ⟨rfl, rfl⟩ := kind_ok hk
  split at h
  · rename_i hkind
    obtain ⟨t, ht⟩ := discard_advance_ok h
    exact ⟨t, ht, (congrArg Token.kind (advance_ok ht).1).trans (beq_iff_eq.mp hkind)⟩
  · exact (not_unexpected h).elim

end Twins

/-- Whether a word is the name of a tag that ends a body. -/
def endsBody (tags : List String) : TokenKind → Bool
  | .name n => tags.contains n
  | _ => false

/-- A statement behind the beginning of its tag, unless the tag ends the body. -/
def tagStep (body : Body) (tags : List String) (done : List Stmt) : Parse ((List Stmt × List Piece) ⊕ List Stmt) := do
  if endsBody tags (← kind) then return .inr done
  let s ← statement body
  expectTagEnd
  return .inl (done ++ [s], [])

/-- One text, one output or one statement. -/
def contentsStep (body : Body) (tags : List String) (x : List Stmt × List Piece) :
    Parse ((List Stmt × List Piece) ⊕ List Stmt) := do
  match ← kind with
  | .data s =>
    discard advance
    return .inl (x.1, if s.isEmpty then x.2 else x.2 ++ [.text s])
  | .printBegin =>
    discard advance
    let e ← sequence true
    expectPrintEnd
    return .inl (x.1, x.2 ++ [.value e])
  | .tagBegin =>
    discard advance
    tagStep body tags (flush x.1 x.2)
  | _ => return .inr (flush x.1 x.2)

theorem contents_open (body : Body) (tags : List String) :
    contents body tags = iterate (contentsStep body tags) ([], []) := by
  refine congrArg (iterate · _) (funext fun x => congrArg (kind >>= ·) (funext fun k => ?_))
  cases k with
  | tagBegin =>
    refine congrArg (discard advance >>= ·) (funext fun _ => congrArg (kind >>= ·) (funext fun k => ?_))
    cases k <;> rfl
  | _ => rfl

theorem flush_reline {f : Nat → Nat} (done : List Stmt) (pieces : List Piece) :
    flush (reline f done) (reline f pieces) = reline f (flush done pieces) := by
  unfold Parser.flush
  rw [Lined.isEmpty_reline]
  split <;> simp [reline, Stmt.reline]

theorem prefix_flush (done : List Stmt) (pieces : List Piece) : done <+: flush done pieces := by
  unfold Parser.flush
  split
  · exact List.prefix_rfl
  · exact List.prefix_append _ _

/-- What was read stays. -/
theorem contentsStep_extends {body : Body} {tags : List String} (x : List Stmt × List Piece) :
    Gives (contentsStep body tags x) fun y => x.1 <+: y.elim Prod.fst id := by
  have hflush := prefix_flush x.1 x.2
  refine .bind fun k => ?_
  split
  · exact .bind fun _ => .pure List.prefix_rfl
  · exact .bind fun _ => .bind fun _ => .bind fun _ => .pure List.prefix_rfl
  · refine .bind fun _ => .bind fun k => ?_
    split
    · exact .pure hflush
    · exact .bind fun st => .bind fun _ => .pure (hflush.trans (List.prefix_append _ _))
  · exact .pure hflush

namespace Twins

variable {r : Twins} {σ τ σ' τ' : ParseState} {tags : List String} {body body' : Body}

/-- Whether the statement has been found among what was read, or the first place has ended. -/
def Lost (r : Twins) (x : (List Stmt × List Piece) ⊕ List Stmt) (σ : ParseState) : Prop :=
  r.HoldsAll (x.elim Prod.fst id) ∨ r.Ends ∧ σ.current.kind = .finish

theorem contentsStep_lost {x : List Stmt × List Piece} (h : r.Lost (.inl x) σ)
    {y : (List Stmt × List Piece) ⊕ List Stmt} (hrun : contentsStep body tags x σ = .ok (y, σ')) : r.Lost y σ' := by
  rcases h with h | ⟨hends, hfinish⟩
  · exact .inl (h.mono (contentsStep_extends _ hrun))
  · obtain ⟨k, σ₁, hk, hrun⟩ := bind_ok hrun
    obtain ⟨rfl, rfl⟩ := kind_ok hk
    rw [hfinish] at hrun
    cases hrun
    exact .inr ⟨hends, hfinish⟩

/-- Whether two runs are at the same words, outside of tags, with the same read so far. -/
def Between (r : Twins) (x : List Stmt × List Piece) (σ : ParseState) (y : List Stmt × List Piece) (τ : ParseState) :
    Prop :=
  y = reline r.there x ∧ r.Meet σ.words τ.words ∧ Outside σ.words

/-- Whether two runs are at the same name of a tag, with the same read. -/
def AtTag (r : Twins) (tags : List String) (a : List Stmt) (σ : ParseState) (b : List Stmt) (τ : ParseState) : Prop :=
  b = reline r.there a ∧ r.Meet σ.words τ.words ∧ ∃ n ∈ tags, Ahead [.name n] σ.words

/-- At the statement that is looked for it is read, since no body ends with a tag of its name. -/
theorem tagStep_spot {n : Nat} (htags : "block" ∉ tags) {done : List Stmt} (hspot : r.Spot σ.words)
    {x : (List Stmt × List Piece) ⊕ List Stmt} (hx : tagStep (bodyWithin n) tags done σ = .ok (x, σ')) :
    r.HoldsAll (x.elim Prod.fst id) := by
  obtain ⟨k, σ₁, hk, hx⟩ := bind_ok hx
  obtain ⟨rfl, rfl⟩ := kind_ok hk
  have hkind : σ₁.current.kind = .name "block" := (r.spot_block hspot).1
  have hno : ¬endsBody tags σ₁.current.kind = true := by
    rw [hkind]
    exact fun h => htags (List.contains_iff_mem.mp h)
  rw [if_neg hno] at hx
  obtain ⟨st, σ₂, hst, hx⟩ := bind_ok hx
  obtain ⟨_, σ₃, -, hx⟩ := bind_ok hx
  cases hx
  exact Holds.append (Found.holds ⟨n, σ₁, σ₂, hspot, hst⟩) done

/-- After the end of a statement's tag both are outside of tags, or the first place has ended. -/
theorem expectTagEnd_meet (hmeet : r.Meet σ.words τ.words) (h : expectTagEnd σ = .ok ((), σ'))
    (h' : expectTagEnd τ = .ok ((), τ')) :
    r.Meet σ'.words τ'.words ∧ Outside σ'.words ∨ r.Ends ∧ σ'.current.kind = .finish := by
  obtain ⟨t, ht, hkind⟩ := expect_ok h
  obtain ⟨t', ht', -⟩ := expect_ok h'
  rcases meet_advance hmeet ht ht' with ⟨-, hends⟩ | ⟨hbegin, -⟩ | ⟨hnext, hout⟩
  · exact .inr hends
  · rw [hkind] at hbegin
    cases hbegin
  · exact .inl ⟨hnext, hout (by rw [hkind]; rfl)⟩

theorem meet_advance_plain (hmeet : r.Meet σ.words τ.words) (h : discard advance σ = .ok ((), σ'))
    (h' : discard advance τ = .ok ((), τ')) (hplain : σ.current.kind.isPlain = true) :
    r.Meet σ'.words τ'.words ∧ (σ.current.kind.closes = true → Outside σ'.words) := by
  obtain ⟨t, ht⟩ := discard_advance_ok h
  obtain ⟨t', ht'⟩ := discard_advance_ok h'
  have htoken := (advance_ok ht).1
  subst htoken
  rcases meet_advance hmeet ht ht' with ⟨hkind, -⟩ | ⟨hkind, -⟩ | hnext
  · rw [hkind] at hplain
    cases hplain
  · rw [hkind] at hplain
    cases hplain
  · exact hnext

theorem expectPrintEnd_meet (hmeet : r.Meet σ.words τ.words) (h : expectPrintEnd σ = .ok ((), σ'))
    (h' : expectPrintEnd τ = .ok ((), τ')) : r.Meet σ'.words τ'.words ∧ Outside σ'.words := by
  obtain ⟨t, ht, hkind⟩ := expect_ok h
  obtain ⟨t', ht', -⟩ := expect_ok h'
  rcases meet_advance hmeet ht ht' with ⟨hend, -⟩ | ⟨hbegin, -⟩ | ⟨hnext, hout⟩
  · rw [hkind] at hend
    cases hend
  · rw [hkind] at hbegin
    cases hbegin
  · exact ⟨hnext, hout (by rw [hkind]; rfl)⟩

theorem tagStep_meet {n : Nat} (hbody : r.Bodies (bodyWithin n) body') {done : List Stmt}
    (hmeet : r.Meet σ.words τ.words) {x y : (List Stmt × List Piece) ⊕ List Stmt}
    (hx : tagStep (bodyWithin n) tags done σ = .ok (x, σ'))
    (hy : tagStep body' tags (reline r.there done) τ = .ok (y, τ')) :
    Sum.LiftRel (r.Between · σ' · τ') (r.AtTag tags · σ' · τ') x y ∨ r.Lost x σ' := by
  obtain ⟨k, σ₁, hk, hx⟩ := bind_ok hx
  obtain ⟨k', τ₁, hk', hy⟩ := bind_ok hy
  obtain ⟨rfl, rfl⟩ := kind_ok hk
  obtain ⟨rfl, rfl⟩ := kind_ok hk'
  rw [kind_of_meet hmeet] at hy
  by_cases hend : endsBody tags σ₁.current.kind = true
  · rw [if_pos hend] at hx
    rw [if_pos hend] at hy
    -- the name of an end: both have come to the tag that closes the body
    obtain ⟨n, hn, hkind⟩ : ∃ n ∈ tags, σ₁.current.kind = .name n := by
      cases hkind : σ₁.current.kind with
      | name n =>
        rw [hkind] at hend
        exact ⟨n, List.contains_iff_mem.mp hend, rfl⟩
      | _ =>
        rw [hkind] at hend
        cases hend
    cases hx
    cases hy
    exact .inl (.inr ⟨rfl, hmeet, n, hn, hkind, trivial⟩)
  · rw [if_neg hend] at hx
    rw [if_neg hend] at hy
    obtain ⟨st, σ₂, hst, hx⟩ := bind_ok hx
    obtain ⟨st', τ₂, hst', hy⟩ := bind_ok hy
    obtain ⟨_, σ₃, hσ, hx⟩ := bind_ok hx
    obtain ⟨_, τ₃, hτ, hy⟩ := bind_ok hy
    cases hx
    cases hy
    -- any other name begins a statement, which both read, unless it holds the one looked for
    rcases Alike.statement hbody hmeet trivial hst hst' with ⟨rfl, hmeet'⟩ | hholds
    · rcases expectTagEnd_meet hmeet' hσ hτ with hnext | hends
      · exact .inl (.inl ⟨by simp, hnext⟩)
      · exact .inr (.inr hends)
    · exact .inr (.inl (hholds.append done))

theorem contentsStep_meet {n : Nat} (hbody : r.Bodies (bodyWithin n) body') (htags : "block" ∉ tags)
    {p q : List Stmt × List Piece} (h : r.Between p σ q τ) {x y : (List Stmt × List Piece) ⊕ List Stmt}
    (hx : contentsStep (bodyWithin n) tags p σ = .ok (x, σ')) (hy : contentsStep body' tags q τ = .ok (y, τ')) :
    Sum.LiftRel (r.Between · σ' · τ') (r.AtTag tags · σ' · τ') x y ∨ r.Lost x σ' := by
  obtain ⟨rfl, hmeet, hout⟩ := h
  obtain ⟨done, pieces⟩ := p
  obtain ⟨k, σ₁, hk, hx⟩ := bind_ok hx
  obtain ⟨k', τ₁, hk', hy⟩ := bind_ok hy
  obtain ⟨rfl, rfl⟩ := kind_ok hk
  obtain ⟨rfl, rfl⟩ := kind_ok hk'
  rw [kind_of_meet hmeet] at hy
  -- outside of tags a word is text or opens something
  have hopens : σ₁.current.kind.opens = true := hout
  cases hkind : σ₁.current.kind with
  | data s =>
    rw [hkind] at hx hy
    obtain ⟨_, σ₂, hσ, hx⟩ := bind_ok hx
    obtain ⟨_, τ₂, hτ, hy⟩ := bind_ok hy
    cases hx
    cases hy
    obtain ⟨hnext, hout'⟩ := meet_advance_plain hmeet hσ hτ (by rw [hkind]; rfl)
    refine .inl (.inl ⟨?_, hnext, hout' (by rw [hkind]; rfl)⟩)
    split <;> simp [reline, Piece.reline]
  | printBegin =>
    rw [hkind] at hx hy
    obtain ⟨_, σ₂, hσ, hx⟩ := bind_ok hx
    obtain ⟨_, τ₂, hτ, hy⟩ := bind_ok hy
    obtain ⟨hnext, -⟩ := meet_advance_plain hmeet hσ hτ (by rw [hkind]; rfl)
    have hsequence : r.Alike Never [] (sequence true) (sequence true) := .sequence true
    obtain ⟨e, σ₃, he, hx⟩ := bind_ok hx
    obtain ⟨e', τ₃, he', hy⟩ := bind_ok hy
    obtain ⟨rfl, hnext⟩ := (hsequence hnext trivial he he').resolve_right id
    obtain ⟨_, σ₄, hσ', hx⟩ := bind_ok hx
    obtain ⟨_, τ₄, hτ', hy⟩ := bind_ok hy
    cases hx
    cases hy
    exact .inl (.inl ⟨by simp [reline, Piece.reline], expectPrintEnd_meet hnext hσ' hτ'⟩)
  | tagBegin =>
    rw [hkind] at hx hy
    obtain ⟨_, σ₂, hσ, hx⟩ := bind_ok hx
    obtain ⟨_, τ₂, hτ, hy⟩ := bind_ok hy
    obtain ⟨t, hσ⟩ := discard_advance_ok hσ
    obtain ⟨t', hτ⟩ := discard_advance_ok hτ
    replace hy : tagStep body' tags (flush (reline r.there done) (reline r.there pieces)) τ₂ = .ok (y, τ') := hy
    rw [flush_reline] at hy
    -- the tag may be that of the statement looked for
    rcases meet_advance hmeet hσ hτ with ⟨hend, -⟩ | ⟨-, hspot⟩ | ⟨hnext, -⟩
    · rw [(advance_ok hσ).1, hkind] at hend
      cases hend
    · exact .inr (.inl (tagStep_spot htags hspot hx))
    · exact tagStep_meet hbody hnext hx hy
  | _ =>
    rw [hkind] at hopens
    cases hopens

theorem contents_meet {n : Nat} (hbody : r.Bodies (bodyWithin n) body') (htags : "block" ∉ tags)
    (hstart : r.Meet σ.words τ.words ∧ Outside σ.words ∨ r.Ends ∧ σ.current.kind = .finish) {a b : List Stmt}
    (h : contents (bodyWithin n) tags σ = .ok (a, σ')) (h' : contents body' tags τ = .ok (b, τ')) :
    r.AtTag tags a σ' b τ' ∨ r.Lost (.inr a) σ' := by
  rw [contents_open] at h h'
  rcases hstart with ⟨hmeet, hout⟩ | hends
  · exact iterate_rule (I := r.Between) (Q := r.AtTag tags) (L := r.Lost) (fun h => fun {_ _ _ _} hx hy => contentsStep_meet hbody htags h hx hy)
      (fun h => fun {_ _} hx => contentsStep_lost h hx) ⟨rfl, hmeet, hout⟩ h h'
  · obtain ⟨m, h⟩ := iterate_ok h
    exact .inr (iterateWithin_keeps (L := r.Lost) (fun h => fun {_ _} hx => contentsStep_lost h hx) (.inr hends) h)

/-- What a body is read by: the end of its tag, its contents, and the next tag, which is gone past or not. -/
theorem bodyWithin_ok {n : Nat} {goPast : Bool} {a : List Stmt}
    (h : bodyWithin (n + 1) tags goPast σ = .ok (a, σ')) : ∃ σ₁ σ₂ σ₃ σ₄ σ₅ : ParseState,
      discard (skipSign .colon) σ = .ok ((), σ₁) ∧ expectTagEnd σ₁ = .ok ((), σ₂) ∧
      (σ₃.current = σ₂.current ∧ σ₃.words = σ₂.words) ∧ contents (bodyWithin n) tags σ₃ = .ok (a, σ₄) ∧
      σ₄.current.kind ≠ .finish ∧ σ₅.words = σ₄.words ∧
      (goPast = true ∧ discard advance σ₅ = .ok ((), σ') ∨ goPast = false ∧ σ' = σ₅) := by
  obtain ⟨_, σ₁, hcolon, h⟩ := bind_ok h
  obtain ⟨_, σ₂, hend, h⟩ := bind_ok h
  obtain ⟨_, _, hget, h⟩ := bind_ok h
  cases hget
  obtain ⟨_, σ₃, hset, h⟩ := bind_ok h
  cases hset
  obtain ⟨a', σ₄, hcontents, h⟩ := bind_ok h
  obtain ⟨_, σ₅, hmodify, h⟩ := bind_ok h
  cases hmodify
  obtain ⟨_, _, hk, h⟩ := bind_ok h
  obtain ⟨rfl, rfl⟩ := kind_ok hk
  dsimp only at h
  split at h
  · obtain ⟨_, _, -, h⟩ := bind_ok h
    obtain ⟨_, _, -, h⟩ := bind_ok h
    cases h
  · rename_i hfinish
    have hfinish : σ₄.current.kind ≠ .finish := fun hkind => hfinish (beq_iff_eq.mpr hkind)
    cases goPast with
    | true =>
      obtain ⟨_, σ₆, hpast, h⟩ := bind_ok h
      cases h
      exact ⟨σ₁, σ₂, { σ₂ with waiting := tags :: σ₂.waiting }, σ₄, { σ₄ with waiting := σ₂.waiting }, hcolon, hend,
        ⟨rfl, rfl⟩, hcontents, hfinish, rfl, .inl ⟨rfl, hpast⟩⟩
    | false =>
      cases h
      exact ⟨σ₁, σ₂, { σ₂ with waiting := tags :: σ₂.waiting }, σ₄, { σ₄ with waiting := σ₂.waiting }, hcolon, hend,
        ⟨rfl, rfl⟩, hcontents, hfinish, rfl, .inr ⟨rfl, rfl⟩⟩

theorem bodies : ∀ n n' : Nat, r.Bodies (bodyWithin n) (bodyWithin n')
  | 0, _ => fun _ _ _ _ _ _ _ _ _ _ hrun => nomatch hrun
  | _ + 1, 0 => fun _ _ _ _ _ _ _ _ _ _ _ hrun' => nomatch hrun'
  | n + 1, n' + 1 => by
    intro tags htags goPast σ τ hmeet a σ' b τ' hrun hrun'
    obtain ⟨σ₁, σ₂, σ₃, σ₄, σ₅, hcolon, hend, ⟨hcurrent, hwords⟩, hcontents, hfinish, hwords', hlast⟩ :=
      bodyWithin_ok hrun
    obtain ⟨τ₁, τ₂, τ₃, τ₄, τ₅, hcolon', hend', ⟨-, hwords₃⟩, hcontents', -, hwords₄, hlast'⟩ := bodyWithin_ok hrun'
    have hskip : r.Alike Never [] (discard (skipSign .colon)) (discard (skipSign .colon)) := .discarded (.skipSign _)
    obtain ⟨-, hmeet⟩ := (hskip hmeet trivial hcolon hcolon').resolve_right id
    have hstart := expectTagEnd_meet hmeet hend hend'
    rw [← hwords, ← hwords₃, ← hcurrent] at hstart
    -- the bodies inside have less fuel, and by how much does not matter
    rcases contents_meet (bodies n n') htags hstart hcontents hcontents' with ⟨rfl, hmeet, name, -, hname⟩ | hlost
    · left
      rw [← hwords', ← hwords₄] at hmeet
      rw [← hwords'] at hname
      obtain ⟨rfl, hσ⟩ | ⟨rfl, rfl⟩ := hlast
      · obtain ⟨-, hτ⟩ | ⟨hno, -⟩ := hlast'
        · have hkind : σ₅.current.kind = .name name := hname.1
          exact ⟨rfl, (meet_advance_plain hmeet hσ hτ (by rw [hkind]; rfl)).1, nofun⟩
        · cases hno
      · obtain ⟨hno, -⟩ | ⟨-, rfl⟩ := hlast'
        · cases hno
        · exact ⟨rfl, hmeet, fun _ => ⟨name, hname⟩⟩
    · exact .inr (hlost.resolve_right fun hends => hfinish hends.2)

end Twins

end RenderBench.Template
