import RenderBench.Proofs.Template.Parsing.Scanning

/-!
# `Proofs.Template.Parsing.Lexing` — the words of a part of a document

A text that by itself ends with the end of a tag has the same words, on other lines, wherever it stands outside of
tags, and whatever comes after it.

## Contents
- `Stops`, `afterTagEnd?_stops`, `tagEnd?_stops`: ends of tags.
- `findOpening?_braced`, `findCommentEnd?_braced`, `findRawEnd?_braced`: tags, comments and raw sections.
- `Lexeme.reline`, `EndsTag`: words on other lines, and words of which the last one ends a tag.
- `wordsFrom`, `wordsFrom_append`: the words of a part of a document.
- `Alternating`, `alternating_lexemes`: texts and tags take turns.
-/

namespace RenderBench.Template

variable {u post : List Char}

/-! ## Ends of tags -/

/-- What a scanner that gives what follows makes of a text with a closing brace: nothing, or it stops before the
    brace, or right after it. -/
inductive Stops (f : List Char → Option (List Char)) (u : List Char) : Prop where
  | never (h : ∀ post, f (braced u post) = none)
  | before (r : List Char) (h : ∀ post, f (braced u post) = some (braced r post))
  | last (h : f (braced u []) = some []) (hsome : ∀ post, (f (braced u post)).isSome)

namespace Stops

variable {f f' : List Char → Option (List Char)}

theorem of_eq (h : Stops f' u) {v : List Char} (hf : ∀ post, f (braced v post) = f' (braced u post)) : Stops f v := by
  cases h with
  | never h => exact .never fun post => by rw [hf, h]
  | before r h => exact .before r fun post => by rw [hf, h]
  | last h hsome => exact .last (by rw [hf, h]) fun post => by rw [hf]; exact hsome post

theorem dropBlank (h : Stops f u) : Stops (fun cs => (f cs).map (·.dropWhile isBlank)) u := by
  cases h with
  | never h => exact .never fun post => by rw [h]; rfl
  | before r h =>
    refine .before (r.dropWhile isBlank) fun post => ?_
    rw [h, Option.map_some, dropWhile_braced isBlank (by decide)]
  | last h hsome => exact .last (by rw [h]; rfl) fun post => by rw [Option.isSome_map]; exact hsome post

end Stops

/-- What follows the end of a tag without a sign. -/
def plainEnd? (close : Char) : List Char → Option (List Char)
  | c :: '\x7d' :: cs => if c = close then some cs else none
  | _ => none

theorem plainEnd?_other (close c : Char) {d : Char} (hd : d ≠ '\x7d') (cs : List Char) :
    plainEnd? close (c :: d :: cs) = none := by
  rw [plainEnd?]
  exact fun _ _ h => hd (List.cons.inj (List.cons.inj h).2).1

theorem plainEnd?_stops {close : Char} (h : close ≠ '\x7d' ∨ u ≠ []) : Stops (plainEnd? close) u := by
  match u with
  | [] =>
    -- the brace would have to be the first of the two signs
    refine .never fun post => ?_
    have hclose : '\x7d' ≠ close := (h.resolve_right (absurd rfl)).symm
    cases post with
    | nil => rfl
    | cons d cs =>
      by_cases hd : d = '\x7d'
      · subst hd
        exact if_neg hclose
      · exact plainEnd?_other close _ hd cs
  | [c] =>
    by_cases hc : c = close
    · exact .last (if_pos hc) fun post => by
        show (if c = close then some post else none).isSome
        rw [if_pos hc]
        rfl
    · exact .never fun post => if_neg hc
  | c :: d :: cs =>
    by_cases hd : d = '\x7d'
    · subst hd
      by_cases hc : c = close
      · exact .before cs fun post => if_pos hc
      · exact .never fun post => if_neg hc
    · exact .never fun post => plainEnd?_other close c hd _

section TagEnd

variable (plus : Bool) {close : Char} (hminus : close ≠ '-') (hplus : close ≠ '+')

include hminus in
theorem afterTagEnd?_minus (cs : List Char) :
    afterTagEnd? plus close ('-' :: cs) = (plainEnd? close cs).map (·.dropWhile isBlank) := by
  match cs with
  | [] => rfl
  | [c] =>
    by_cases hc : c = '\x7d'
    · subst hc
      exact if_neg hminus.symm
    · rw [afterTagEnd?]
      · rfl
      all_goals simp [hc]
  | c :: d :: cs =>
    by_cases hd : d = '\x7d'
    · subst hd
      show (if c = close then _ else _) = Option.map _ (if c = close then _ else _)
      split <;> rfl
    · rw [plainEnd?_other close c hd]
      by_cases hc : c = '\x7d'
      · subst hc
        rw [afterTagEnd?, if_neg hminus.symm]
        · rfl
        all_goals simp [hd]
      · rw [afterTagEnd?]
        · rfl
        all_goals simp [hc, hd]

include hplus in
theorem afterTagEnd?_plus (cs : List Char) :
    afterTagEnd? plus close ('+' :: cs) = if plus then plainEnd? close cs else none := by
  match cs with
  | [] => cases plus <;> rfl
  | [c] =>
    by_cases hc : c = '\x7d'
    · subst hc
      rw [afterTagEnd?, if_neg hplus.symm]
      · cases plus <;> rfl
      all_goals simp
    · rw [afterTagEnd?]
      · cases plus <;> rfl
      all_goals simp [hc]
  | c :: d :: cs =>
    by_cases hd : d = '\x7d'
    · subst hd
      cases plus <;> simp [afterTagEnd?, plainEnd?]
    · rw [plainEnd?_other close c hd]
      by_cases hc : c = '\x7d'
      · subst hc
        rw [afterTagEnd?, if_neg hplus.symm]
        · cases plus <;> rfl
        all_goals simp [hd]
      · rw [afterTagEnd?]
        · cases plus <;> rfl
        all_goals simp [hc, hd]

theorem afterTagEnd?_other {c : Char} (hminus : c ≠ '-') (hplus : c ≠ '+') (cs : List Char) :
    afterTagEnd? plus close (c :: cs) = plainEnd? close (c :: cs) := by
  match cs with
  | [] =>
    rw [afterTagEnd?]
    · rfl
    all_goals simp
  | d :: cs =>
    by_cases hd : d = '\x7d'
    · subst hd
      rw [afterTagEnd?]
      · rfl
      all_goals simp [hminus, hplus]
    · rw [plainEnd?_other close c hd, afterTagEnd?]
      all_goals simp [hminus, hplus, hd]

include hminus hplus in
/-- Where the end of a tag is two braces, the brace must not be the first of them. -/
theorem afterTagEnd?_stops (h : close ≠ '\x7d' ∨ u ≠ [] ∧ u ≠ ['-'] ∧ (plus = true → u ≠ ['+'])) :
    Stops (afterTagEnd? plus close) u := by
  match u with
  | [] =>
    refine (plainEnd?_stops (h.imp_right And.left)).of_eq fun post => ?_
    exact afterTagEnd?_other plus (by decide) (by decide) post
  | c :: cs =>
    by_cases hc : c = '-'
    · subst hc
      have hinner : close ≠ '\x7d' ∨ cs ≠ [] := h.imp_right fun h => by rintro rfl; exact h.2.1 rfl
      exact (plainEnd?_stops hinner).dropBlank.of_eq fun post => afterTagEnd?_minus plus hminus _
    · by_cases hc' : c = '+'
      · subst hc'
        cases plus with
        | true =>
          have hinner : close ≠ '\x7d' ∨ cs ≠ [] := h.imp_right fun h => by rintro rfl; exact h.2.2 rfl rfl
          exact (plainEnd?_stops hinner).of_eq fun post => afterTagEnd?_plus true hplus _
        | false => exact .never fun post => afterTagEnd?_plus false hplus _
      · exact (plainEnd?_stops (h.imp_right And.left)).of_eq fun post => afterTagEnd?_other plus hc hc' _

end TagEnd

/-- The end of a statement's tag or of a comment. -/
theorem afterTagEnd?_stops_tag (plus : Bool) (u : List Char) : Stops (afterTagEnd? plus '%') u :=
  afterTagEnd?_stops plus (by decide) (by decide) (.inl (by decide))

theorem afterTagEnd?_stops_comment (plus : Bool) (u : List Char) : Stops (afterTagEnd? plus '#') u :=
  afterTagEnd?_stops plus (by decide) (by decide) (.inl (by decide))

/-! ## Tags that open -/

theorem controlSign_eq (cs : List Char) : controlSign cs = splitSign cs := rfl

theorem dropWord?_braced (post : List Char) : ∀ (word u : List Char), '\x7d' ∉ word →
    dropWord? word (braced u post) = (dropWord? word u).map (braced · post)
  | [], _, _ => rfl
  | w :: word, [], h => if_neg fun hw : w = '\x7d' => h (hw ▸ List.mem_cons_self ..)
  | w :: word, c :: u, h => by
    rw [braced_cons, dropWord?, dropWord?]
    split
    · exact dropWord?_braced post word u fun hw => h (List.mem_cons_of_mem w hw)
    · rfl

/-- What follows a word between white space and the end of a tag. -/
def afterWordTag? (word : String) (plus : Bool) (cs : List Char) : Option (List Char) :=
  (afterWord? word (cs.dropWhile isBlank)).bind fun rest => afterTagEnd? plus '%' (rest.dropWhile isBlank)

theorem afterRawBegin?_eq (cs : List Char) : afterRawBegin? cs = afterWordTag? "raw" false cs := by
  unfold afterRawBegin? afterWordTag?
  cases afterWord? "raw" (cs.dropWhile isBlank) <;> rfl

theorem afterRawEnd?_eq (cs : List Char) : afterRawEnd? cs = afterWordTag? "endraw" true cs := by
  unfold afterRawEnd? afterWordTag?
  cases afterWord? "endraw" (cs.dropWhile isBlank) <;> rfl

theorem afterWordTag?_stops (word : String) (h : '\x7d' ∉ word.toList) (plus : Bool) (u : List Char) :
    Stops (afterWordTag? word plus) u := by
  have hword (post : List Char) : afterWord? word ((braced u post).dropWhile isBlank) =
      (afterWord? word (u.dropWhile isBlank)).map (braced · post) := by
    rw [dropWhile_braced isBlank (by decide)]
    exact dropWord?_braced post word.toList _ h
  cases hu : afterWord? word (u.dropWhile isBlank) with
  | none => exact .never fun post => by rw [afterWordTag?, hword, hu]; rfl
  | some rest =>
    refine (afterTagEnd?_stops_tag plus (rest.dropWhile isBlank)).of_eq fun post => ?_
    rw [afterWordTag?, hword, hu, ← dropWhile_braced isBlank (by decide)]
    rfl

/-- An opening tag of a text, with a closing brace and something after it. -/
def Opening.withBrace (post : List Char) (o : Opening) : Opening := { o with rest := braced o.rest post }

/-- The tag of a statement or of a raw section, from the sign after its delimiter on. -/
def tagOpening (cs : List Char) (signed : Bool × List Char) : Opening :=
  (afterRawBegin? signed.2).elim ⟨.tag, signed.1, takenFrom cs signed.2, signed.2⟩
    fun r => ⟨.raw, signed.1, takenFrom cs r, r⟩

theorem openingAt?_tag (after : List Char) :
    openingAt? ('\x7b' :: '%' :: after) = some (tagOpening ('\x7b' :: '%' :: after) (splitSign after)) := by
  rw [openingAt?, controlSign_eq]
  generalize splitSign after = signed
  obtain ⟨strips, rest⟩ := signed
  rw [tagOpening]
  dsimp only
  cases afterRawBegin? rest <;> rfl

theorem openingAt?_other {c d : Char} {cs : List Char}
    (h : c = '\x7b' → d ≠ '\x7b' ∧ d ≠ '%' ∧ d ≠ '#') : openingAt? (c :: d :: cs) = none := by
  rw [openingAt?]
  all_goals
    intro after hcs
    obtain ⟨rfl, hrest⟩ := List.cons.inj hcs
    obtain ⟨rfl, -⟩ := List.cons.inj hrest
    simp at h

/-- A tag of another kind, from the sign after its delimiter on. -/
def otherOpening (kind : Opener) (cs : List Char) (signed : Bool × List Char) : Opening :=
  ⟨kind, signed.1, takenFrom cs signed.2, signed.2⟩

theorem openingAt?_print (after : List Char) : openingAt? ('\x7b' :: '\x7b' :: after) =
    some (otherOpening .print ('\x7b' :: '\x7b' :: after) (splitSign after)) := rfl

theorem openingAt?_comment (after : List Char) : openingAt? ('\x7b' :: '#' :: after) =
    some (otherOpening .comment ('\x7b' :: '#' :: after) (splitSign after)) := rfl

theorem otherOpening_withBrace (kind : Opener) (cs : List Char) (signed : Bool × List Char) (post : List Char) :
    otherOpening kind (braced cs post) (withBrace post signed) = (otherOpening kind cs signed).withBrace post := by
  rw [otherOpening, withBrace, takenFrom_braced]
  rfl

theorem tagOpening_braced (cs : List Char) (signed : Bool × List Char) :
    (∃ o : Opening, ∀ post, tagOpening (braced cs post) (withBrace post signed) = o.withBrace post) ∨
      (tagOpening (braced cs []) (withBrace [] signed)).kind = .raw ∧
        (tagOpening (braced cs []) (withBrace [] signed)).rest = [] := by
  have hraw : Stops afterRawBegin? signed.2 :=
    (afterWordTag?_stops "raw" (by decide) false signed.2).of_eq fun post => afterRawBegin?_eq _
  cases hraw with
  | never h =>
    refine .inl ⟨otherOpening .tag cs signed, fun post => ?_⟩
    rw [tagOpening, withBrace, h, ← otherOpening_withBrace]
    rfl
  | before r h =>
    refine .inl ⟨⟨.raw, signed.1, takenFrom cs r, r⟩, fun post => ?_⟩
    rw [tagOpening, withBrace, h, Option.elim_some, takenFrom_braced]
    rfl
  -- the raw tag ends with the brace, and its section is what follows
  | last h hsome =>
    right
    rw [tagOpening, withBrace, h]
    exact ⟨rfl, rfl⟩

/-- A tag at the front stops before the brace, but that a raw section may begin after it. -/
theorem openingAt?_braced (u : List Char) :
    (∀ post, openingAt? (braced u post) = none) ∨
      (∃ o : Opening, ∀ post, openingAt? (braced u post) = some (o.withBrace post)) ∨
      ∃ o, openingAt? (braced u []) = some o ∧ o.kind = .raw ∧ o.rest = [] := by
  match u with
  | [] =>
    refine .inl fun post => ?_
    cases post with
    | nil => rfl
    | cons d cs => exact openingAt?_other nofun
  | [c] => exact .inl fun post => openingAt?_other (d := '\x7d') fun _ => by decide
  | c :: d :: cs =>
    have hsign (post : List Char) : splitSign (braced cs post) = withBrace post (splitSign cs) :=
      splitSign_braced cs post
    by_cases hc : c = '\x7b'
    · subst hc
      by_cases hprint : d = '\x7b'
      · subst hprint
        refine .inr (.inl ⟨otherOpening .print ('\x7b' :: '\x7b' :: cs) (splitSign cs), fun post => ?_⟩)
        rw [← otherOpening_withBrace, ← hsign]
        exact openingAt?_print _
      by_cases hcomment : d = '#'
      · subst hcomment
        refine .inr (.inl ⟨otherOpening .comment ('\x7b' :: '#' :: cs) (splitSign cs), fun post => ?_⟩)
        rw [← otherOpening_withBrace, ← hsign]
        exact openingAt?_comment _
      by_cases htag : d = '%'
      · subst htag
        have hopening (post : List Char) : openingAt? (braced ('\x7b' :: '%' :: cs) post) =
            some (tagOpening (braced ('\x7b' :: '%' :: cs) post) (withBrace post (splitSign cs))) := by
          rw [← hsign]
          exact openingAt?_tag _
        -- only the tag of a raw section looks beyond its own end
        rcases tagOpening_braced ('\x7b' :: '%' :: cs) (splitSign cs) with ⟨o, ho⟩ | hraw
        · exact .inr (.inl ⟨o, fun post => by rw [hopening, ho]⟩)
        · exact .inr (.inr ⟨_, hopening [], hraw⟩)
      · exact .inl fun post => openingAt?_other fun _ => ⟨hprint, htag, hcomment⟩
    · exact .inl fun post => openingAt?_other fun h => absurd h hc

/-- The next tag stops before the brace, but that a raw section may begin after it. -/
theorem findOpening?_braced {text : List Char} {o' : Opening} : ∀ {u : List Char},
    findOpening? (braced u []) = some (text, o') →
      (∃ o : Opening, o' = o.withBrace [] ∧ ∀ post, findOpening? (braced u post) = some (text, o.withBrace post)) ∨
        o'.kind = .raw ∧ o'.rest = [] := by
  intro u
  induction u generalizing text with
  | nil => exact nofun
  | cons c u ih =>
    intro h
    rw [braced_cons, findOpening?, ← braced_cons] at h
    rcases openingAt?_braced (c :: u) with hnone | ⟨o, hopen⟩ | ⟨o, hopen, hraw⟩
    · rw [hnone] at h
      obtain ⟨⟨text', o''⟩, hfind, heq⟩ := Option.map_eq_some_iff.mp h
      cases heq
      refine (ih hfind).imp_left fun ⟨o, ho, hposts⟩ => ⟨o, ho, fun post => ?_⟩
      rw [braced_cons, findOpening?, ← braced_cons, hnone, hposts]
      rfl
    · rw [hopen] at h
      cases h
      refine .inl ⟨o, rfl, fun post => ?_⟩
      rw [braced_cons, findOpening?, ← braced_cons, hopen]
    · rw [hopen] at h
      cases h
      exact .inr hraw

/-! ## Comments and raw sections -/

theorem findCommentEnd?_braced {rest : List Char} : ∀ {u : List Char}, findCommentEnd? (braced u []) = some rest →
    rest = [] ∨ ∃ r, rest = braced r [] ∧ ∀ post, findCommentEnd? (braced u post) = some (braced r post) := by
  intro u
  induction u with
  | nil => exact nofun
  | cons c u ih =>
    intro h
    rw [braced_cons, findCommentEnd?, ← braced_cons] at h
    cases afterTagEnd?_stops_comment true (c :: u) with
    | never hnone =>
      rw [hnone] at h
      refine (ih h).imp_right fun ⟨r, hr, hposts⟩ => ⟨r, hr, fun post => ?_⟩
      rw [braced_cons, findCommentEnd?, ← braced_cons, hnone, hposts]
    | before r hr =>
      rw [hr] at h
      cases h
      refine .inr ⟨r, rfl, fun post => ?_⟩
      rw [braced_cons, findCommentEnd?, ← braced_cons, hr]
    | last hlast hsome =>
      rw [hlast] at h
      cases h
      exact .inl rfl

/-- The end of a raw section at the front, and whether it takes away the white space before it. -/
def rawEndAt? (cs : List Char) : Option (Bool × List Char) :=
  match cs with
  | '\x7b' :: '%' :: after =>
    let (strips, rest) := controlSign after
    (afterRawEnd? rest).map fun r => (strips, r)
  | _ => none

theorem findRawEnd?_cons (c : Char) (cs : List Char) : findRawEnd? (c :: cs) =
    (rawEndAt? (c :: cs)).elim ((findRawEnd? cs).map fun p => (c :: p.1, p.2.1, p.2.2)) fun p => some ([], p.1, p.2) := by
  rw [findRawEnd?]
  split
  · next strips rest h =>
    have hend : rawEndAt? (c :: cs) = some (strips, rest) := h
    rw [hend]
    rfl
  · next h =>
    have hend : rawEndAt? (c :: cs) = none := h
    rw [hend]
    rfl

theorem rawEndAt?_tag (after : List Char) : rawEndAt? ('\x7b' :: '%' :: after) =
    (afterRawEnd? (splitSign after).2).map fun r => ((splitSign after).1, r) := rfl

theorem rawEndAt?_other {c d : Char} {cs : List Char} (h : c = '\x7b' → d ≠ '%') : rawEndAt? (c :: d :: cs) = none := by
  rw [rawEndAt?]
  intro after hcs
  obtain ⟨rfl, hrest⟩ := List.cons.inj hcs
  obtain ⟨rfl, -⟩ := List.cons.inj hrest
  simp at h

theorem rawEndAt?_braced (c : Char) (u : List Char) :
    (∀ post, rawEndAt? (braced (c :: u) post) = none) ∨
      (∃ p : Bool × List Char, ∀ post, rawEndAt? (braced (c :: u) post) = some (withBrace post p)) ∨
      ∃ strips, rawEndAt? (braced (c :: u) []) = some (strips, []) := by
  match u with
  | [] => exact .inl fun post => rawEndAt?_other (d := '\x7d') fun _ => by decide
  | d :: cs =>
    by_cases htag : c = '\x7b' ∧ d = '%'
    · obtain ⟨rfl, rfl⟩ := htag
      have hend : Stops afterRawEnd? (splitSign cs).2 :=
        (afterWordTag?_stops "endraw" (by decide) true _).of_eq fun post => afterRawEnd?_eq _
      have htag (post : List Char) : rawEndAt? (braced ('\x7b' :: '%' :: cs) post) =
          (afterRawEnd? (braced (splitSign cs).2 post)).map fun r => ((splitSign cs).1, r) := by
        rw [braced_cons, braced_cons, rawEndAt?_tag, splitSign_braced]
        rfl
      cases hend with
      | never h => exact .inl fun post => by rw [htag, h]; rfl
      | before r h => exact .inr (.inl ⟨((splitSign cs).1, r), fun post => by rw [htag, h]; rfl⟩)
      | last h _ => exact .inr (.inr ⟨(splitSign cs).1, by rw [htag, h]; rfl⟩)
    · exact .inl fun post => rawEndAt?_other fun hc hd => htag ⟨hc, hd⟩

theorem findRawEnd?_braced {text rest : List Char} {strips : Bool} : ∀ {u : List Char},
    findRawEnd? (braced u []) = some (text, strips, rest) →
      rest = [] ∨ ∃ r, rest = braced r [] ∧ ∀ post, findRawEnd? (braced u post) = some (text, strips, braced r post) := by
  intro u
  induction u generalizing text with
  | nil => exact nofun
  | cons c u ih =>
    intro h
    rw [braced_cons, findRawEnd?_cons, ← braced_cons] at h
    rcases rawEndAt?_braced c u with hnone | ⟨p, hp⟩ | ⟨strips', hlast⟩
    · rw [hnone] at h
      obtain ⟨⟨text', strips', rest'⟩, hfind, heq⟩ := Option.map_eq_some_iff.mp h
      cases heq
      refine (ih hfind).imp_right fun ⟨r, hr, hposts⟩ => ⟨r, hr, fun post => ?_⟩
      rw [braced_cons, findRawEnd?_cons, ← braced_cons, hnone, hposts]
      rfl
    · rw [hp] at h
      cases h
      refine .inr ⟨p.2, rfl, fun post => ?_⟩
      rw [braced_cons, findRawEnd?_cons, ← braced_cons, hp]
      rfl
    · rw [hlast] at h
      cases h
      exact .inl rfl

/-! ## Words -/

def Lexeme.reline (f : Nat → Nat) : Lexeme → Lexeme
  | .token t => .token { t with line := f t.line }
  | .fault e => .fault { e with line := f e.line }

/-- The last of some words ends a tag. -/
def EndsTag (words : List Lexeme) : Prop := ∃ line, words.getLast? = some (.token ⟨line, .tagEnd⟩)

namespace EndsTag

variable {words : List Lexeme} {x : Lexeme}

theorem not_nil : ¬EndsTag [] := nofun

theorem of_cons (h : EndsTag (x :: words)) (hx : ∀ line, x ≠ .token ⟨line, .tagEnd⟩) : EndsTag words := by
  obtain ⟨line, h⟩ := h
  cases words with
  | nil => exact absurd (Option.some.inj h) (hx line)
  | cons y ys => exact ⟨line, by rwa [List.getLast?_cons_cons] at h⟩

theorem of_cons_cons {y : Lexeme} (h : EndsTag (x :: y :: words)) : EndsTag (y :: words) := by
  obtain ⟨line, h⟩ := h
  exact ⟨line, by rwa [List.getLast?_cons_cons] at h⟩

theorem nil_or (h : EndsTag (x :: words)) : words = [] ∨ EndsTag words := by
  cases words with
  | nil => exact .inl rfl
  | cons y ys => exact .inr h.of_cons_cons

theorem not_fault {f : SyntaxFault} : ¬EndsTag [.fault f] := fun ⟨_, h⟩ => nomatch h

theorem of_data {line : Nat} {cs : List Char} (h : EndsTag (dataLexeme line cs ++ words)) : EndsTag words := by
  unfold dataLexeme at h
  split at h
  · exact h
  · exact h.of_cons fun _ => by simp

end EndsTag

/-- The words of a text that begins so many characters and lines from the start of a document. -/
def wordsFrom (position line : Nat) (cs : List Char) : List Lexeme :=
  lexFrom (cs.length + 1) .outside position line false cs

theorem lexFrom_nil (fuel : Nat) (st : LexState) (position line : Nat) (afterPoint : Bool) :
    lexFrom fuel st position line afterPoint [] = [] := by
  cases fuel with
  | zero => rfl
  | succ fuel => cases st <;> rfl

/-- The words of a comment or a raw section after its opening tag, and of what follows it. -/
def lexSection (fuel position line : Nat) (kind : Opener) (rest : List Char) : List Lexeme :=
  match kind with
  | .comment =>
    match findCommentEnd? rest with
    | some rest' =>
      lexFrom fuel .outside (position + (takenFrom rest rest').length) (line + lineEnds (takenFrom rest rest')) false rest'
    | none => if rest.isEmpty then [] else [.fault ⟨line, .unclosedComment⟩]
  | .raw =>
    match findRawEnd? rest with
    | some (text, strips, rest') =>
      dataLexeme line (if strips then stripBack text else text) ++
        lexFrom fuel .outside (position + (takenFrom rest rest').length) (line + lineEnds (takenFrom rest rest')) false
          rest'
    | none => if rest.isEmpty then [] else [.fault ⟨line, .unclosedRaw⟩]
  | _ => []

/-- The words of a tag that opens after some text, and of what follows it. -/
def lexOpening (fuel position line : Nat) (text : List Char) (o : Opening) : List Lexeme :=
  let position := position + text.length + o.taken.length
  let atTag := line + lineEnds text
  let inTag := atTag + lineEnds o.taken
  dataLexeme line (if o.strips then stripBack text else text) ++
    match o.kind with
    | .print => .token ⟨atTag, .printBegin⟩ :: lexFrom fuel (.inside .print []) position inTag false o.rest
    | .tag => .token ⟨atTag, .tagBegin⟩ :: lexFrom fuel (.inside .tag []) position inTag false o.rest
    | kind => lexSection fuel position inTag kind o.rest

theorem lexFrom_outside (fuel position line : Nat) (afterPoint : Bool) (cs : List Char) :
    lexFrom (fuel + 1) .outside position line afterPoint cs =
      (findOpening? cs).elim (dataLexeme line cs) fun p => lexOpening fuel position line p.1 p.2 := by
  cases cs with
  | nil => rfl
  | cons c cs =>
    rw [lexFrom]
    · cases findOpening? (c :: cs) with
      | none => rfl
      | some p =>
        obtain ⟨text, kind, strips, taken, rest⟩ := p
        cases kind <;> rfl
    · exact nofun

/-- The words of a word inside a tag, and of what follows it. -/
def lexWord (fuel position line : Nat) (opener : Opener) (opened : List Sign) (cs : List Char) : Word → List Lexeme
  | .bad cause => [.fault ⟨line, cause⟩]
  | .blank rest =>
    lexFrom fuel (.inside opener opened) (position + (takenFrom cs rest).length) (line + lineEnds (takenFrom cs rest))
      false rest
  | .kind k rest =>
    match (match k with
      | .sign s => balance opened s
      | _ => .ok opened) with
    | .error cause => [.fault ⟨line, cause⟩]
    | .ok opened' =>
      .token ⟨line, k⟩ ::
        lexFrom fuel (.inside opener opened') (position + (takenFrom cs rest).length)
          (line + lineEnds (takenFrom cs rest)) (k == .sign .dot) rest

/-- The word that ends a tag. -/
def endKind (opener : Opener) : TokenKind := if opener = .print then .printEnd else .tagEnd

theorem lexFrom_inside (fuel : Nat) (opener : Opener) (opened : List Sign) (position line : Nat) (afterPoint : Bool)
    {cs : List Char} (hcs : cs ≠ []) :
    lexFrom (fuel + 1) (.inside opener opened) position line afterPoint cs =
      (tagEnd? opener opened cs).elim
        (lexWord fuel position line opener opened cs (scanWord position afterPoint cs)) fun rest =>
          .token ⟨line, endKind opener⟩ ::
            lexFrom fuel .outside (position + (takenFrom cs rest).length) (line + lineEnds (takenFrom cs rest)) false
              rest := by
  obtain ⟨c, cs, rfl⟩ := List.exists_cons_of_ne_nil hcs
  rw [lexFrom]
  · cases tagEnd? opener opened (c :: cs) with
    | some rest => rfl
    | none => cases scanWord position afterPoint (c :: cs) <;> rfl
  · exact hcs

/-! ## The words of a part of a document -/

/-- Words that go on, on other lines, where some words end. -/
def Extends (shift : Nat) (words words' : List Lexeme) : Prop :=
  ∃ rest, words' = words.map (Lexeme.reline (· + shift)) ++ rest

namespace Extends

variable {shift : Nat} {words words' : List Lexeme}

theorem nil : Extends shift [] words' := ⟨words', rfl⟩

theorem cons (h : Extends shift words words') (line : Nat) (k : TokenKind) :
    Extends shift (.token ⟨line, k⟩ :: words) (.token ⟨line + shift, k⟩ :: words') := by
  obtain ⟨rest, rfl⟩ := h
  exact ⟨rest, rfl⟩

theorem data (h : Extends shift words words') (line : Nat) (cs : List Char) :
    Extends shift (dataLexeme line cs ++ words) (dataLexeme (line + shift) cs ++ words') := by
  unfold dataLexeme
  split
  · exact h
  · exact h.cons line _

end Extends

/-- Names, texts, numbers and signs, which stand inside tags. -/
def TokenKind.isWord : TokenKind → Bool
  | .name _ | .text _ | .integer _ | .real _ | .sign _ => true
  | _ => false

theorem isWord_scanWord {position : Nat} {afterPoint : Bool} {cs rest : List Char} {k : TokenKind}
    (h : scanWord position afterPoint cs = .kind k rest) : k.isWord = true := by
  cases cs with
  | nil => cases h
  | cons c cs =>
    rw [scanWord_cons] at h
    split at h
    · cases h
    · -- a number, a name, a quoted text or a sign: one after the other is tried
      cases hreal : scanReal? afterPoint (c :: cs) with
      | some p =>
        rw [hreal] at h
        cases h
        rfl
      | none =>
        cases hinteger : scanInteger? (c :: cs) with
        | some p =>
          rw [hreal, hinteger] at h
          simp only [Option.elim_none, Option.elim_some, integerWord] at h
          split at h <;> cases h
          rfl
        | none =>
          rw [hreal, hinteger, Option.elim_none, Option.elim_none] at h
          split at h
          · unfold nameWord at h
            split at h <;> cases h
            rfl
          · cases hquoted : (if c = '\'' ∨ c = '"' then scanQuoted? c cs else none) with
            | some p =>
              rw [hquoted, Option.elim_some] at h
              unfold quotedWord at h
              split at h <;> cases h
              rfl
            | none =>
              rw [hquoted, Option.elim_none] at h
              unfold signWord at h
              split at h <;> cases h
              rfl

/-- Where a tag of output waits for two braces, a single one is a fault. -/
theorem not_endsTag_brace (fuel position line : Nat) (afterPoint : Bool) :
    ¬EndsTag (lexFrom fuel (.inside .print []) position line afterPoint (braced [] [])) := by
  cases fuel with
  | zero => exact EndsTag.not_nil
  | succ fuel =>
    have hword : scanWord position afterPoint (braced [] []) = .kind (.sign .closeBrace) [] := by cases afterPoint <;> rfl
    rw [lexFrom_inside _ _ _ _ _ _ (by simp), hword]
    exact EndsTag.not_fault

theorem not_endsTag_minus (fuel position line : Nat) (afterPoint : Bool) :
    ¬EndsTag (lexFrom fuel (.inside .print []) position line afterPoint (braced ['-'] [])) := by
  cases fuel with
  | zero => exact EndsTag.not_nil
  | succ fuel =>
    have hword : scanWord position afterPoint (braced ['-'] []) = .kind (.sign .sub) (braced [] []) := by
      cases afterPoint <;> rfl
    rw [lexFrom_inside _ _ _ _ _ _ (by simp), hword]
    exact fun h => not_endsTag_brace _ _ _ _ (h.of_cons fun _ => by simp)

theorem tagEnd?_stops (opener : Opener) (opened : List Sign) (u : List Char) :
    Stops (tagEnd? opener opened) u ∨ (opener = .print ∧ opened = []) ∧ (u = [] ∨ u = ['-']) := by
  cases opened with
  | cons s ss => exact .inl (.never fun _ => rfl)
  | nil =>
    cases opener with
    | print =>
      by_cases hu : u = [] ∨ u = ['-']
      · exact .inr ⟨⟨rfl, rfl⟩, hu⟩
      · obtain ⟨hnil, hminus⟩ := not_or.mp hu
        exact .inl (afterTagEnd?_stops false (by decide) (by decide) (.inr ⟨hnil, hminus, nofun⟩))
    | tag | comment | raw => exact .inl (afterTagEnd?_stops_tag true u)

section Parts

variable {n m : Nat} {shift : Nat}

/-- What is to be shown of the words from any place on. -/
def Lasts (shift : Nat) (post : List Char) (n : Nat) : Prop :=
  ∀ {st position line afterPoint u}, EndsTag (lexFrom n st position line afterPoint (braced u [])) →
    ∀ {m} position', n ≤ m → Extends shift (lexFrom n st position line afterPoint (braced u []))
      (lexFrom m st position' (line + shift) afterPoint (braced u post))

/-- After a step that takes the same of both texts. -/
theorem Lasts.after (h : Lasts shift post n) (hm : n ≤ m) {st : LexState} {position line k : Nat} {afterPoint : Bool}
    {r : List Char} (position' : Nat) (hends : EndsTag (lexFrom n st position (line + k) afterPoint (braced r []))) :
    Extends shift (lexFrom n st position (line + k) afterPoint (braced r []))
      (lexFrom m st position' (line + shift + k) afterPoint (braced r post)) := by
  rw [Nat.add_right_comm line shift k]
  exact h hends position' hm

theorem not_endsTag_unclosed {cs : List Char} {f : SyntaxFault} : ¬EndsTag (if cs.isEmpty then [] else [.fault f]) := by
  split
  · exact EndsTag.not_nil
  · exact EndsTag.not_fault

theorem lexSection_braced (h : Lasts shift post n) (hm : n ≤ m) {position line : Nat} {kind : Opener} {r : List Char}
    (position' : Nat) (hends : EndsTag (lexSection n position line kind (braced r []))) :
    Extends shift (lexSection n position line kind (braced r []))
      (lexSection m position' (line + shift) kind (braced r post)) := by
  cases kind with
  | print | tag => exact absurd hends EndsTag.not_nil
  | comment =>
    simp only [lexSection] at hends ⊢
    cases hfind : findCommentEnd? (braced r []) with
    | none =>
      simp only [hfind] at hends
      exact absurd hends not_endsTag_unclosed
    | some rest =>
      simp only [hfind] at hends
      rcases findCommentEnd?_braced hfind with rfl | ⟨r', rfl, hposts⟩
      · -- a comment at the end leaves no words, and none of them ends a tag
        rw [lexFrom_nil] at hends
        exact absurd hends EndsTag.not_nil
      · simp only [hposts, takenFrom_braced] at hends ⊢
        exact h.after hm _ hends
  | raw =>
    simp only [lexSection] at hends ⊢
    cases hfind : findRawEnd? (braced r []) with
    | none =>
      simp only [hfind] at hends
      exact absurd hends not_endsTag_unclosed
    | some found =>
      obtain ⟨text, strips, rest⟩ := found
      simp only [hfind] at hends
      rcases findRawEnd?_braced hfind with rfl | ⟨r', rfl, hposts⟩
      · -- nor does the text of a raw section
        rw [lexFrom_nil] at hends
        exact absurd hends.of_data EndsTag.not_nil
      · simp only [hposts, takenFrom_braced] at hends ⊢
        exact (h.after hm _ hends.of_data).data _ _

theorem lexOpening_braced (h : Lasts shift post n) (hm : n ≤ m) {position line : Nat} {text : List Char} {o : Opening}
    (position' : Nat) (hends : EndsTag (lexOpening n position line text (o.withBrace []))) :
    Extends shift (lexOpening n position line text (o.withBrace []))
      (lexOpening m position' (line + shift) text (o.withBrace post)) := by
  obtain ⟨kind, strips, taken, r⟩ := o
  have hline (k : Nat) : line + shift + k = line + k + shift := Nat.add_right_comm ..
  have hends := hends.of_data
  simp only [lexOpening, Opening.withBrace] at hends ⊢
  refine Extends.data ?_ _ _
  rw [hline]
  cases kind with
  | print | tag =>
    refine Extends.cons ?_ _ _
    exact h.after hm _ (hends.of_cons fun _ => by simp)
  | comment | raw =>
    rw [Nat.add_right_comm _ shift]
    exact lexSection_braced h hm _ hends

theorem lexWord_braced (h : Lasts shift post n) (hm : n ≤ m) {position line : Nat} {opener : Opener}
    {opened : List Sign} {w : Word} (position' : Nat)
    (hword : ∀ k rest, w = .kind k rest → k.isWord = true)
    (hends : EndsTag (lexWord n position line opener opened (braced u []) (w.withBrace []))) :
    Extends shift (lexWord n position line opener opened (braced u []) (w.withBrace []))
      (lexWord m position' (line + shift) opener opened (braced u post) (w.withBrace post)) := by
  cases w with
  | bad cause => exact absurd hends EndsTag.not_fault
  | blank rest =>
    simp only [Word.withBrace, lexWord, takenFrom_braced] at hends ⊢
    exact h.after hm _ hends
  | kind k rest =>
    simp only [Word.withBrace, lexWord, takenFrom_braced] at hends ⊢
    split at hends
    · exact absurd hends EndsTag.not_fault
    · refine Extends.cons ?_ _ _
      -- a word inside a tag is not the end of the tag
      refine h.after hm _ (hends.of_cons fun _ hend => ?_)
      cases hend
      exact nomatch hword _ _ rfl

/-- A closing brace ends no statement's tag. -/
theorem not_endsTag_sign {fuel position line : Nat} {opener : Opener} {opened : List Sign} {cs : List Char} {s : Sign} :
    ¬EndsTag (lexWord fuel position line opener opened cs (.kind (.sign s) [])) := by
  intro h
  simp only [lexWord, lexFrom_nil] at h
  split at h
  · exact EndsTag.not_fault h
  · exact EndsTag.not_nil (h.of_cons fun _ => by simp)

theorem lexInside_braced (h : Lasts shift post n) (hm : n ≤ m) {position line : Nat} {afterPoint : Bool}
    {opener : Opener} {opened : List Sign} (position' : Nat)
    (hends : EndsTag (lexFrom (n + 1) (.inside opener opened) position line afterPoint (braced u []))) :
    Extends shift (lexFrom (n + 1) (.inside opener opened) position line afterPoint (braced u []))
      (lexFrom (m + 1) (.inside opener opened) position' (line + shift) afterPoint (braced u post)) := by
  have hne (post : List Char) : braced u post ≠ [] := by simp [braced]
  rcases tagEnd?_stops opener opened u with hstops | ⟨⟨rfl, rfl⟩, rfl | rfl⟩
  · rw [lexFrom_inside _ _ _ _ _ _ (hne _)] at hends ⊢
    rw [lexFrom_inside _ _ _ _ _ _ (hne _)]
    cases hstops with
    | never hnone =>
      rw [hnone, Option.elim_none] at hends ⊢
      rw [hnone, Option.elim_none]
      by_cases hu : u = []
      · -- the brace alone is a sign, behind which nothing ends the tag
        subst hu
        have hword : scanWord position afterPoint (braced [] []) = .kind (.sign .closeBrace) [] := by
          cases afterPoint <;> rfl
        rw [hword] at hends
        exact (not_endsTag_sign hends).elim
      · -- a fault ends no tag, so that a word is read
        have hsound : (scanWord position afterPoint (braced u [])).isSound = true := by
          cases hscan : scanWord position afterPoint (braced u []) with
          | bad cause =>
            rw [hscan] at hends
            exact absurd hends EndsTag.not_fault
          | _ => rfl
        obtain ⟨w, hw⟩ := scanWord_braced position afterPoint hu hsound
        rw [hw] at hends ⊢
        rw [hw]
        refine lexWord_braced h hm _ (fun k rest hk => ?_) hends
        subst hk
        exact isWord_scanWord (hw position [])
    | before r hr =>
      rw [hr, Option.elim_some, takenFrom_braced] at hends ⊢
      rw [hr, Option.elim_some, takenFrom_braced]
      refine Extends.cons ?_ _ _
      -- the tag ends here: either its end is the last word, or the others go on
      rcases hends.nil_or with hnil | hrest
      · rw [hnil]
        exact .nil
      · exact h.after hm _ hrest
    | last hlast hsome =>
      obtain ⟨rest, hrest⟩ := Option.isSome_iff_exists.mp (hsome post)
      rw [hlast, Option.elim_some, lexFrom_nil, hrest, Option.elim_some]
      exact Extends.nil.cons _ _
  · exact (not_endsTag_brace _ _ _ _ hends).elim
  · exact (not_endsTag_minus _ _ _ _ hends).elim

theorem lasts (shift : Nat) (post : List Char) : ∀ n, Lasts shift post n := by
  intro n
  induction n with
  | zero => exact fun hends => absurd hends EndsTag.not_nil
  | succ n ih =>
    intro st position line afterPoint u hends m position' hm
    obtain ⟨m, rfl⟩ : ∃ m', m = m' + 1 := ⟨m - 1, by omega⟩
    have hm : n ≤ m := Nat.le_of_succ_le_succ hm
    cases st with
    | inside opener opened => exact lexInside_braced ih hm position' hends
    | outside =>
      rw [lexFrom_outside] at hends ⊢
      rw [lexFrom_outside]
      cases hfind : findOpening? (braced u []) with
      | none =>
        rw [hfind, Option.elim_none] at hends
        -- text without another tag ends none
        exact absurd (EndsTag.of_data (by rwa [List.append_nil])) EndsTag.not_nil
      | some p =>
        obtain ⟨text, o'⟩ := p
        rw [hfind, Option.elim_some] at hends
        rcases findOpening?_braced hfind with ⟨o, rfl, hposts⟩ | ⟨hkind, hrest⟩
        · rw [hposts, Option.elim_some, Option.elim_some]
          exact lexOpening_braced ih hm position' hends
        · obtain ⟨kind, strips, taken, rest⟩ := o'
          subst hkind hrest
          exact absurd hends.of_data EndsTag.not_nil

end Parts

/-- **A part of a document** has the same words wherever it stands outside of tags, if the last of them ends a tag,
    and whatever comes after it. -/
theorem wordsFrom_append {src : List Char} (hbrace : src.getLast? = some '\x7d') {position line : Nat}
    (hends : EndsTag (wordsFrom position line src)) (position' shift : Nat) (post : List Char) :
    Extends shift (wordsFrom position line src) (wordsFrom position' (line + shift) (src ++ post)) := by
  obtain ⟨u, rfl⟩ := List.getLast?_eq_some_iff.mp hbrace
  have happend : u ++ ['\x7d'] ++ post = braced u post := by simp [braced]
  -- a longer text has more fuel, and what is lexed with less is lexed with more
  have hlength : (braced u []).length + 1 ≤ (braced u post).length + 1 := by
    simp only [braced, List.length_append, List.length_cons, List.length_nil]
    omega
  rw [happend]
  exact lasts shift post _ hends position' hlength

/-! ## Words after one another -/

/-- Words after which the text outside of tags goes on. -/
def TokenKind.closes : TokenKind → Bool
  | .data _ | .printEnd | .tagEnd => true
  | _ => false

/-- Words that stand outside of tags or begin one. -/
def TokenKind.opens : TokenKind → Bool
  | .data _ | .printBegin | .tagBegin => true
  | _ => false

/-- Whether some words stand outside of tags. -/
def Outside : List Lexeme → Prop
  | .token t :: _ => t.kind.opens = true
  | _ => True

/-- Words of which those outside of tags and those inside alternate as they should. -/
def Alternating : List Lexeme → Prop
  | [] => True
  | .token t :: words => (t.kind.closes = true → Outside words) ∧ Alternating words
  | .fault _ :: words => Alternating words

theorem alternating_data {words : List Lexeme} (houtside : Outside words) (h : Alternating words) (line : Nat)
    (cs : List Char) : Outside (dataLexeme line cs ++ words) ∧ Alternating (dataLexeme line cs ++ words) := by
  unfold dataLexeme
  split
  · exact ⟨houtside, h⟩
  · exact ⟨rfl, fun _ => houtside, h⟩

section Words

variable {fuel : Nat}

/-- The words from a place outside of tags on alternate, and so do those from a place inside. -/
def Alternates (fuel : Nat) : Prop :=
  ∀ {position line : Nat} {afterPoint : Bool} {cs : List Char},
    (Outside (lexFrom fuel .outside position line afterPoint cs) ∧
      Alternating (lexFrom fuel .outside position line afterPoint cs)) ∧
    ∀ opener opened, Alternating (lexFrom fuel (.inside opener opened) position line afterPoint cs)

theorem alternating_lexSection (h : Alternates fuel) (position line : Nat) (kind : Opener) (rest : List Char) :
    Outside (lexSection fuel position line kind rest) ∧ Alternating (lexSection fuel position line kind rest) := by
  unfold lexSection
  split
  · split
    · exact h.1
    · split <;> exact ⟨trivial, trivial⟩
  · split
    · exact alternating_data h.1.1 h.1.2 _ _
    · split <;> exact ⟨trivial, trivial⟩
  · exact ⟨trivial, trivial⟩

theorem alternating_lexOpening (h : Alternates fuel) (position line : Nat) (text : List Char) (o : Opening) :
    Outside (lexOpening fuel position line text o) ∧ Alternating (lexOpening fuel position line text o) := by
  obtain ⟨kind, strips, taken, rest⟩ := o
  have hinner := alternating_lexSection h (position + text.length + taken.length)
    (line + lineEnds text + lineEnds taken) kind rest
  cases kind with
  | print | tag =>
    refine alternating_data ?_ ?_ _ _
    · rfl
    · exact ⟨nofun, h.2 _ _⟩
  | comment | raw => exact alternating_data hinner.1 hinner.2 _ _

theorem alternating_lexWord (h : Alternates fuel) (position line : Nat) (opener : Opener) (opened : List Sign)
    (cs : List Char) {w : Word} (hword : ∀ k rest, w = .kind k rest → k.isWord = true) :
    Alternating (lexWord fuel position line opener opened cs w) := by
  cases w with
  | bad cause => trivial
  | blank rest => exact h.2 _ _
  | kind k rest =>
    unfold lexWord
    dsimp only
    split
    · trivial
    · refine ⟨fun hcloses => ?_, h.2 _ _⟩
      have hk := hword k rest rfl
      cases k <;> simp_all [TokenKind.closes, TokenKind.isWord]

theorem alternates : ∀ fuel, Alternates fuel := by
  intro fuel
  induction fuel with
  | zero => exact ⟨⟨trivial, trivial⟩, fun _ _ => trivial⟩
  | succ fuel ih =>
    intro position line afterPoint cs
    constructor
    · rw [lexFrom_outside]
      cases findOpening? cs with
      | none =>
        rw [Option.elim_none, ← List.append_nil (dataLexeme line cs)]
        refine alternating_data ?_ ?_ line cs <;> trivial
      | some p => exact alternating_lexOpening ih _ _ _ _
    · intro opener opened
      by_cases hcs : cs = []
      · rw [hcs, lexFrom_nil]
        trivial
      · rw [lexFrom_inside _ _ _ _ _ _ hcs]
        cases tagEnd? opener opened cs with
        | none => exact alternating_lexWord ih _ _ _ _ _ fun _ _ => isWord_scanWord
        | some rest => exact ⟨fun _ => ih.1.1, ih.1.2⟩

end Words

/-- **The words of a document** alternate between those outside of tags and those inside. -/
theorem alternating_lexemes (source : String) : Outside (lexemes source) ∧ Alternating (lexemes source) :=
  (alternates _).1

end RenderBench.Template
