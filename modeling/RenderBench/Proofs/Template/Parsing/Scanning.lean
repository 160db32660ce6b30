import Mathlib.Data.List.TakeDrop
import RenderBench.Template.Token.Lexer

/-!
# `Proofs.Template.Parsing.Scanning` — words before a closing brace

No word runs past a closing brace but a quoted text that holds one. So what is scanned of a text that ends with such
a brace does not depend on what comes after it.

## Contents
- `braced`: a text, a closing brace, and something after it.
- `digitRun_braced`, `scanReal?_braced`, `Sign.scan?_braced`, …: words.
- `scanWord_braced`: any word.
-/

namespace RenderBench.Template

/-- A text, a closing brace, and something after it. -/
def braced (u post : List Char) : List Char := u ++ '\x7d' :: post

variable {u post : List Char}

@[simp] theorem braced_nil : braced [] post = '\x7d' :: post := rfl

@[simp] theorem braced_cons (c : Char) : braced (c :: u) post = c :: braced u post := rfl

/-- The rest of a scanned text, with a closing brace and something after it. -/
def withBrace {α : Type} (post : List Char) (p : α × List Char) : α × List Char := (p.1, braced p.2 post)

theorem dropWhile_braced (p : Char → Bool) (h : p '\x7d' = false) (u post : List Char) :
    (braced u post).dropWhile p = braced (u.dropWhile p) post := by
  induction u with
  | nil => simp [h]
  | cons c u ih =>
    rw [braced_cons, List.dropWhile_cons, List.dropWhile_cons]
    split
    · exact ih
    · rfl

theorem span_braced (p : Char → Bool) (h : p '\x7d' = false) (u post : List Char) :
    (braced u post).span p = withBrace post (u.span p) := by
  have htake : (braced u post).takeWhile p = u.takeWhile p := by
    induction u with
    | nil => simp [h]
    | cons c u ih =>
      rw [braced_cons, List.takeWhile_cons, List.takeWhile_cons]
      split
      · rw [ih]
      · rfl
  rw [List.span_eq_takeWhile_dropWhile, List.span_eq_takeWhile_dropWhile, htake, dropWhile_braced p h]
  rfl

theorem takenFrom_braced (u r post : List Char) : takenFrom (braced u post) (braced r post) = takenFrom u r := by
  have hlength : (braced u post).length - (braced r post).length = u.length - r.length := by
    simp only [braced, List.length_append, List.length_cons]
    omega
  rw [takenFrom, hlength, braced, List.take_append_of_le_length (Nat.sub_le ..), takenFrom]

/-! ## Numbers -/

theorem digitRun_underscore (underscores after : Bool) (c : Char) (cs : List Char) :
    digitRun underscores after ('_' :: c :: cs) =
      if underscores && after && c.isDigit then
        (c :: (digitRun underscores true cs).1, (digitRun underscores true cs).2)
      else ([], '_' :: c :: cs) := rfl

theorem digitRun_cons (underscores after : Bool) {c : Char} (hc : c ≠ '_') (cs : List Char) :
    digitRun underscores after (c :: cs) =
      if c.isDigit then (c :: (digitRun underscores true cs).1, (digitRun underscores true cs).2) else ([], c :: cs) := by
  rw [digitRun]
  exact fun _ _ h => absurd h hc

theorem digitRun_braced (underscores after : Bool) (u post : List Char) :
    digitRun underscores after (braced u post) = withBrace post (digitRun underscores after u) := by
  fun_induction digitRun underscores after u with
  | case1 => rfl
  | case2 after c cs h ds rest heq ih =>
    rw [braced_cons, braced_cons, digitRun_underscore, if_pos h, ih, heq]
    rfl
  | case3 after c cs h =>
    rw [braced_cons, braced_cons, digitRun_underscore, if_neg h]
    rfl
  | case4 after c cs hc h ds rest heq ih =>
    have hne : c ≠ '_' := fun hunder => by subst hunder; cases h
    rw [braced_cons, digitRun_cons _ _ hne, if_pos h, ih, heq]
    rfl
  | case5 after c cs hc h =>
    by_cases hne : c = '_'
    · subst hne
      cases cs with
      | nil => simp [digitRun_underscore, withBrace]
      -- an underscore in front of another character has been the case before
      | cons d ds => exact absurd rfl (hc d ds rfl)
    · rw [braced_cons, digitRun_cons _ _ hne, if_neg h]
      rfl

/-- An exponent of some digits under a sign, if there are any. -/
def exponentOf (negative : Bool) (cs : List Char) (run : List Char × List Char) : Option Int × List Char :=
  match run with
  | ([], _) => (none, cs)
  | (ds, after) => (some (if negative then -(natOfDigits ds : Int) else natOfDigits ds), after)

theorem scanExponent_cons (underscores : Bool) (c : Char) (cs : List Char) : scanExponent underscores (c :: cs) =
    if c = 'e' ∨ c = 'E' then
      exponentOf (splitSign cs).1 (c :: cs) (digitRun underscores false (splitSign cs).2)
    else (none, c :: cs) := rfl

theorem splitSign_other {c : Char} (hminus : c ≠ '-') (hplus : c ≠ '+') (cs : List Char) :
    splitSign (c :: cs) = (false, c :: cs) := by
  rw [splitSign]
  · exact fun _ h => hminus (List.cons.inj h).1
  · exact fun _ h => hplus (List.cons.inj h).1

theorem splitSign_braced (u post : List Char) : splitSign (braced u post) = withBrace post (splitSign u) := by
  cases u with
  | nil => rfl
  | cons c cs =>
    by_cases hminus : c = '-'
    · subst hminus
      rfl
    · by_cases hplus : c = '+'
      · subst hplus
        rfl
      · rw [braced_cons, splitSign_other hminus hplus, splitSign_other hminus hplus]
        rfl

theorem exponentOf_braced (negative : Bool) (cs : List Char) (run : List Char × List Char) (post : List Char) :
    exponentOf negative (braced cs post) (withBrace post run) = withBrace post (exponentOf negative cs run) := by
  obtain ⟨ds, after⟩ := run
  cases ds <;> rfl

theorem scanExponent_braced (underscores : Bool) (u post : List Char) :
    scanExponent underscores (braced u post) = withBrace post (scanExponent underscores u) := by
  cases u with
  | nil => rfl
  | cons c cs =>
    rw [braced_cons, scanExponent_cons, scanExponent_cons, splitSign_braced]
    show (if c = 'e' ∨ c = 'E' then
      exponentOf _ (braced (c :: cs) post) (digitRun _ _ (braced (splitSign cs).2 post)) else _) = _
    rw [digitRun_braced, exponentOf_braced]
    split <;> rfl

/-- Whether a character is a digit in a base. -/
def isDigitIn (base : Nat) (c : Char) : Bool := (hexValue? c).any (· < base)

theorem scanBased_underscore (base : Nat) (c : Char) (cs : List Char) : scanBased base ('_' :: c :: cs) =
    if isDigitIn base c then (c :: (scanBased base cs).1, (scanBased base cs).2) else ([], '_' :: c :: cs) := by
  rw [scanBased, isDigitIn]
  cases hexValue? c with
  | none => rfl
  | some d => simp only [Option.any_some, decide_eq_true_eq]

theorem scanBased_cons (base : Nat) {c : Char} (hc : c ≠ '_') (cs : List Char) : scanBased base (c :: cs) =
    if isDigitIn base c then (c :: (scanBased base cs).1, (scanBased base cs).2) else ([], c :: cs) := by
  rw [scanBased, isDigitIn]
  · cases hexValue? c with
    | none => rfl
    | some d => simp only [Option.any_some, decide_eq_true_eq]
  · exact fun _ _ h => absurd h hc

theorem scanBased_braced (base : Nat) (post : List Char) : ∀ u : List Char,
    scanBased base (braced u post) = withBrace post (scanBased base u)
  | [] => rfl
  | [c] => by
    by_cases hc : c = '_'
    · subst hc
      rfl
    · rw [braced_cons, scanBased_cons base hc, scanBased_cons base hc, scanBased_braced base post []]
      split <;> rfl
  | c :: d :: u => by
    by_cases hc : c = '_'
    · subst hc
      rw [braced_cons, braced_cons, scanBased_underscore, scanBased_underscore, scanBased_braced base post u]
      split <;> rfl
    · rw [braced_cons, scanBased_cons base hc, scanBased_cons base hc, scanBased_braced base post (d :: u)]
      split <;> rfl

theorem scanZeros_braced (post : List Char) : ∀ u : List Char, scanZeros (braced u post) = braced (scanZeros u) post
  | [] => rfl
  | [c] => by
    by_cases hunder : c = '_'
    · subst hunder
      rfl
    · by_cases hzero : c = '0'
      · subst hzero
        rfl
      · simp [scanZeros, hzero]
  | c :: d :: u => by
    by_cases hunder : c = '_'
    · subst hunder
      by_cases hd : d = '0'
      · subst hd
        exact scanZeros_braced post u
      · simp [scanZeros, hd]
    · by_cases hzero : c = '0'
      · subst hzero
        exact scanZeros_braced post (d :: u)
      · simp [scanZeros, hzero, hunder]

/-- A whole number of some digits of a base, if there are any. -/
def basedOf? (base : Nat) (run : List Char × List Char) : Option (Nat × List Char) :=
  match run with
  | ([], _) => none
  | (ds, r) => some ((ds.foldl (fun n d => n * base + (hexValue? d).getD 0) 0 : Nat), r)

/-- A whole number of some digits, if there are any. -/
def wholeOf? (run : List Char × List Char) : Option (Int × List Char) :=
  match run with
  | ([], _) => none
  | (ds, r) => some ((natOfDigits ds : Int), r)

/-- A number after a zero: one in the base of a mark, or zero itself. -/
def afterZero (based : Option (Nat × List Char)) (cs : List Char) : Int × List Char :=
  match based with
  | some (n, r) => (n, r)
  | none => (0, scanZeros cs)

theorem scanInteger?_marked (mark : Char) (rest : List Char) : scanInteger? ('0' :: mark :: rest) =
    some (afterZero ((baseMark? mark).bind fun base => basedOf? base (scanBased base rest)) (mark :: rest)) := by
  rw [scanInteger?]
  show (match (baseMark? mark).bind fun base => basedOf? base (scanBased base rest) with
    | some (n, r) => some ((n : Int), r)
    | none => some (0, scanZeros (mark :: rest))) = _
  cases (baseMark? mark).bind fun base => basedOf? base (scanBased base rest) <;> rfl

theorem afterZero_braced (based : Option (Nat × List Char)) (cs post : List Char) :
    afterZero (based.map (withBrace post)) (braced cs post) = withBrace post (afterZero based cs) := by
  cases based with
  | some p => rfl
  | none => exact congrArg (Prod.mk 0) (scanZeros_braced post cs)

theorem scanInteger?_other {cs : List Char} (h : cs.head? ≠ some '0') :
    scanInteger? cs = wholeOf? (digitRun true false cs) := by
  rw [scanInteger?]
  · rfl
  · exact fun _ _ hcs => h (by rw [hcs]; rfl)
  · exact fun hcs => h (by rw [hcs]; rfl)

theorem basedOf?_withBrace (base : Nat) (run : List Char × List Char) (post : List Char) :
    basedOf? base (withBrace post run) = (basedOf? base run).map (withBrace post) := by
  obtain ⟨ds, r⟩ := run
  cases ds <;> rfl

theorem wholeOf?_withBrace (run : List Char × List Char) (post : List Char) :
    wholeOf? (withBrace post run) = (wholeOf? run).map (withBrace post) := by
  obtain ⟨ds, r⟩ := run
  cases ds <;> rfl

theorem scanInteger?_braced (u post : List Char) :
    scanInteger? (braced u post) = (scanInteger? u).map (withBrace post) := by
  by_cases hzero : u.head? = some '0'
  · obtain ⟨cs, rfl⟩ := List.head?_eq_some_iff.mp hzero
    cases cs with
    | nil => rfl
    | cons mark rest =>
      -- behind the mark of a base the brace is no digit of any base
      have hbased : ((baseMark? mark).bind fun base => basedOf? base (scanBased base (braced rest post))) =
          ((baseMark? mark).bind fun base => basedOf? base (scanBased base rest)).map (withBrace post) := by
        cases baseMark? mark with
        | none => rfl
        | some base =>
          show basedOf? base (scanBased base (braced rest post)) = _
          rw [scanBased_braced, basedOf?_withBrace]
          rfl
      rw [braced_cons, braced_cons, scanInteger?_marked, scanInteger?_marked, hbased, ← braced_cons,
        afterZero_braced]
      rfl
  · have hbraced : (braced u post).head? ≠ some '0' := by
      cases u with
      | nil => exact nofun
      | cons c cs => exact hzero
    rw [scanInteger?_other hzero, scanInteger?_other hbraced, digitRun_braced, wholeOf?_withBrace]

/-- The fraction after some digits, if a point and a digit follow. -/
def fractionOf (rest : List Char) : Option (List Char) × List Char :=
  match rest with
  | '.' :: r =>
    match digitRun true false r with
    | ([], _) => (none, rest)
    | (ds, r') => (some ds, r')
  | _ => (none, rest)

theorem fractionOf_point (r : List Char) : fractionOf ('.' :: r) =
    if (digitRun true false r).1.isEmpty then (none, '.' :: r)
    else (some (digitRun true false r).1, (digitRun true false r).2) := by
  rw [fractionOf]
  generalize digitRun true false r = run
  obtain ⟨ds, r'⟩ := run
  cases ds <;> rfl

theorem fractionOf_other {rest : List Char} (h : rest.head? ≠ some '.') : fractionOf rest = (none, rest) := by
  rw [fractionOf]
  exact fun _ hrest => h (by rw [hrest]; rfl)

theorem fractionOf_braced (u post : List Char) : fractionOf (braced u post) = withBrace post (fractionOf u) := by
  by_cases hpoint : u.head? = some '.'
  · obtain ⟨cs, rfl⟩ := List.head?_eq_some_iff.mp hpoint
    rw [braced_cons, fractionOf_point, fractionOf_point, digitRun_braced]
    show (if (digitRun true false cs).1.isEmpty then _ else _) = _
    split <;> rfl
  · have hbraced : (braced u post).head? ≠ some '.' := by
      cases u with
      | nil => exact nofun
      | cons c cs => exact hpoint
    rw [fractionOf_other hpoint, fractionOf_other hbraced]
    rfl

/-- A real number of some digits with what follows them, if that is a fraction or an exponent. -/
def realOf? (run : List Char × List Char) : Option (Binary64 × List Char) :=
  if run.1.isEmpty then none
  else
    let fraction := fractionOf run.2
    let exponent := scanExponent true fraction.2
    if fraction.1.isNone && exponent.1.isNone then none
    else some ((Numeral.mk run.1 fraction.1 exponent.1).value false, exponent.2)

theorem scanReal?_eq (cs : List Char) : scanReal? false cs = realOf? (digitRun true false cs) := by
  rw [scanReal?, realOf?]
  generalize digitRun true false cs = run
  obtain ⟨ds, r⟩ := run
  cases ds <;> rfl

theorem scanReal?_braced (afterPoint : Bool) (u post : List Char) :
    scanReal? afterPoint (braced u post) = (scanReal? afterPoint u).map (withBrace post) := by
  cases afterPoint with
  | true => rfl
  | false =>
    rw [scanReal?_eq, scanReal?_eq, digitRun_braced, realOf?, realOf?]
    show (if (digitRun true false u).1.isEmpty then none else
      let fraction := fractionOf (braced (digitRun true false u).2 post)
      let exponent := scanExponent true fraction.2
      if fraction.1.isNone && exponent.1.isNone then none
      else some ((Numeral.mk (digitRun true false u).1 fraction.1 exponent.1).value false, exponent.2)) = _
    rw [fractionOf_braced]
    show (if (digitRun true false u).1.isEmpty then none else
      let exponent := scanExponent true (braced (fractionOf (digitRun true false u).2).2 post)
      if (fractionOf (digitRun true false u).2).1.isNone && exponent.1.isNone then none
      else some ((Numeral.mk (digitRun true false u).1 (fractionOf (digitRun true false u).2).1 exponent.1).value false,
        exponent.2)) = _
    rw [scanExponent_braced]
    split
    · rfl
    · dsimp only [withBrace]
      split <;> rfl

/-! ## Signs and quoted texts -/

theorem braced_eq_cons {cs : List Char} {d : Char} (hd : d ≠ '\x7d') (h : braced u post = d :: cs) :
    ∃ rest, u = d :: rest := by
  cases u with
  | nil => exact absurd (List.cons.inj h).1.symm hd
  | cons c rest => exact ⟨rest, by rw [(List.cons.inj h).1]⟩

/-- With a closing brace after it a text begins with no character that it does not begin with alone. -/
theorem not_begins_braced {c d : Char} {cs : List Char} (h : ∀ rest, c :: cs = d :: rest → False) (rest : List Char) :
    c :: braced cs post = d :: rest → False := by
  intro heq
  exact h cs (by rw [(List.cons.inj heq).1])

theorem not_begins_braced_pair {c d e : Char} {cs : List Char} (he : e ≠ '\x7d')
    (h : ∀ rest, c :: cs = d :: e :: rest → False) (rest : List Char) : c :: braced cs post = d :: e :: rest → False := by
  intro heq
  obtain ⟨rfl, htail⟩ := List.cons.inj heq
  obtain ⟨rest', rfl⟩ := braced_eq_cons he htail
  exact h rest' rfl

theorem Sign.scan?_braced (hu : u ≠ []) (post : List Char) :
    Sign.scan? (braced u post) = (Sign.scan? u).map (withBrace post) := by
  fun_cases Sign.scan? u
  case case27 =>
    -- no sign at the front, and the brace makes none
    obtain ⟨c, cs, rfl⟩ := List.exists_cons_of_ne_nil hu
    rw [braced_cons, Sign.scan?]
    · rfl
    all_goals
      first
        | exact not_begins_braced (by assumption)
        | exact not_begins_braced_pair (by decide) (by assumption)
  -- a sign of one character that also begins one of two
  case case9 | case10 | case19 | case20 | case21 =>
    rename_i cs h
    rw [braced_cons, Sign.scan?]
    · rfl
    · intro rest htail
      obtain ⟨rest', rfl⟩ := braced_eq_cons (by decide) htail
      exact h rest' rfl
  all_goals rfl

theorem scanQuoted?_cons (mark : Char) {c : Char} (hc : c ≠ '\\') (cs : List Char) :
    scanQuoted? mark (c :: cs) =
      if c = mark then some ([], cs) else (scanQuoted? mark cs).map fun p => (c :: p.1, p.2) := by
  rw [scanQuoted?, if_neg hc]
  exact fun _ _ h => absurd h hc

/-- A quoted text ends before the brace, or it does not end where nothing follows the brace. -/
def QuotedBefore (mark : Char) (u : List Char) : Prop :=
  scanQuoted? mark (braced u []) = none ∨ ∃ t r, ∀ post, scanQuoted? mark (braced u post) = some (t, braced r post)

namespace QuotedBefore

variable {mark : Char}

theorem escaped (h : QuotedBefore mark u) (c : Char) : QuotedBefore mark ('\\' :: c :: u) := by
  rcases h with h | ⟨t, r, h⟩
  · left
    rw [braced_cons, braced_cons, scanQuoted?, h]
    rfl
  · refine .inr ⟨'\\' :: c :: t, r, fun post => ?_⟩
    rw [braced_cons, braced_cons, scanQuoted?, h]
    rfl

theorem cons (h : QuotedBefore mark u) {c : Char} (hc : c ≠ '\\') : QuotedBefore mark (c :: u) := by
  by_cases hend : c = mark
  · exact .inr ⟨[], u, fun post => by rw [braced_cons, scanQuoted?_cons mark hc, if_pos hend]⟩
  · rcases h with h | ⟨t, r, h⟩
    · left
      rw [braced_cons, scanQuoted?_cons mark hc, if_neg hend, h]
      rfl
    · refine .inr ⟨c :: t, r, fun post => ?_⟩
      rw [braced_cons, scanQuoted?_cons mark hc, if_neg hend, h]
      rfl

end QuotedBefore

theorem quotedBefore {mark : Char} (hmark : mark ≠ '\x7d') : ∀ u : List Char, QuotedBefore mark u
  | [] => by
    left
    rw [braced_nil, scanQuoted?_cons mark (by decide), if_neg hmark.symm]
    rfl
  | [c] => by
    by_cases hslash : c = '\\'
    · subst hslash
      exact .inl rfl
    · exact (quotedBefore hmark []).cons hslash
  | c :: d :: u => by
    by_cases hslash : c = '\\'
    · subst hslash
      exact (quotedBefore hmark u).escaped d
    · exact (quotedBefore hmark (d :: u)).cons hslash

/-! ## Any word -/

/-- A word of a text, with a closing brace and something after it. -/
def Word.withBrace (post : List Char) : Word → Word
  | .blank rest => .blank (braced rest post)
  | .kind k rest => .kind k (braced rest post)
  | .bad cause => .bad cause

/-- A word that is in order. -/
def Word.isSound : Word → Bool
  | .bad _ => false
  | _ => true

/-- The word of a name. -/
def nameWord (run : List Char × List Char) : Word :=
  if isIdentifier run.1 then .kind (.name (String.ofList run.1)) run.2 else .bad .badIdentifier

/-- The word of a quoted text. -/
def quotedWord (t r : List Char) : Word :=
  match unescape t with
  | .ok s => .kind (.text s) r
  | .error e => .bad (.badEscape e)

/-- The word of a sign at the front. -/
def signWord (c : Char) (position : Nat) (cs : List Char) : Word :=
  match Sign.scan? cs with
  | some (s, r) => .kind (.sign s) r
  | none => .bad (.unexpectedChar c position)

theorem scanWord_cons (position : Nat) (afterPoint : Bool) (c : Char) (rest : List Char) :
    scanWord position afterPoint (c :: rest) =
      if isBlank c then .blank (rest.dropWhile isBlank)
      else (scanReal? afterPoint (c :: rest)).elim
        ((scanInteger? (c :: rest)).elim
          (if isNameChar c then nameWord ((c :: rest).span isNameChar)
            else (if c = '\'' ∨ c = '"' then scanQuoted? c rest else none).elim (signWord c position (c :: rest))
              fun p => quotedWord p.1 p.2)
          fun p => integerWord (takenFrom (c :: rest) p.2) p.1 p.2)
        fun p => .kind (.real p.1) p.2 := by
  rw [scanWord]
  cases scanReal? afterPoint (c :: rest) with
  | some p => rfl
  | none =>
    cases scanInteger? (c :: rest) with
    | some p => rfl
    | none =>
      show (if isBlank c then _ else if isNameChar c then _ else _) = _
      cases (if c = '\'' ∨ c = '"' then scanQuoted? c rest else none) <;> rfl

theorem nameWord_withBrace (run : List Char × List Char) (post : List Char) :
    nameWord (withBrace post run) = (nameWord run).withBrace post := by
  unfold nameWord
  show (if isIdentifier run.1 then _ else _) = _
  split <;> rfl

theorem quotedWord_withBrace (t r post : List Char) : quotedWord t (braced r post) = (quotedWord t r).withBrace post := by
  unfold quotedWord
  cases unescape t <;> rfl

theorem integerWord_withBrace (taken : List Char) (i : Int) (r post : List Char) :
    integerWord taken i (braced r post) = (integerWord taken i r).withBrace post := by
  simp only [integerWord]
  split <;> rfl

/-- **A word at the front** ends before the brace, if there is one where nothing follows the brace. -/
theorem scanWord_braced (position : Nat) (afterPoint : Bool) (hu : u ≠ [])
    (h : (scanWord position afterPoint (braced u [])).isSound = true) :
    ∃ w : Word, ∀ position' post, scanWord position' afterPoint (braced u post) = w.withBrace post := by
  obtain ⟨c, cs, rfl⟩ := List.exists_cons_of_ne_nil hu
  have hreal := fun post => scanReal?_braced afterPoint (c :: cs) post
  have hinteger := fun post => scanInteger?_braced (c :: cs) post
  have hspan := fun post => span_braced isNameChar (by decide +kernel) (c :: cs) post
  simp only [braced_cons] at hreal hinteger hspan h ⊢
  simp only [scanWord_cons, hreal, hinteger, hspan, nameWord_withBrace] at h ⊢
  by_cases hblank : isBlank c = true
  · refine ⟨.blank (cs.dropWhile isBlank), fun position' post => ?_⟩
    rw [if_pos hblank, dropWhile_braced isBlank (by decide)]
    rfl
  simp only [if_neg hblank] at h ⊢
  cases hx : scanReal? afterPoint (c :: cs) with
  | some p => exact ⟨.kind (.real p.1) p.2, fun _ _ => rfl⟩
  | none =>
    cases hi : scanInteger? (c :: cs) with
    | some p =>
      refine ⟨integerWord (takenFrom (c :: cs) p.2) p.1 p.2, fun _ post => ?_⟩
      rw [← integerWord_withBrace, ← takenFrom_braced (c :: cs) p.2 post]
      rfl
    | none =>
      by_cases hname : isNameChar c = true
      · exact ⟨nameWord ((c :: cs).span isNameChar), fun _ _ => if_pos hname⟩
      · simp only [hx, hi, if_neg hname, Option.map_none, Option.elim_none] at h ⊢
        by_cases hquote : c = '\'' ∨ c = '"'
        · simp only [if_pos hquote] at h ⊢
          have hmark : c ≠ '\x7d' := by rcases hquote with rfl | rfl <;> decide
          rcases quotedBefore hmark cs with hopen | ⟨t, r, hclosed⟩
          · -- a quotation mark that is not closed is no sign either
            have hsign : Sign.scan? (c :: braced cs []) = none := by rcases hquote with rfl | rfl <;> rfl
            rw [hopen, Option.elim_none, signWord, hsign] at h
            cases h
          · exact ⟨quotedWord t r, fun _ post => by rw [hclosed, Option.elim_some, quotedWord_withBrace]⟩
        · have hsign := fun post => Sign.scan?_braced (List.cons_ne_nil c cs) post
          simp only [if_neg hquote, Option.elim_none, signWord, braced_cons] at h hsign ⊢
          cases hscan : Sign.scan? (c :: cs) with
          | some p => exact ⟨.kind (.sign p.1) p.2, fun _ post => by rw [hsign, hscan]; rfl⟩
          | none =>
            rw [hsign, hscan] at h
            cases h

end RenderBench.Template
