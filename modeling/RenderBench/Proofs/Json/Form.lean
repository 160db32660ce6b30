import RenderBench.Proofs.Json.Text
import RenderBench.Proofs.Number.Layout

/-!
# `Proofs.Json.Form` — what a document may look like

A document has many texts, which differ in the blanks between its tokens. Reading takes any of them from the front of
a text and leaves what follows, provided that what follows cannot go on with a numeral. The fuel it needs is twice the
number of characters, since each level of lists and objects costs two steps and two brackets.

## Contents
- `Blanks`: the blanks that may stand between tokens.
- `readValue?_int`, `readValue?_real`: numbers.
- `Form`, `ElementsForm`, `MembersForm`: the texts of a document, of elements and of members.
- `readValue?_of_form`, `read?_of_form`: every text of a document is read as the document.
-/

namespace RenderBench

/-! ## Blanks -/

/-- Nothing but blanks. -/
def Blanks (cs : List Char) : Prop := ∀ c ∈ cs, isJsonBlank c = true

theorem blanks_nil : Blanks [] := fun _ h => absurd h List.not_mem_nil

theorem Blanks.append {b b' : List Char} (hb : Blanks b) (hb' : Blanks b') : Blanks (b ++ b') := by
  intro c hc
  exact (List.mem_append.mp hc).elim (hb c) (hb' c)

variable {c : Char} {b cs rest : List Char}

theorem skipJsonBlank_append (hb : Blanks b) (cs : List Char) : skipJsonBlank (b ++ cs) = skipJsonBlank cs := by
  induction b with
  | nil => rfl
  | cons c b ih =>
    have hc : isJsonBlank c = true := hb c List.mem_cons_self
    rw [List.cons_append, skipJsonBlank, List.dropWhile_cons, if_pos hc]
    exact ih fun d hd => hb d (List.mem_cons_of_mem c hd)

theorem skipJsonBlank_cons (hc : isJsonBlank c = false) (cs : List Char) : skipJsonBlank (c :: cs) = c :: cs := by
  rw [skipJsonBlank, List.dropWhile_cons, hc]
  rfl

theorem skipJsonBlank_blanks (hb : Blanks b) (hc : isJsonBlank c = false) (cs : List Char) :
    skipJsonBlank (b ++ c :: cs) = c :: cs := by
  rw [skipJsonBlank_append hb, skipJsonBlank_cons hc]

theorem endsNumeral_nil : EndsNumeral [] := by
  intro c hc
  cases hc

theorem endsNumeral_cons (hc : c.isDigit = false ∧ c ≠ '.' ∧ c ≠ 'e' ∧ c ≠ 'E') (cs : List Char) :
    EndsNumeral (c :: cs) := by
  intro d hd
  cases hd
  exact hc

/-- A numeral ends where a blank or a bracket follows. -/
theorem endsNumeral_blanks (hb : Blanks b) (hrest : EndsNumeral rest) : EndsNumeral (b ++ rest) := by
  cases b with
  | nil => exact hrest
  | cons c b =>
    have hc : isJsonBlank c = true := hb c List.mem_cons_self
    simp only [isJsonBlank, Bool.or_eq_true, beq_iff_eq] at hc
    refine endsNumeral_cons ?_ (b ++ rest)
    rcases hc with ((rfl | rfl) | rfl) | rfl
    · decide
    · decide
    · decide
    · decide

/-! ## Scalars -/

theorem dropWord?_append (word rest : List Char) : dropWord? word (word ++ rest) = some rest := by
  induction word with
  | nil => rfl
  | cons c word ih => rw [List.cons_append, dropWord?, if_pos rfl, ih]

theorem readWord?_append (word : String) (j : Json) (rest : List Char) :
    readWord? word j (word.toList ++ rest) = some (j, rest) := by
  rw [readWord?, dropWord?_append]
  rfl

theorem readNumber?_digits (negative : Bool) (n : Nat) (hrest : EndsNumeral rest) :
    readNumber? negative (decimalDigits n ++ rest) = some (.int (if negative then -(n : Int) else n), rest) := by
  have hproper : WrittenNumeral.Proper ⟨decimalDigits n, none, none⟩ :=
    ⟨allDigits_decimalDigits n, decimalDigits_ne_nil n, AllDigits.nil, fun _ h => absurd h (Option.not_mem_none _)⟩
  have hscan := scanNumeral?_chars hproper hrest
  have hchars : WrittenNumeral.chars ⟨decimalDigits n, none, none⟩ = decimalDigits n := by
    simp only [WrittenNumeral.chars, WrittenNumeral.fractionChars, WrittenNumeral.exponentChars, List.append_nil]
  rw [hchars] at hscan
  have hne : (decimalDigits n).isEmpty = false := by
    rw [List.isEmpty_eq_false_iff]
    exact decimalDigits_ne_nil n
  unfold readNumber?
  rw [hscan]
  simp only [WrittenNumeral.numeral, hne, Bool.false_or, Option.map_none, Option.isNone_none, Bool.and_self,
    natOfDigits_decimalDigits, if_true]
  rfl

/-- A numeral with a point or an exponent is a real number. -/
theorem readNumber?_numeral (negative : Bool) {w : WrittenNumeral} (hproper : w.Proper)
    (hnotWhole : w.fraction.isSome ∨ w.exponent.isSome) (hfraction : w.fraction ≠ some [])
    (hrest : EndsNumeral rest) :
    readNumber? negative (w.chars ++ rest) = some (.real (w.numeral.value negative), rest) := by
  have hne : w.numeral.whole.isEmpty = false := by
    rw [List.isEmpty_eq_false_iff]
    exact hproper.whole_ne_nil
  have hempty : (w.numeral.fraction == some []) = false := beq_eq_false_iff_ne.mpr hfraction
  have hreal : (w.numeral.fraction.isNone && w.numeral.exponent.isNone) = false := by
    obtain ⟨whole, fraction, exponent⟩ := w
    rcases hnotWhole with h | h
    · obtain ⟨ds, rfl⟩ := Option.isSome_iff_exists.mp h
      rfl
    · obtain ⟨p, rfl⟩ := Option.isSome_iff_exists.mp h
      exact Bool.and_false _
  unfold readNumber?
  rw [scanNumeral?_chars hproper hrest]
  simp only [hne, hempty, hreal, Bool.or_self, Bool.false_eq_true, if_false]

namespace Json

variable {fuel : Nat}

/-- The blanks before a document do not count. -/
theorem readValue?_blanks (hb : Blanks b) (fuel : Nat) (cs : List Char) :
    readValue? fuel (b ++ cs) = readValue? fuel cs := by
  cases fuel with
  | zero => rw [readValue?, readValue?]
  | succ fuel => rw [readValue?, readValue?, skipJsonBlank_append hb]

theorem not_isJsonBlank_of_isDigit (hc : c.isDigit = true) : isJsonBlank c = false := by
  rw [Bool.eq_false_iff]
  intro hblank
  simp only [isJsonBlank, Bool.or_eq_true, beq_iff_eq] at hblank
  rcases hblank with ((rfl | rfl) | rfl) | rfl
  all_goals exact absurd hc (by decide)

theorem readValue?_digit (hc : c.isDigit = true) (fuel : Nat) (cs : List Char) :
    readValue? (fuel + 1) (c :: cs) = readNumber? false (c :: cs) := by
  rw [readValue?, skipJsonBlank_cons (not_isJsonBlank_of_isDigit hc)]
  split
  case h_11 => rfl
  all_goals
    next heq =>
      cases heq
      exact absurd hc (by decide)

theorem readValue?_minus (hc : c.isDigit = true) (fuel : Nat) (cs : List Char) :
    readValue? (fuel + 1) ('-' :: c :: cs) = readNumber? true (c :: cs) := by
  rw [readValue?, skipJsonBlank_cons (by decide)]
  split
  case h_4 heq =>
    cases heq
    exact absurd hc (by decide)
  case h_5 heq =>
    cases heq
    rfl
  case h_11 hminus _ _ _ _ _ => exact absurd rfl (hminus (c :: cs))
  all_goals
    next heq => cases heq

/-- A number under its sign is read like the number behind it. -/
theorem readValue?_signed (negative : Bool) {ds : List Char} (hds : AllDigits ds) (hne : ds ≠ []) (fuel : Nat)
    (cs : List Char) :
    readValue? (fuel + 1) ((if negative then '-' :: (ds ++ cs) else ds ++ cs)) = readNumber? negative (ds ++ cs) := by
  cases ds with
  | nil => exact absurd rfl hne
  | cons d ds =>
    cases negative with
    | true => exact readValue?_minus hds.head fuel (ds ++ cs)
    | false => exact readValue?_digit hds.head fuel (ds ++ cs)

theorem readValue?_int (i : Int) (fuel : Nat) (hrest : EndsNumeral rest) :
    readValue? (fuel + 1) (decimalInt i ++ rest) = some (.int i, rest) := by
  have hread := readValue?_signed (decide (i < 0)) (allDigits_decimalDigits i.natAbs)
    (decimalDigits_ne_nil i.natAbs) fuel rest
  rw [readNumber?_digits _ _ hrest] at hread
  unfold decimalInt
  by_cases hi : i < 0
  · have hvalue : -(i.natAbs : Int) = i := by omega
    rw [decide_eq_true hi, if_pos rfl, if_pos rfl, hvalue] at hread
    rw [if_pos hi]
    exact hread
  · have hvalue : (i.natAbs : Int) = i := by omega
    rw [decide_eq_false hi, if_neg Bool.false_ne_true, if_neg Bool.false_ne_true, hvalue] at hread
    rw [if_neg hi]
    exact hread

theorem readValue?_real (x : Binary64) (fuel : Nat) (hrest : EndsNumeral rest) :
    readValue? (fuel + 1) (RealLayout.json.write x ++ rest) = some (.real x, rest) := by
  cases x with
  | nan =>
    change readValue? (fuel + 1) ('N' :: ("aN".toList ++ rest)) = _
    rw [readValue?, skipJsonBlank_cons (by decide)]
    exact readWord?_append "aN" _ rest
  | infinite negative =>
    cases negative with
    | true =>
      change readValue? (fuel + 1) ('-' :: 'I' :: ("nfinity".toList ++ rest)) = _
      rw [readValue?, skipJsonBlank_cons (by decide)]
      exact readWord?_append "nfinity" _ rest
    | false =>
      change readValue? (fuel + 1) ('I' :: ("nfinity".toList ++ rest)) = _
      rw [readValue?, skipJsonBlank_cons (by decide)]
      exact readWord?_append "nfinity" _ rest
  | finite negative m e h =>
    -- behind its sign a finite number is a numeral that is not whole, and is read as a real for it
    have hmark : RealLayout.json.exponentMark = 'e' := rfl
    obtain ⟨w, hproper, hnotWhole, hfraction, hvalue, hwrite⟩ := exists_numeral hmark negative h
    have hread := readValue?_signed negative hproper.whole hproper.whole_ne_nil fuel
      (WrittenNumeral.fractionChars w.fraction ++ WrittenNumeral.exponentChars w.exponent ++ rest)
    have hchars : w.whole ++ (WrittenNumeral.fractionChars w.fraction ++ WrittenNumeral.exponentChars w.exponent ++
        rest) = w.chars ++ rest := by
      simp only [WrittenNumeral.chars, List.append_assoc]
    rw [hchars, readNumber?_numeral negative hproper hnotWhole hfraction hrest, hvalue] at hread
    rw [hwrite, ← hread]
    cases negative with
    | true => rfl
    | false => rfl

/-! ## Documents -/

mutual

/-- The texts of a document. -/
inductive Form : Json → List Char → Prop
  | null : Form .null "null".toList
  | true : Form (.bool true) "true".toList
  | false : Form (.bool false) "false".toList
  | int (i : Int) : Form (.int i) (decimalInt i)
  | real (x : Binary64) : Form (.real x) (RealLayout.json.write x)
  | text (s : String) : Form (.text s) (jsonString s)
  | noElements : Form (.list []) ['[', ']']
  | list {es : List Json} {cs : List Char} (h : ElementsForm es cs) : Form (.list es) ('[' :: cs)
  | noMembers : Form (.object []) ['\x7b', '\x7d']
  | object {ms : List (String × Json)} {cs : List Char} (h : MembersForm ms cs) : Form (.object ms) ('\x7b' :: cs)

/-- The texts of one or more elements and the closing bracket. -/
inductive ElementsForm : List Json → List Char → Prop
  | last {e : Json} {b cs b' : List Char} (hb : Blanks b) (he : Form e cs) (hb' : Blanks b') :
    ElementsForm [e] (b ++ (cs ++ (b' ++ [']'])))
  | more {e : Json} {es : List Json} {b cs ds : List Char} (hb : Blanks b) (he : Form e cs) (hes : ElementsForm es ds) :
    ElementsForm (e :: es) (b ++ (cs ++ ',' :: ds))

/-- The texts of one or more members and the closing brace. -/
inductive MembersForm : List (String × Json) → List Char → Prop
  | last {k : String} {v : Json} {b cs b' : List Char} (hb : Blanks b) (hv : Form v cs) (hb' : Blanks b') :
    MembersForm [(k, v)] (b ++ (jsonString k ++ ':' :: ' ' :: (cs ++ (b' ++ ['\x7d']))))
  | more {k : String} {v : Json} {ms : List (String × Json)} {b cs ds : List Char} (hb : Blanks b) (hv : Form v cs)
    (hms : MembersForm ms ds) : MembersForm ((k, v) :: ms) (b ++ (jsonString k ++ ':' :: ' ' :: (cs ++ ',' :: ds)))

end

/-- Where a document begins there is no blank and no closing bracket. -/
def Begins (cs : List Char) : Prop := ∃ c r, cs = c :: r ∧ isJsonBlank c = false ∧ c ≠ ']'

theorem begins_cons (hc : isJsonBlank c = false ∧ c ≠ ']') (cs : List Char) : Begins (c :: cs) :=
  ⟨c, cs, rfl, hc⟩

theorem begins_digits {ds : List Char} (hds : AllDigits ds) (hne : ds ≠ []) (cs : List Char) : Begins (ds ++ cs) := by
  cases ds with
  | nil => exact absurd rfl hne
  | cons d ds =>
    refine ⟨d, ds ++ cs, rfl, not_isJsonBlank_of_isDigit hds.head, ?_⟩
    rintro rfl
    exact absurd hds.head (by decide)

theorem begins_real (x : Binary64) : Begins (RealLayout.json.write x) := by
  cases x with
  | nan => exact begins_cons (by decide) _
  | infinite negative =>
    cases negative with
    | true => exact begins_cons (by decide) _
    | false => exact begins_cons (by decide) _
  | finite negative m e h =>
    have hmark : RealLayout.json.exponentMark = 'e' := rfl
    obtain ⟨w, hproper, -, -, -, hwrite⟩ := exists_numeral hmark negative h
    rw [hwrite]
    cases negative with
    | true => exact begins_cons (by decide) _
    | false =>
      have hbegins := begins_digits hproper.whole hproper.whole_ne_nil
        (WrittenNumeral.fractionChars w.fraction ++ WrittenNumeral.exponentChars w.exponent)
      rw [← List.append_assoc] at hbegins
      exact hbegins

theorem Form.begins {j : Json} (h : Form j cs) : Begins cs := by
  cases h with
  | null => exact begins_cons (by decide) _
  | true => exact begins_cons (by decide) _
  | false => exact begins_cons (by decide) _
  | int i =>
    unfold decimalInt
    split
    · exact begins_cons (by decide) _
    · have hbegins := begins_digits (allDigits_decimalDigits i.natAbs) (decimalDigits_ne_nil i.natAbs) []
      rwa [List.append_nil] at hbegins
  | real x => exact begins_real x
  | text s => exact begins_cons (by decide) _
  | noElements => exact begins_cons (by decide) _
  | list h => exact begins_cons (by decide) _
  | noMembers => exact begins_cons (by decide) _
  | object h => exact begins_cons (by decide) _

theorem Begins.length_pos (h : Begins cs) : 0 < cs.length := by
  obtain ⟨c, r, rfl, -⟩ := h
  exact Nat.succ_pos _

/-! ## Reading a list, and an object -/

/-- A text in quotes is read, and what follows is left. -/
theorem jsonString_append (s : String) (rest : List Char) :
    jsonString s ++ rest = '"' :: (s.toList.flatMap jsonEscaped ++ '"' :: rest) := by
  simp only [jsonString, List.cons_append, List.append_assoc, List.nil_append]

theorem readValue?_list {es : List Json} {r : List Char} (hskip : skipJsonBlank cs = c :: r) (hc : c ≠ ']')
    (hread : readElements? fuel (c :: r) = some (es, rest)) :
    readValue? (fuel + 1) ('[' :: cs) = some (.list es, rest) := by
  rw [readValue?, skipJsonBlank_cons (by decide)]
  split
  case h_2 heq =>
    cases heq
    rw [hskip]
    split
    · next heq =>
      cases heq
      exact absurd rfl hc
    · rw [hread]
      rfl
  case h_11 hbracket _ _ _ _ _ _ _ _ => exact absurd rfl (hbracket cs)
  all_goals
    next heq => cases heq

theorem readValue?_object {ms : List (String × Json)} {r : List Char} (hskip : skipJsonBlank cs = '"' :: r)
    (hread : readMembers? fuel ('"' :: r) = some (ms, rest)) :
    readValue? (fuel + 1) ('\x7b' :: cs) = some (.object ms, rest) := by
  rw [readValue?, skipJsonBlank_cons (by decide)]
  split
  case h_3 heq =>
    cases heq
    rw [hskip]
    split
    · next heq => cases heq
    · rw [hread]
      rfl
  case h_11 hbrace _ _ _ _ _ _ _ => exact absurd rfl (hbrace cs)
  all_goals
    next heq => cases heq

theorem readElements?_last {e : Json} {r : List Char} (hread : readValue? fuel cs = some (e, r))
    (hskip : skipJsonBlank r = ']' :: rest) : readElements? (fuel + 1) cs = some ([e], rest) := by
  rw [readElements?, hread]
  simp only [hskip]

theorem readElements?_more {e : Json} {es : List Json} {r : List Char}
    (hread : readValue? fuel cs = some (e, ',' :: r)) (hrest : readElements? fuel r = some (es, rest)) :
    readElements? (fuel + 1) cs = some (e :: es, rest) := by
  rw [readElements?, hread]
  simp only [skipJsonBlank_cons (show isJsonBlank ',' = false from rfl), hrest, Option.map_some]

theorem readMembers?_last {k : String} {v : Json} {r : List Char} (hb : Blanks b)
    (hread : readValue? fuel cs = some (v, r)) (hskip : skipJsonBlank r = '\x7d' :: rest) :
    readMembers? (fuel + 1) (b ++ (jsonString k ++ ':' :: cs)) = some ([(k, v)], rest) := by
  rw [jsonString_append, readMembers?, skipJsonBlank_blanks hb (by decide)]
  simp only [readString?_escaped, skipJsonBlank_cons (show isJsonBlank ':' = false from rfl), hread, hskip,
    String.ofList_toList]

theorem readMembers?_more {k : String} {v : Json} {ms : List (String × Json)} {r : List Char} (hb : Blanks b)
    (hread : readValue? fuel cs = some (v, ',' :: r)) (hrest : readMembers? fuel r = some (ms, rest)) :
    readMembers? (fuel + 1) (b ++ (jsonString k ++ ':' :: cs)) = some ((k, v) :: ms, rest) := by
  rw [jsonString_append, readMembers?, skipJsonBlank_blanks hb (by decide)]
  simp only [readString?_escaped, skipJsonBlank_cons (show isJsonBlank ':' = false from rfl),
    skipJsonBlank_cons (show isJsonBlank ',' = false from rfl), hread, hrest, String.ofList_toList, Option.map_some]

/-! ## Reading every form -/

theorem readElements?_blanks (hb : Blanks b) (fuel : Nat) (cs : List Char) :
    readElements? fuel (b ++ cs) = readElements? fuel cs := by
  cases fuel with
  | zero => rw [readElements?, readElements?]
  | succ fuel => rw [readElements?, readElements?, readValue?_blanks hb]

theorem readMembers?_blanks (hb : Blanks b) (fuel : Nat) (cs : List Char) :
    readMembers? fuel (b ++ cs) = readMembers? fuel cs := by
  cases fuel with
  | zero => rw [readMembers?, readMembers?]
  | succ fuel => rw [readMembers?, readMembers?, skipJsonBlank_append hb]

/-- What may follow an element or a member. -/
theorem endsNumeral_comma (cs : List Char) : EndsNumeral (',' :: cs) := endsNumeral_cons (by decide) cs

theorem endsNumeral_bracket (hb : Blanks b) (cs : List Char) : EndsNumeral (b ++ ']' :: cs) :=
  endsNumeral_blanks hb (endsNumeral_cons (by decide) cs)

theorem endsNumeral_brace (hb : Blanks b) (cs : List Char) : EndsNumeral (b ++ '\x7d' :: cs) :=
  endsNumeral_blanks hb (endsNumeral_cons (by decide) cs)

theorem ElementsForm.begins {es : List Json} (h : ElementsForm es cs) :
    ∃ b r, Blanks b ∧ cs = b ++ r ∧ Begins r := by
  cases h with
  | last hb he hb' =>
    obtain ⟨c, r, rfl, hc⟩ := he.begins
    exact ⟨_, _, hb, rfl, begins_cons hc _⟩
  | more hb he hes =>
    obtain ⟨c, r, rfl, hc⟩ := he.begins
    exact ⟨_, _, hb, rfl, begins_cons hc _⟩

theorem MembersForm.begins {ms : List (String × Json)} (h : MembersForm ms cs) :
    ∃ b r, Blanks b ∧ cs = b ++ '"' :: r := by
  cases h with
  | last hb hv hb' => exact ⟨_, _, hb, rfl⟩
  | more hb hv hms => exact ⟨_, _, hb, rfl⟩

theorem blanks_one : Blanks [' '] := by
  intro c hc
  rw [List.mem_singleton.mp hc]
  rfl

mutual

/-- **Every text of a document** is read as the document, and what follows is left. -/
theorem readValue?_of_form {j : Json} {cs : List Char} (h : Form j cs) (fuel : Nat) (rest : List Char)
    (hfuel : 2 * cs.length ≤ fuel) (hrest : EndsNumeral rest) : readValue? fuel (cs ++ rest) = some (j, rest) := by
  have hlength := h.begins.length_pos
  -- the fuel lasts for two steps at each character
  obtain ⟨fuel, rfl⟩ : ∃ k, fuel = k + 1 := ⟨fuel - 1, by omega⟩
  cases h with
  | null =>
    change readValue? (fuel + 1) ('n' :: ("ull".toList ++ rest)) = _
    rw [readValue?, skipJsonBlank_cons (by decide)]
    exact readWord?_append "ull" _ rest
  | true =>
    change readValue? (fuel + 1) ('t' :: ("rue".toList ++ rest)) = _
    rw [readValue?, skipJsonBlank_cons (by decide)]
    exact readWord?_append "rue" _ rest
  | false =>
    change readValue? (fuel + 1) ('f' :: ("alse".toList ++ rest)) = _
    rw [readValue?, skipJsonBlank_cons (by decide)]
    exact readWord?_append "alse" _ rest
  | int i => exact readValue?_int i fuel hrest
  | real x => exact readValue?_real x fuel hrest
  | text s =>
    rw [jsonString_append, readValue?, skipJsonBlank_cons (by decide)]
    simp only [readString?_escaped, Option.map_some, String.ofList_toList]
  | noElements =>
    change readValue? (fuel + 1) ('[' :: ']' :: rest) = _
    rw [readValue?, skipJsonBlank_cons (by decide)]
    simp only [skipJsonBlank_cons (show isJsonBlank ']' = Bool.false from rfl)]
  | list hes =>
    obtain ⟨b, r, hb, hcs, c, r, rfl, hblank, hc⟩ := hes.begins
    rw [List.length_cons] at hfuel
    have hread := readElements?_of_form hes fuel rest (by omega)
    subst hcs
    rw [List.append_assoc, readElements?_blanks hb] at hread
    have hskip : skipJsonBlank (b ++ c :: r ++ rest) = c :: (r ++ rest) := by
      rw [List.append_assoc]
      exact skipJsonBlank_blanks hb hblank (r ++ rest)
    exact readValue?_list hskip hc hread
  | noMembers =>
    change readValue? (fuel + 1) ('\x7b' :: '\x7d' :: rest) = _
    rw [readValue?, skipJsonBlank_cons (by decide)]
    simp only [skipJsonBlank_cons (show isJsonBlank '\x7d' = Bool.false from rfl)]
  | object hms =>
    obtain ⟨b, r, hb, hcs⟩ := hms.begins
    rw [List.length_cons] at hfuel
    have hread := readMembers?_of_form hms fuel rest (by omega)
    subst hcs
    rw [List.append_assoc, readMembers?_blanks hb] at hread
    have hskip : skipJsonBlank (b ++ '"' :: r ++ rest) = '"' :: (r ++ rest) := by
      rw [List.append_assoc]
      exact skipJsonBlank_blanks hb (by decide) (r ++ rest)
    exact readValue?_object hskip hread

theorem readElements?_of_form {es : List Json} {cs : List Char} (h : ElementsForm es cs) (fuel : Nat)
    (rest : List Char) (hfuel : 2 * cs.length + 1 ≤ fuel) : readElements? fuel (cs ++ rest) = some (es, rest) := by
  obtain ⟨fuel, rfl⟩ : ∃ k, fuel = k + 1 := ⟨fuel - 1, by omega⟩
  cases h with
  | last hb he hb' =>
    simp only [List.length_append, List.length_cons, List.length_nil] at hfuel
    simp only [List.append_assoc, List.cons_append, List.nil_append]
    rw [readElements?_blanks hb]
    refine readElements?_last (readValue?_of_form he fuel _ (by omega) (endsNumeral_bracket hb' rest)) ?_
    exact skipJsonBlank_blanks hb' (by decide) rest
  | more hb he hes =>
    simp only [List.length_append, List.length_cons] at hfuel
    simp only [List.append_assoc, List.cons_append]
    rw [readElements?_blanks hb]
    exact readElements?_more (readValue?_of_form he fuel _ (by omega) (endsNumeral_comma _))
      (readElements?_of_form hes fuel rest (by omega))

theorem readMembers?_of_form {ms : List (String × Json)} {cs : List Char} (h : MembersForm ms cs) (fuel : Nat)
    (rest : List Char) (hfuel : 2 * cs.length + 1 ≤ fuel) : readMembers? fuel (cs ++ rest) = some (ms, rest) := by
  obtain ⟨fuel, rfl⟩ : ∃ k, fuel = k + 1 := ⟨fuel - 1, by omega⟩
  cases h with
  | last hb hv hb' =>
    simp only [List.length_append, List.length_cons, List.length_nil] at hfuel
    simp only [List.append_assoc, List.cons_append, List.nil_append]
    have hread := readValue?_of_form hv fuel _ (by omega) (endsNumeral_brace hb' rest)
    rw [← readValue?_blanks blanks_one] at hread
    exact readMembers?_last hb hread (skipJsonBlank_blanks hb' (by decide) rest)
  | @more k v ms b cs ds hb hv hms =>
    simp only [List.length_append, List.length_cons] at hfuel
    simp only [List.append_assoc, List.cons_append]
    have hread := readValue?_of_form hv fuel _ (by omega) (endsNumeral_comma (ds ++ rest))
    rw [← readValue?_blanks blanks_one] at hread
    exact readMembers?_more hb hread (readMembers?_of_form hms fuel rest (by omega))

end

/-- A text that is a document with blanks around it. -/
theorem read?_of_form {j : Json} {b cs b' : List Char} (hb : Blanks b) (h : Form j cs) (hb' : Blanks b') :
    read? (String.ofList (b ++ (cs ++ b'))) = some j := by
  have hends : EndsNumeral b' := by
    have h := endsNumeral_blanks hb' endsNumeral_nil
    rwa [List.append_nil] at h
  have hlength : 2 * cs.length ≤ 2 * (b ++ (cs ++ b')).length + 2 := by
    simp only [List.length_append]
    omega
  have hskip : skipJsonBlank b' = [] := by
    have h := skipJsonBlank_append hb' []
    rwa [List.append_nil] at h
  unfold read?
  rw [String.toList_ofList]
  dsimp only
  rw [readValue?_blanks hb, readValue?_of_form h _ b' hlength hends]
  simp only [hskip, List.isEmpty_nil, if_true]

end Json

end RenderBench
