import RenderBench.Number.Reading
import RenderBench.Template.Token
import RenderBench.Template.Token.Escape
import RenderBench.Text.Blank
import RenderBench.Text.Identifier

/-!
# `Template.Token.Lexer` — words from text

Text runs up to the next opening tag. A minus sign inside a tag's delimiter takes the white space on its
other side away; a plus sign changes nothing. Comments vanish, raw sections are text. Inside a tag the
closing delimiter ends it only where no bracket is open.

## Contents
- `normalizeLines`: one kind of line end, and none at the end of the document.
- `Opener`, `findOpening?`: the next tag.
- `scanWord`: one word inside a tag.
- `lexemes`: the words of a document.
-/

namespace RenderBench.Template

/-! ## Lines -/

/-- Line feeds only, without the one at the end. -/
def normalizeLines (cs : List Char) : List Char :=
  let unified := unifyLines cs
  match unified.getLast? with
  | some '\n' => unified.dropLast
  | _ => unified

/-- How many lines end in a text. -/
def lineEnds (cs : List Char) : Nat := cs.count '\n'

/-! ## Opening tags -/

inductive Opener where
  | print
  | tag
  | comment
  | raw
  deriving DecidableEq

/-- A tag that opens: its kind, whether white space before it is taken away, the characters it takes
    and those after it. -/
structure Opening where
  kind : Opener
  strips : Bool
  taken : List Char
  rest : List Char

/-- A sign at the front that controls white space: whether it takes it away, and what follows. -/
def controlSign : List Char → Bool × List Char
  | '-' :: cs => (true, cs)
  | '+' :: cs => (false, cs)
  | cs => (false, cs)

/-- What follows a word at the front. -/
def afterWord? (word : String) (cs : List Char) : Option (List Char) := dropWord? word.toList cs

/-- What follows the end of a tag; `-` before it takes the white space after it away. -/
def afterTagEnd? (plus : Bool) (close : Char) : List Char → Option (List Char)
  | '-' :: c :: '\x7d' :: cs => if c = close then some (cs.dropWhile isBlank) else none
  | '+' :: c :: '\x7d' :: cs => if plus && c = close then some cs else none
  | c :: '\x7d' :: cs => if c = close then some cs else none
  | _ => none

/-- The rest of a tag that begins a raw section, after its opening delimiter. -/
def afterRawBegin? (cs : List Char) : Option (List Char) :=
  match afterWord? "raw" (cs.dropWhile isBlank) with
  | some rest => afterTagEnd? false '%' (rest.dropWhile isBlank)
  | none => none

/-- The rest of a tag that ends a raw section, after its opening delimiter. -/
def afterRawEnd? (cs : List Char) : Option (List Char) :=
  match afterWord? "endraw" (cs.dropWhile isBlank) with
  | some rest => afterTagEnd? true '%' (rest.dropWhile isBlank)
  | none => none

/-- The characters of `whole` that are not in its end `rest`. -/
def takenFrom (whole rest : List Char) : List Char := whole.take (whole.length - rest.length)

/-- The tag that opens at the front. -/
def openingAt? (cs : List Char) : Option Opening :=
  match cs with
  | '\x7b' :: '\x7b' :: after =>
    let (strips, rest) := controlSign after
    some ⟨.print, strips, takenFrom cs rest, rest⟩
  | '\x7b' :: '%' :: after =>
    let (strips, rest) := controlSign after
    match afterRawBegin? rest with
    | some r => some ⟨.raw, strips, takenFrom cs r, r⟩
    | none => some ⟨.tag, strips, takenFrom cs rest, rest⟩
  | '\x7b' :: '#' :: after =>
    let (strips, rest) := controlSign after
    some ⟨.comment, strips, takenFrom cs rest, rest⟩
  | _ => none

/-- The text before the next tag, and the tag. -/
def findOpening? : List Char → Option (List Char × Opening)
  | [] => none
  | c :: cs =>
    match openingAt? (c :: cs) with
    | some o => some ([], o)
    | none => (findOpening? cs).map fun (text, o) => (c :: text, o)

/-- What follows the end of a comment, and the characters it takes with its end. -/
def findCommentEnd? : List Char → Option (List Char)
  | [] => none
  | c :: cs =>
    match afterTagEnd? true '#' (c :: cs) with
    | some rest => some rest
    | none => findCommentEnd? cs

/-- A raw section up to its end: the text, whether white space at its end is taken away, and what follows
    the end. -/
def findRawEnd? : List Char → Option (List Char × Bool × List Char)
  | [] => none
  | c :: cs =>
    let here : Option (Bool × List Char) := match c :: cs with
      | '\x7b' :: '%' :: after =>
        let (strips, rest) := controlSign after
        (afterRawEnd? rest).map fun r => (strips, r)
      | _ => none
    match here with
    | some (strips, rest) => some ([], strips, rest)
    | none => (findRawEnd? cs).map fun (text, s, r) => (c :: text, s, r)

/-! ## Words inside tags -/

/-- A number in a base other than ten after its mark `0x`, `0o`, `0b`; an underscore may stand before
    each digit. -/
def scanBased (base : Nat) : List Char → List Char × List Char
  | '_' :: c :: cs =>
    match hexValue? c with
    | some d =>
      if d < base then let (ds, r) := scanBased base cs; (c :: ds, r) else ([], '_' :: c :: cs)
    | none => ([], '_' :: c :: cs)
  | c :: cs =>
    match hexValue? c with
    | some d => if d < base then let (ds, r) := scanBased base cs; (c :: ds, r) else ([], c :: cs)
    | none => ([], c :: cs)
  | [] => ([], [])

/-- The base a mark after a zero stands for. -/
def baseMark? (c : Char) : Option Nat :=
  match c.toLower with
  | 'x' => some 16
  | 'o' => some 8
  | 'b' => some 2
  | _ => none

/-- Zeros at the front, with single underscores between them. -/
def scanZeros : List Char → List Char
  | '_' :: '0' :: cs => scanZeros cs
  | '0' :: cs => scanZeros cs
  | cs => cs

/-- A whole number at the front. -/
def scanInteger? (cs : List Char) : Option (Int × List Char) :=
  match cs with
  | '0' :: mark :: rest =>
    let based := (baseMark? mark).bind fun base =>
      match scanBased base rest with
      | ([], _) => none
      | (ds, r) => some ((ds.foldl (fun n d => n * base + (hexValue? d).getD 0) 0 : Nat), r)
    match based with
    | some (n, r) => some ((n : Int), r)
    | none => some (0, scanZeros (mark :: rest))
  | '0' :: [] => some (0, [])
  | cs =>
    match digitRun true false cs with
    | ([], _) => none
    | (ds, r) => some ((natOfDigits ds : Int), r)

/-- A real number at the front: digits with a fraction, an exponent or both. A point just before it makes
    it none. -/
def scanReal? (afterPoint : Bool) (cs : List Char) : Option (Binary64 × List Char) :=
  if afterPoint then none
  else
    match digitRun true false cs with
    | ([], _) => none
    | (whole, rest) =>
      let (fraction, rest') : Option (List Char) × List Char := match rest with
        | '.' :: r =>
          match digitRun true false r with
          | ([], _) => (none, rest)
          | (ds, r') => (some ds, r')
        | _ => (none, rest)
      let (exponent, rest'') := scanExponent true rest'
      if fraction.isNone && exponent.isNone then none
      else some ((Numeral.mk whole fraction exponent).value false, rest'')

/-- The characters of a quoted text up to its closing mark, escapes left as they are, and what follows. -/
def scanQuoted? (mark : Char) : List Char → Option (List Char × List Char)
  | [] => none
  | '\\' :: c :: cs => (scanQuoted? mark cs).map fun (t, r) => ('\\' :: c :: t, r)
  | c :: cs =>
    if c = mark then some ([], cs)
    else if c = '\\' then none
    else (scanQuoted? mark cs).map fun (t, r) => (c :: t, r)

/-- One word inside a tag. -/
inductive Word where
  | blank (rest : List Char)
  | kind (k : TokenKind) (rest : List Char)
  | bad (cause : SyntaxCause)

/-- A whole number as a word. A numeral in base ten must not be too long; the others hold the letter of their mark. -/
def integerWord (taken : List Char) (i : Int) (rest : List Char) : Word :=
  let digits := taken.countP Char.isDigit
  if taken.all (!Char.isAlpha ·) ∧ digitLimit < digits then .bad (.code (.longNumeral digits))
  else .kind (.integer i) rest

/-- The word at the front, `position` characters from the start of the document. -/
def scanWord (position : Nat) (afterPoint : Bool) (cs : List Char) : Word :=
  match cs with
  | [] => .blank []
  | c :: rest =>
    if isBlank c then .blank (rest.dropWhile isBlank)
    else match scanReal? afterPoint cs with
      | some (x, r) => .kind (.real x) r
      | none =>
        match scanInteger? cs with
        | some (i, r) => integerWord (takenFrom cs r) i r
        | none =>
          if isNameChar c then
            let (name, r) := cs.span isNameChar
            if isIdentifier name then .kind (.name (String.ofList name)) r else .bad .badIdentifier
          else
            let text := if c = '\'' ∨ c = '"' then scanQuoted? c rest else none
            match text with
            | some (t, r) =>
              match unescape t with
              | .ok s => .kind (.text s) r
              | .error e => .bad (.badEscape e)
            | none =>
              match Sign.scan? cs with
              | some (s, r) => .kind (.sign s) r
              | none => .bad (.unexpectedChar c position)

/-- The sign that closes a bracket. -/
def Sign.closer? : Sign → Option Sign
  | .openBrace => some .closeBrace
  | .openParen => some .closeParen
  | .openBracket => some .closeBracket
  | _ => none

def Sign.isCloser (s : Sign) : Bool := s == .closeBrace || s == .closeParen || s == .closeBracket

/-- The brackets that are open after a sign, or why it must not stand here. -/
def balance (opened : List Sign) (s : Sign) : Except SyntaxCause (List Sign) :=
  match s.closer? with
  | some c => .ok (c :: opened)
  | none =>
    if s.isCloser then
      match opened with
      | [] => .error (.unexpectedCloser s.text none)
      | expected :: rest =>
        if expected = s then .ok rest
        else .error (.unexpectedCloser s.text (some expected.text))
    else .ok opened

/-! ## Documents -/

/-- Where the lexer is: outside of tags, or inside one with the brackets open in it. -/
inductive LexState where
  | outside
  | inside (opener : Opener) (opened : List Sign)

/-- The end of a tag at the front, if no bracket is open. -/
def tagEnd? (opener : Opener) (opened : List Sign) (cs : List Char) : Option (List Char) :=
  if !opened.isEmpty then none
  else match opener with
    | .print => afterTagEnd? false '\x7d' cs
    | _ => afterTagEnd? true '%' cs

/-- Text between tags as a word, if there is any. -/
def dataLexeme (line : Nat) (cs : List Char) : List Lexeme :=
  if cs.isEmpty then [] else [.token ⟨line, .data (String.ofList cs)⟩]

/-- The words from a place on: `position` characters and `line` lines from the start. `afterPoint` tells
    whether a point stands just before. The fuel bounds the number of words. -/
def lexFrom : Nat → LexState → Nat → Nat → Bool → List Char → List Lexeme
  | 0, _, _, _, _, _ => []
  | _ + 1, _, _, _, _, [] => []
  | fuel + 1, .outside, position, line, _, cs =>
    match findOpening? cs with
    | none => dataLexeme line cs
    | some (text, o) =>
      let data := if o.strips then stripBack text else text
      let atTag := line + lineEnds text
      let position := position + text.length + o.taken.length
      let inTag := atTag + lineEnds o.taken
      dataLexeme line data ++
        match o.kind with
        | .print =>
          .token ⟨atTag, .printBegin⟩ ::
            lexFrom fuel (.inside .print []) position inTag false o.rest
        | .tag =>
          .token ⟨atTag, .tagBegin⟩ ::
            lexFrom fuel (.inside .tag []) position inTag false o.rest
        | .comment =>
          match findCommentEnd? o.rest with
          | some rest =>
            let taken := takenFrom o.rest rest
            lexFrom fuel .outside (position + taken.length) (inTag + lineEnds taken) false rest
          | none => if o.rest.isEmpty then [] else [.fault ⟨inTag, .unclosedComment⟩]
        | .raw =>
          match findRawEnd? o.rest with
          | some (text, strips, rest) =>
            let taken := takenFrom o.rest rest
            dataLexeme inTag (if strips then stripBack text else text) ++
              lexFrom fuel .outside (position + taken.length) (inTag + lineEnds taken) false rest
          | none => if o.rest.isEmpty then [] else [.fault ⟨inTag, .unclosedRaw⟩]
  | fuel + 1, .inside opener opened, position, line, afterPoint, cs =>
    match tagEnd? opener opened cs with
    | some rest =>
      let taken := takenFrom cs rest
      .token ⟨line, if opener = .print then .printEnd else .tagEnd⟩ ::
        lexFrom fuel .outside (position + taken.length) (line + lineEnds taken) false rest
    | none =>
      match scanWord position afterPoint cs with
      | .bad cause => [.fault ⟨line, cause⟩]
      | .blank rest =>
        let taken := takenFrom cs rest
        lexFrom fuel (.inside opener opened) (position + taken.length) (line + lineEnds taken)
          false rest
      | .kind k rest =>
        let taken := takenFrom cs rest
        let opened' := match k with
          | .sign s => balance opened s
          | _ => .ok opened
        match opened' with
        | .error cause => [.fault ⟨line, cause⟩]
        | .ok opened' =>
          .token ⟨line, k⟩ ::
            lexFrom fuel (.inside opener opened') (position + taken.length)
              (line + lineEnds taken) (k == .sign .dot) rest

/-- The words of the characters of a document. -/
def lexemesOf (source : List Char) : List Lexeme :=
  let cs := normalizeLines source
  lexFrom (cs.length + 1) .outside 0 1 false cs

/-- The words of a document. -/
def lexemes (source : String) : List Lexeme := lexemesOf source.toList

end RenderBench.Template
