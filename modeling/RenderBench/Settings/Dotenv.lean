import RenderBench.Text.Blank

/-!
# `Settings.Dotenv` — files of settings

A file of settings has lines of the form `NAME=value`. Values may stand in quotes, which may span lines,
and may refer to values before them and to the environment. A line that is none of this is skipped; its
number is kept for a warning.

## Contents
- `DotenvEntry`, `Dotenv`: what a file holds.
- `readBinding`: one line, or a part of the file that is none.
- `resolveReferences`: references replaced.
- `Dotenv.read`: a whole file.
-/

namespace RenderBench

/-- White space inside a line. -/
def isInlineBlank (c : Char) : Bool := isBlank c && c != '\n' && c != '\r'

/-- A name with its value; a name without a sign has none. -/
structure DotenvEntry where
  name : String
  value : Option String
  deriving DecidableEq

structure Dotenv where
  /-- Every name once, in the order of first mention. -/
  entries : List DotenvEntry
  /-- The numbers of lines that could not be read. -/
  invalidLines : List Nat

namespace Dotenv

/-! ## Lines -/

/-- A quoted text after its opening quote, and what follows the closing one. A quote after a backslash does
    not close the text, unless no other one does. -/
def quotedValue? (mark : Char) : List Char → Option (List Char × List Char)
  | [] => none
  | c :: cs =>
    if c = mark then some ([], cs)
    else if c = '\\' then
      match cs with
      | [] => none
      | d :: rest =>
        if d = mark then
          match quotedValue? mark rest with
          | some (v, after) => some ('\\' :: mark :: v, after)
          | none => some (['\\'], rest)
        else (quotedValue? mark (d :: rest)).map fun (v, after) => ('\\' :: v, after)
    else (quotedValue? mark cs).map fun (v, after) => (c :: v, after)

/-- What a letter stands for after a backslash between double quotes. -/
def escapedChar? (c : Char) : Option Char :=
  [('\\', '\\'), ('\'', '\''), ('"', '"'), ('a', '\x07'), ('b', '\x08'), ('f', '\x0c'),
   ('n', '\n'), ('r', '\r'), ('t', '\t'), ('v', '\x0b')].lookup c

/-- A text with its escapes resolved; between single quotes there are only two of them. -/
def unescape (single : Bool) : List Char → List Char
  | '\\' :: c :: cs =>
    match if single && c != '\\' && c != '\'' then none else escapedChar? c with
    | some d => d :: unescape single cs
    | none => '\\' :: unescape single (c :: cs)
  | c :: cs => c :: unescape single cs
  | [] => []

/-- A value without quotes up to a comment, which begins with a mark after white space. -/
def beforeComment : List Char → List Char
  | [] => []
  | c :: cs =>
    if isBlank c && (cs.dropWhile isBlank).head? == some '#' then []
    else c :: beforeComment cs

/-- The value after the sign, and the rest. -/
def readValue? (cs : List Char) : Option (List Char × List Char) :=
  match cs with
  | '\'' :: rest => (quotedValue? '\'' rest).map fun (v, after) => (unescape true v, after)
  | '"' :: rest => (quotedValue? '"' rest).map fun (v, after) => (unescape false v, after)
  | cs =>
    let (line, rest) := cs.span fun c => c != '\n' && c != '\r'
    some (stripBack (beforeComment line), rest)

/-- What follows the word that may stand before a name. -/
def skipExport (cs : List Char) : List Char :=
  if "export".toList.isPrefixOf cs then
    let rest := cs.drop 6
    if rest.head?.any isInlineBlank then rest.dropWhile isInlineBlank else cs
  else cs

/-- The name at the front, which a comment does not have, and the rest. -/
def readName? (cs : List Char) : Option (Option (List Char) × List Char) :=
  match cs with
  | '#' :: _ => some (none, cs)
  | '\'' :: rest =>
    match rest.span (· != '\'') with
    | (name, _ :: after) => if name.isEmpty then none else some (some name, after)
    | _ => none
  | cs =>
    let (name, rest) := cs.span fun c => c != '=' && c != '#' && !isBlank c
    if name.isEmpty then none else some (some name, rest)

/-- The rest after a comment and the end of the line, if nothing else is left on it. -/
def endLine? (cs : List Char) : Option (List Char) :=
  let rest := cs.dropWhile isInlineBlank
  let rest := if rest.head? == some '#'
    then rest.dropWhile fun c => c != '\n' && c != '\r' else rest
  match rest with
  | [] => some []
  | '\r' :: '\n' :: after => some after
  | '\n' :: after => some after
  | '\r' :: after => some after
  | _ => none

/-- The rest after the current line. -/
def skipLine (cs : List Char) : List Char :=
  match cs.dropWhile fun c => c != '\n' && c != '\r' with
  | '\r' :: '\n' :: after => after
  | _ :: after => after
  | [] => []

/-- What one reading of a file found. -/
inductive Binding where
  | entry (e : DotenvEntry)
  | comment
  | invalid

/-- The value of a name, the end of its line, and the rest; what is left when it cannot be read goes on
    after the line at which reading stopped. -/
def readAfterName (name : Option (List Char)) (cs : List Char) : Binding × List Char :=
  let finish (value : Option (List Char)) (rest : List Char) : Binding × List Char :=
    match endLine? rest with
    | none => (.invalid, skipLine rest)
    | some after =>
      match name with
      | none => (.comment, after)
      | some n => (.entry ⟨String.ofList n, value.map String.ofList⟩, after)
  match cs.dropWhile isInlineBlank with
  | '=' :: rest =>
    let rest := rest.dropWhile isInlineBlank
    match readValue? rest with
    | none => (.invalid, skipLine rest)
    | some (value, rest) => finish (some value) rest
  | rest => finish none rest

/-- The next line that is not blank, and the rest. -/
def readBinding (cs : List Char) : Binding × List Char :=
  let cs := cs.dropWhile isBlank
  if cs.isEmpty then (.comment, [])
  else
    let cs := skipExport cs
    match readName? cs with
    | none => (.invalid, skipLine cs)
    | some (name, rest) => readAfterName name rest

/-- All bindings with the numbers of the lines they are looked for on; every one takes a character. -/
def bindingsFrom : Nat → Nat → List Char → List (Nat × Binding)
  | 0, _, _ => []
  | fuel + 1, line, cs =>
    if cs.isEmpty then []
    else
      let (b, rest) := readBinding cs
      let taken := cs.take (cs.length - rest.length)
      (line, b) :: bindingsFrom fuel (line + taken.count '\n') rest

/-! ## References -/

/-- A reference to a value, with what stands for it when there is none. -/
structure Reference where
  name : List Char
  default : List Char

/-- A reference after its opening brace, and the rest. -/
def referenceAt? (cs : List Char) : Option (Reference × List Char) :=
  match cs.span fun c => c != '\x7d' && c != ':' with
  | (name, '\x7d' :: rest) => some (⟨name, []⟩, rest)
  | (name, ':' :: '-' :: more) =>
    match more.span (· != '\x7d') with
    | (default, _ :: rest) => some (⟨name, default⟩, rest)
    | _ => none
  | _ => none

/-- A text with its references replaced; `skip` characters belong to one that was. -/
def replaceReferences (value : Reference → List Char) : Nat → List Char → List Char
  | _, [] => []
  | skip + 1, _ :: cs => replaceReferences value skip cs
  | 0, '$' :: '\x7b' :: cs =>
    match referenceAt? cs with
    | some (r, rest) => value r ++ replaceReferences value (cs.length - rest.length + 1) ('\x7b' :: cs)
    | none => '$' :: replaceReferences value 0 ('\x7b' :: cs)
  | 0, c :: cs => c :: replaceReferences value 0 cs

/-- Sets an entry in place, or adds it at the end. -/
def setEntry (e : DotenvEntry) : List DotenvEntry → List DotenvEntry
  | [] => [e]
  | f :: es => if f.name = e.name then e :: es else f :: setEntry e es

/-- What a reference stands for: an entry before it, else a variable of the environment, else its default. -/
def referenceValue (environment : List (String × String)) (done : List DotenvEntry)
    (r : Reference) : List Char :=
  let name := String.ofList r.name
  match done.find? fun e => e.name = name with
  | some e => (e.value.getD "").toList
  | none =>
    match environment.lookup name with
    | some v => v.toList
    | none => r.default

/-- Entries with their references replaced, each seeing those before it. -/
def resolveReferences (environment : List (String × String)) (entries : List DotenvEntry) :
    List DotenvEntry :=
  entries.foldl (fun done e =>
    let value := e.value.map fun v =>
      String.ofList (replaceReferences (referenceValue environment done) 0 v.toList)
    setEntry { e with value } done) []

/-- The entries of a file's text in an environment. -/
def read (environment : List (String × String)) (cs : List Char) : Dotenv :=
  let bindings := bindingsFrom (cs.length + 1) 1 cs
  { entries := resolveReferences environment (bindings.filterMap fun
      | (_, .entry e) => some e
      | _ => none)
    invalidLines := bindings.filterMap fun
      | (line, .invalid) => some line
      | _ => none }

end Dotenv

end RenderBench
