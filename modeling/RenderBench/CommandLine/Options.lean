import RenderBench.CommandLine.Usage
import RenderBench.Text.Similar

/-!
# `CommandLine.Options` — options among the words of a command line

A word that starts with a dash is an option. A long option stands alone, with its value behind an equals
sign or in the next word; short ones may stand together, and the rest of the word is the value of the first
one that takes a value. Two dashes alone end the options.

## Contents
- `OptionSpec`: the names of an option, and whether it takes a value.
- `readOption`: one word.
- `scan`: all words.
- `lastValues`: every option once.
-/

namespace RenderBench.CommandLine

/-- What an option is set to. -/
inductive OptionValue where
  /-- The option takes a value. -/
  | argument
  /-- Naming the option sets it. -/
  | constant (value : String)

/-- A way to give the option `key`. -/
structure OptionSpec (ι : Type) where
  key : ι
  long : String
  short : Option Char := none
  value : OptionValue := .argument

/-- What a word gives: values of options, and the option that has its value in the next word, with the
    name it was given under. -/
structure ReadOption (ι : Type) where
  given : List (ι × String) := []
  pending : Option (ι × String) := none

section

variable {ι : Type}

/-- Short options that stand together. -/
def readShort (specs : List (OptionSpec ι)) : List Char → Except UsageError (ReadOption ι)
  | [] => .ok {}
  | c :: cs =>
    match specs.find? fun s => s.short == some c with
    | none => .error (.unknownOption (String.ofList ['-', c]) [])
    | some s =>
      match s.value, cs with
      | .argument, [] => .ok { pending := some (s.key, String.ofList ['-', c]) }
      | .argument, cs => .ok { given := [(s.key, String.ofList cs)] }
      | .constant v, cs =>
        (readShort specs cs).map fun r => { r with given := (s.key, v) :: r.given }

/-- A long option with the value behind the equals sign, if there is one. -/
def readLong (s : OptionSpec ι) : Option String → Except UsageError (ReadOption ι)
  | none =>
    match s.value with
    | .argument => .ok { pending := some (s.key, s.long) }
    | .constant v => .ok { given := [(s.key, v)] }
  | some v =>
    match s.value with
    | .argument => .ok { given := [(s.key, v)] }
    | .constant _ => .error (.unexpectedValue s.long)

/-- The part of a word before the equals sign and the part behind it. -/
def splitAtEquals (word : String) : String × Option String :=
  match word.toList.span (· != '=') with
  | (name, _ :: value) => (String.ofList name, some (String.ofList value))
  | (name, []) => (String.ofList name, none)

/-- A word that starts with a dash. -/
def readOption (specs : List (OptionSpec ι)) (word : String) : Except UsageError (ReadOption ι) :=
  let (name, value) := splitAtEquals word
  match specs.find? fun s => s.long == name with
  | some s => readLong s value
  | none =>
    if word.startsWith "--" then .error (.unknownOption name (similarWords name (specs.map (·.long))))
    else readShort specs (word.toList.drop 1)

/-- The options of a command line in order, and its other words. -/
structure Scanned (ι : Type) where
  given : List (ι × String) := []
  rest : List String := []

/-- Whether a word is an option; a dash alone is none. -/
def isOption (word : String) : Bool :=
  match word.toList with
  | '-' :: _ :: _ => true
  | _ => false

/-- The options among words. Options may stand behind other words if the flag is set; otherwise the first
    other word ends them. -/
def scan (specs : List (OptionSpec ι)) (anywhere : Bool) :
    List String → Except UsageError (Scanned ι)
  | [] => .ok {}
  | word :: words =>
    if word == "--" then .ok { rest := words }
    else if isOption word then
      match readOption specs word with
      | .error e => .error e
      | .ok r =>
        match r.pending, words with
        | none, words =>
          (scan specs anywhere words).map fun s => { s with given := r.given ++ s.given }
        | some (_, name), [] => .error (.missingValue name)
        | some (key, _), value :: words =>
          (scan specs anywhere words).map fun s =>
            { s with given := r.given ++ (key, value) :: s.given }
    else if anywhere then (scan specs anywhere words).map fun s => { s with rest := word :: s.rest }
    else .ok { rest := word :: words }

/-- Every option once, in the order of first mention, with the value it was given last. -/
def lastValues [BEq ι] (given : List (ι × String)) : List (ι × String) :=
  (given.map Prod.fst).eraseDups.map fun key => (key, (given.reverse.lookup key).getD "")

end

end RenderBench.CommandLine
