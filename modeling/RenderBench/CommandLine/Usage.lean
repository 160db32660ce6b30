import RenderBench.Item.Generate
import RenderBench.Text.Quoted
import RenderBench.Variant

/-!
# `CommandLine.Usage` — command lines that mean nothing

A command line is refused for one cause, which is told in one sentence.
-/

namespace RenderBench.CommandLine

/-- Why a command line is refused. -/
inductive UsageError where
  | missingCommand
  /-- A command that is none, and the commands it resembles. -/
  | unknownCommand (name : String) (similar : List String)
  /-- An option that is none, and the options it resembles. -/
  | unknownOption (name : String) (similar : List String)
  | missingValue (option : String)
  | unexpectedValue (option : String)
  | extraArguments (arguments : List String)
  /-- A value that is no number within the bounds of an option, which goes by the given names. -/
  | invalidNumber (names : List String) (problem : Problem)
  | unknownShape
  | unknownVariant (u : UnknownVariant)
  deriving DecidableEq

/-- What is added to the name of an unknown option. -/
def optionHint : List String → String
  | [] => ""
  | [name] => " Did you mean " ++ name ++ "?"
  | names => " (Possible options: " ++ String.intercalate ", " (names.mergeSort fun a b => a ≤ b) ++ ")"

/-- What is added to the name of an unknown command. -/
def commandHint : List String → String
  | [] => "."
  | names => ". Did you mean " ++ String.intercalate ", " (names.map quoted) ++ "?"

def UsageError.message : UsageError → String
  | .missingCommand => "Missing command."
  | .unknownCommand name similar => "No such command " ++ quoted name ++ commandHint similar
  | .unknownOption name similar => "No such option: " ++ name ++ optionHint similar
  | .missingValue option => "Option " ++ quoted option ++ " requires an argument."
  | .unexpectedValue option => "Option " ++ quoted option ++ " does not take a value."
  | .extraArguments arguments =>
    "Got unexpected extra argument(s) (" ++ String.intercalate " " arguments ++ ")"
  | .invalidNumber names problem =>
    "Invalid value for " ++ String.intercalate " / " (names.map quoted) ++ ": " ++ problem.message
  | .unknownShape => "Invalid value for '--shape': must be one of: " ++ Shape.listing
  | .unknownVariant u => "Invalid value for --variant: " ++ u.message

end RenderBench.CommandLine
