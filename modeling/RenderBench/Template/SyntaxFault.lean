import RenderBench.Text.Quoted

/-!
# `Template.SyntaxFault` — what is wrong with a document

A document that cannot be read or compiled has one fault, on a line. Some faults the engine does not know: it comes upon
them where it converts a numeral, or they are found in the code that it has generated.

## Contents
- `CodeFault`: faults that the engine does not know.
- `SyntaxCause`: the causes.
- `SyntaxCause.message`: their wording.
- `SyntaxFault`: a cause on a line.
-/

namespace RenderBench.Template

/-- What is wrong with an escape in a quoted text. -/
inductive EscapeCause where
  | truncatedHex
  | truncatedShort
  | truncatedLong
  | illegalCharacter
  | malformedName
  | unknownName
  deriving DecidableEq

def EscapeCause.message : EscapeCause → String
  | .truncatedHex => "truncated \\xXX escape"
  | .truncatedShort => "truncated \\uXXXX escape"
  | .truncatedLong => "truncated \\UXXXXXXXX escape"
  | .illegalCharacter => "illegal Unicode character"
  | .malformedName => "malformed \\N character escape"
  | .unknownName => "unknown Unicode character name"

/-- A fault that is none of the engine's own. -/
inductive CodeFault where
  /-- A numeral of so many digits is not converted. -/
  | longNumeral (digits : Nat)
  | repeatedArgument (name : String)
  | repeatedParameter (name : String)
  | nesting
  deriving DecidableEq

/-- What is told of it, without the place in the generated code and the names that are made up there. -/
def CodeFault.message : CodeFault → String
  | .longNumeral digits => unreadMessage digits
  | .repeatedArgument name => "keyword argument repeated: " ++ name
  | .repeatedParameter name => "duplicate argument " ++ quoted name ++ " in function definition"
  | .nesting => "too many statically nested blocks"

inductive SyntaxCause where
  | unexpectedChar (c : Char) (position : Nat)
  | unexpectedCloser (closer : String) (expected : Option String)
  | unclosedComment
  | unclosedRaw
  | badIdentifier
  | badEscape (cause : EscapeCause)
  | unexpectedToken (description : String)
  | expectedToken (wanted got : String)
  | endedBefore (wanted : String)
  | expectedExpression (got : String)
  | tagNameExpected
  /-- A tag that fits nowhere (none: the end of the document), the tags looked for, whether the tag is
      one an outer statement waits for, and the statement to be closed first. -/
  | misplacedTag (tag : Option String) (looking : List String) (nested : Bool)
      (innermost : Option String)
  | cannotAssign (kind : String)
  | callArguments
  | chainedTests
  | expectedNameOrNumber
  | hyphenatedBlock
  | requiredBlock
  | defaultOrder
  | expectedCall
  | privateImport
  | blockTwice (name : String)
  | unknownFilter (name : String)
  | unknownTest (name : String)
  | loopTarget
  | nestedInherit
  | tooDeep
  | code (f : CodeFault)
  deriving DecidableEq

/-- The message about a tag that fits nowhere. -/
def misplacedMessage (tag : Option String) (looking : List String) (nested : Bool)
    (innermost : Option String) : String :=
  let first := match tag with
    | none => "Unexpected end of template."
    | some t => "Encountered unknown tag " ++ quoted t ++ "."
  let tags := String.intercalate " or " (looking.map quoted)
  let second :=
    if looking.isEmpty then []
    else if nested then
      ["You probably made a nesting mistake. Jinja is expecting this tag, but currently looking for " ++
        tags ++ "."]
    else ["Jinja was looking for the following tags: " ++ tags ++ "."]
  let third := match innermost with
    | some t => ["The innermost block that needs to be closed is " ++ quoted t ++ "."]
    | none => []
  String.intercalate " " (first :: second ++ third)

def SyntaxCause.message : SyntaxCause → String
  | .unexpectedChar c p => "unexpected char " ++ quoted (String.ofList [c]) ++ " at " ++ natText p
  | .unexpectedCloser c none => "unexpected '" ++ c ++ "'"
  | .unexpectedCloser c (some e) => "unexpected '" ++ c ++ "', expected '" ++ e ++ "'"
  | .unclosedComment => "Missing end of comment tag"
  | .unclosedRaw => "Missing end of raw directive"
  | .badIdentifier => "Invalid character in identifier"
  | .badEscape cause => cause.message
  | .unexpectedToken d => "unexpected " ++ quoted d
  | .expectedToken wanted got => "expected token " ++ quoted wanted ++ ", got " ++ quoted got
  | .endedBefore wanted => "unexpected end of template, expected " ++ quoted wanted ++ "."
  | .expectedExpression got => "Expected an expression, got " ++ quoted got
  | .tagNameExpected => "tag name expected"
  | .misplacedTag tag looking nested innermost => misplacedMessage tag looking nested innermost
  | .cannotAssign kind => "can't assign to " ++ quoted kind
  | .callArguments => "invalid syntax for function call expression"
  | .chainedTests => "You cannot chain multiple tests with is"
  | .expectedNameOrNumber => "expected name or number"
  | .hyphenatedBlock =>
    "Block names in Jinja have to be valid Python identifiers and may not contain hyphens, use an " ++
      "underscore instead."
  | .requiredBlock => "Required blocks can only contain comments or whitespace"
  | .defaultOrder => "non-default argument follows default argument"
  | .expectedCall => "expected call"
  | .privateImport => "names starting with an underline can not be imported"
  | .blockTwice name => "block " ++ quoted name ++ " defined twice"
  | .unknownFilter name => "No filter named " ++ quoted name ++ "."
  | .unknownTest name => "No test named " ++ quoted name ++ "."
  | .loopTarget => "Can't assign to special loop variable in for-loop target"
  | .nestedInherit => "cannot use extend from a non top-level scope"
  | .tooDeep => "nested too deeply"
  | .code f => f.message

/-- A cause and the line it is on. -/
structure SyntaxFault where
  line : Nat
  cause : SyntaxCause
  deriving DecidableEq

/-- The message with its line. -/
def SyntaxFault.located (f : SyntaxFault) : String :=
  "line " ++ natText f.line ++ ": " ++ f.cause.message

end RenderBench.Template
