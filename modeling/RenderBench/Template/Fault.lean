import RenderBench.Text.Percent
import RenderBench.Validation.Arguments

/-!
# `Template.Fault` — why an evaluation fails

A name, member or element that is not there is a value of its own and fails only when it is used further.
Everything else that cannot be done fails at once.

## Contents
- `Absence`, `Absence.message`: what is not there.
- `Candidate`, `Missing`, `Missing.message`: templates that are not there.
- `Fault`, `Fault.message`: why an evaluation failed.
-/

namespace RenderBench.Template

/-- Something a template asked for that is not there. -/
inductive Absence where
  | name (n : String)
  /-- A member of an object of some kind. -/
  | member (object attr : String)
  /-- An element of an object of some kind, at an index given as text. -/
  | element (object index : String)
  | parentBlock (name : String)
  | firstItem
  | lastItem
  | aggregate
  | previousItem
  | nextItem
  /-- The value of a conditional without an alternative, on a line of a template. -/
  | alternative (line : Nat) (template : Option String)
  | parameter (n : String)
  | caller
  deriving DecidableEq

def Absence.message : Absence → String
  | .name n => quoted n ++ " is undefined"
  | .member object attr => quoted object ++ " has no attribute " ++ quoted attr
  | .element object index => object ++ " has no element " ++ index
  | .parentBlock n => "there is no parent block called " ++ quoted n ++ "."
  | .firstItem => "No first item, sequence was empty."
  | .lastItem => "No last item, sequence was empty."
  | .aggregate => "No aggregated item, sequence was empty."
  | .previousItem => "there is no previous item"
  | .nextItem => "there is no next item"
  | .alternative line template =>
    "the inline if-expression on line " ++ natText line ++
      (match template with
        | some t => " in " ++ quoted t
        | none => "") ++ " evaluated to false and no else section was defined."
  | .parameter n => "parameter " ++ quoted n ++ " was not provided"
  | .caller => "No caller defined"

/-- One of several names of a template; its value may be absent itself. -/
inductive Candidate where
  | absent (a : Absence)
  | name (n : String)
  deriving DecidableEq

def Candidate.text : Candidate → String
  | .absent a => a.message
  | .name n => n

/-- Why a template that another one asks for is not there. -/
inductive Missing where
  /-- The reason that the search for its file gave. -/
  | file (reason : String)
  | noCandidates
  | noneOf (candidates : List Candidate)
  deriving DecidableEq

def Missing.message : Missing → String
  | .file r => r
  | .noCandidates => "Tried to select from an empty list of templates."
  | .noneOf cs =>
    "none of the templates given were found: " ++ String.intercalate ", " (cs.map Candidate.text)

/-- The kinds of division by zero. -/
inductive ZeroDivision where
  | quotient
  | realQuotient
  | floored
  | remainder
  | realFloored
  | realRemainder
  | power
  deriving DecidableEq

def ZeroDivision.message : ZeroDivision → String
  | .quotient => "division by zero"
  | .realQuotient => "float division by zero"
  | .floored => "integer division or modulo by zero"
  | .remainder => "integer modulo by zero"
  | .realFloored => "float floor division by zero"
  | .realRemainder => "float modulo"
  | .power => "0.0 cannot be raised to a negative power"

/-- Why an evaluation failed. Kinds of values are given by name. -/
inductive Fault where
  | absent (a : Absence)
  | zeroDivision (z : ZeroDivision)
  | operands (sign left right : String)
  | concatenation (left right : String)
  | repetition (right : String)
  | signOperand (sign operand : String)
  | order (sign left right : String)
  | notIterable (kind : String)
  | noMembership (kind : String)
  | textMembership (kind : String)
  | noLength (kind : String)
  | notReversible (kind : String)
  | notCallable (kind : String)
  | notSubscriptable (kind : String)
  | badSlice
  | zeroStep
  | unhashable (kind : String)
  | unpackNone (kind : String)
  | unpackFew (expected got : Nat)
  | unpackMany (expected : Nat)
  | noRounding (kind : String)
  | notReal (kind : String)
  | notIndex (kind : String)
  | intTooLarge
  | quotientTooLarge
  | powerTooLarge
  | infiniteInteger
  | nanInteger
  | format (f : FormatError)
  | unknownFilter (name : String) (atUse : Bool)
  | unknownTest (name : String) (atUse : Bool)
  | noFilterName
  | noAttributeName
  | sortKey
  | roundMethod
  | unexpectedArgument (name : String)
  | reverseSequence
  | sumOfTexts
  | noMember (kind attr : String)
  | noCycle
  | rangeFew
  | rangeMany (n : Nat)
  | rangeStep
  | noNamedArguments (function : String)
  | oneArgument (function : String) (given : Nat)
  | twoArguments (function : String) (given : Nat)
  | missingArguments (function : String) (names : List String)
  | tooManyArguments (function : String) (least most given : Nat)
  | repeatedArgument (function name : String)
  | unexpectedNamed (function name : String)
  | definitionNamed (definition name : String)
  | definitionMany (definition : String) (most : Nat)
  | requiredBlock (name : String)
  | inheritedTwice
  | notText (kind : String)
  | memberAssignment
  /-- A template that is not there, with the reason. -/
  | templateMissing (reason : Missing)
  /-- A template that cannot be read, with the reason. -/
  | templateBroken (reason : String)
  | recursion
  /-- No item is left to be taken. -/
  | noItems
  | sinkFull
  deriving DecidableEq

def Fault.message : Fault → String
  | .absent a => a.message
  | .zeroDivision z => z.message
  | .operands sign l r =>
    "unsupported operand type(s) for " ++ sign ++ ": '" ++ l ++ "' and '" ++ r ++ "'"
  | .concatenation l r => "can only concatenate " ++ l ++ " (not \"" ++ r ++ "\") to " ++ l
  | .repetition r => "can't multiply sequence by non-int of type '" ++ r ++ "'"
  | .signOperand sign k => "bad operand type for " ++ sign ++ ": '" ++ k ++ "'"
  | .order sign l r =>
    "'" ++ sign ++ "' not supported between instances of '" ++ l ++ "' and '" ++ r ++ "'"
  | .notIterable k => "'" ++ k ++ "' object is not iterable"
  | .noMembership k => "argument of type '" ++ k ++ "' is not iterable"
  | .textMembership k => "'in <string>' requires string as left operand, not " ++ k
  | .noLength k => "object of type '" ++ k ++ "' has no len()"
  | .notReversible k => "'" ++ k ++ "' object is not reversible"
  | .notCallable k => "'" ++ k ++ "' object is not callable"
  | .notSubscriptable k => "'" ++ k ++ "' object is not subscriptable"
  | .badSlice => "slice indices must be integers or None or have an __index__ method"
  | .zeroStep => "slice step cannot be zero"
  | .unhashable k => "unhashable type: '" ++ k ++ "'"
  | .unpackNone k => "cannot unpack non-iterable " ++ k ++ " object"
  | .unpackFew expected got =>
    "not enough values to unpack (expected " ++ natText expected ++ ", got " ++ natText got ++ ")"
  | .unpackMany expected => "too many values to unpack (expected " ++ natText expected ++ ")"
  | .noRounding k => "type " ++ k ++ " doesn't define __round__ method"
  | .notReal k => "must be real number, not " ++ k
  | .notIndex k => "'" ++ k ++ "' object cannot be interpreted as an integer"
  | .intTooLarge => "int too large to convert to float"
  | .quotientTooLarge => "integer division result too large for a float"
  | .powerTooLarge => "(34, 'Numerical result out of range')"
  | .infiniteInteger => "cannot convert float infinity to integer"
  | .nanInteger => "cannot convert float NaN to integer"
  | .format f => f.message
  | .unknownFilter n atUse =>
    "No filter named " ++ quoted n ++ (if atUse then " found." else ".")
  | .unknownTest n atUse => "No test named " ++ quoted n ++ (if atUse then " found." else ".")
  | .noFilterName => "map requires a filter argument"
  | .noAttributeName => "Missing parameter for attribute name"
  | .sortKey => "You can only sort by either \"key\" or \"value\""
  | .roundMethod => "method must be common, ceil or floor"
  | .unexpectedArgument n => "Unexpected keyword argument " ++ quoted n
  | .reverseSequence => "argument must be iterable"
  | .sumOfTexts => "sum() can't sum strings [use ''.join(seq) instead]"
  | .noMember k a => quoted (k) ++ " object has no attribute " ++ quoted a
  | .noCycle => "no items for cycling given"
  | .rangeFew => "range expected at least 1 argument, got 0"
  | .rangeMany n => "range expected at most 3 arguments, got " ++ natText n
  | .rangeStep => "range() arg 3 must not be zero"
  | .noNamedArguments f => f ++ "() takes no keyword arguments"
  | .oneArgument f given =>
    f ++ "() takes exactly one argument (" ++ natText given ++ " given)"
  | .twoArguments f given => f ++ " expected 2 arguments, got " ++ natText given
  | .missingArguments f names =>
    f ++ "() missing " ++ natText names.length ++ " required positional argument" ++
      (if names.length = 1 then "" else "s") ++ ": " ++
      enumeration (names.map quoted)
  | .tooManyArguments f least most given =>
    f ++ "() takes " ++ (if least = most then "" else "from " ++ natText least ++ " to ") ++
      natText most ++ " positional argument" ++ (if most = 1 then "" else "s") ++ " but " ++
      natText given ++ (if given = 1 then " was given" else " were given")
  | .repeatedArgument f n => f ++ "() got multiple values for argument " ++ quoted n
  | .unexpectedNamed f n => f ++ "() got an unexpected keyword argument " ++ quoted n
  | .definitionNamed d n => "macro " ++ quoted d ++ " takes no keyword argument " ++ quoted n
  | .definitionMany d most =>
    "macro " ++ quoted d ++ " takes not more than " ++ natText most ++ " argument(s)"
  | .requiredBlock n => "Required block " ++ quoted n ++ " not found"
  | .inheritedTwice => "extended multiple times"
  | .notText k => "string argument expected, got '" ++ k ++ "'"
  | .memberAssignment => "cannot assign attribute on non-namespace object"
  | .templateMissing r => r.message
  | .templateBroken r => r
  | .recursion => "maximum recursion depth exceeded"
  | .noItems => "pop from empty list"
  | .sinkFull => "sink full"

end RenderBench.Template
