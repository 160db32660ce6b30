import RenderBench.Number.Binary64

/-!
# `Template.Syntax` — documents as trees

A template document is a list of statements; statements hold expressions. The trees are the result of
reading a document and the input of rendering one.

## Contents
- `Literal`: constants, including the collections that are known before a template is rendered.
- `Expr`: expressions.
- `Target`: what is assigned to.
- `Piece`, `Stmt`: output and statements.
- `Block`, `Document`: named parts, and a whole template.
-/

namespace RenderBench.Template

inductive Literal where
  | none
  | bool (b : Bool)
  | int (i : Int)
  | real (x : Binary64)
  | text (s : String)
  /-- A text that needs no escaping. -/
  | markup (s : String)
  | list (elements : List Literal)
  | tuple (elements : List Literal)
  /-- Keys and values, one for one. -/
  | dict (keys values : List Literal)

inductive UnaryOp where
  | neg
  | pos
  | not
  deriving DecidableEq

inductive BinaryOp where
  | add
  | sub
  | mul
  | div
  | floorDiv
  | mod
  | pow
  deriving DecidableEq

inductive CompareOp where
  | eq
  | ne
  | lt
  | le
  | gt
  | ge
  | mem
  | notMem
  deriving DecidableEq

/-- Expressions. The arguments of calls, filters and tests are given by position, or by name as a list
    of names and a list of values. -/
inductive Expr where
  | const (l : Literal)
  | name (n : String)
  | list (elements : List Expr)
  | tuple (elements : List Expr)
  | dict (keys values : List Expr)
  | attribute (object : Expr) (attr : String)
  | item (object index : Expr)
  /-- The bounds of a slice; one that is left out is the constant `none`. -/
  | slice (start stop step : Expr)
  | call (function : Expr) (args : List Expr) (names : List String) (values : List Expr)
  | filter (line : Nat) (input : Expr) (filterName : String) (args : List Expr)
      (names : List String) (values : List Expr)
  | test (line : Nat) (input : Expr) (testName : String) (args : List Expr)
      (names : List String) (values : List Expr)
  | unary (op : UnaryOp) (e : Expr)
  | binary (op : BinaryOp) (left right : Expr)
  | concat (parts : List Expr)
  | and (left right : Expr)
  | or (left right : Expr)
  | compare (first : Expr) (ops : List CompareOp) (operands : List Expr)
  | ifElse (test thenValue elseValue : Expr)
  /-- A conditional without an alternative, with the line it stands on. -/
  | ifOnly (line : Nat) (test thenValue : Expr)
  /-- All elements of a sequence as arguments. -/
  | spread (e : Expr)
  /-- All entries of a mapping as named arguments. -/
  | spreadNamed (e : Expr)
  /-- The text a filter or assignment block has captured. -/
  | captured

/-- What is assigned to. -/
inductive Target where
  | name (line : Nat) (n : String)
  | tuple (elements : List Target)
  | member (object attr : String)

/-- Output is a mixture of text and expressions. -/
inductive Piece where
  | text (s : String)
  | value (e : Expr)

inductive Stmt where
  | output (pieces : List Piece)
  | forLoop (target : Target) (source : Expr) (condition : Option Expr) (recursive : Bool)
      (body otherwise : List Stmt)
  | branch (test : Expr) (body otherwise : List Stmt)
  | assign (target : Target) (value : Expr)
  /-- Assignment of what a body writes, through a filter if there is one. -/
  | capture (target : Target) (filter : Option Expr) (body : List Stmt)
  | scope (targets : List Target) (values : List Expr) (body : List Stmt)
  | block (line : Nat) (name : String) (withLocals required : Bool) (body : List Stmt)
  | inherit (line : Nat) (parent : Expr)
  | embed (source : Expr) (ignoreMissing withContext : Bool)
  | definition (name : String) (params : List String) (defaults : List Expr) (body : List Stmt)
  | callBlock (params : List String) (defaults : List Expr) (call : Expr) (body : List Stmt)
  | filterBlock (filter : Expr) (body : List Stmt)
  | escaping (value : Expr) (body : List Stmt)
  /-- Names taken from another template. -/
  | importing (source : Expr) (names : List String)

/-- A named part of a document. -/
structure Block where
  name : String
  line : Nat
  /-- Whether the names bound around it are visible in it. -/
  withLocals : Bool
  required : Bool
  body : List Stmt

/-- A template that can be rendered. -/
structure Document where
  /-- The name of its file; none when it was given as text. -/
  name : Option String
  /-- Whether output is escaped. -/
  escape : Bool
  body : List Stmt
  blocks : List Block

end RenderBench.Template
