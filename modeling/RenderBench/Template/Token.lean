import RenderBench.Number.Binary64
import RenderBench.Template.SyntaxFault

/-!
# `Template.Token` — the words of a document

A document is read as text between tags and, inside tags, as names, numbers, texts and signs.

## Contents
- `Sign`: operators and brackets.
- `TokenKind`, `Token`: words on their lines.
- `TokenKind.description`: how messages name a word.
- `Lexeme`: a word, or the fault that stands in its place.
-/

namespace RenderBench.Template

inductive Sign where
  | add
  | sub
  | div
  | floorDiv
  | mul
  | mod
  | pow
  | tilde
  | openBracket
  | closeBracket
  | openParen
  | closeParen
  | openBrace
  | closeBrace
  | eq
  | ne
  | gt
  | ge
  | lt
  | le
  | assign
  | dot
  | colon
  | pipe
  | comma
  | semicolon
  deriving DecidableEq

def Sign.text : Sign → String
  | .add => "+"
  | .sub => "-"
  | .div => "/"
  | .floorDiv => "//"
  | .mul => "*"
  | .mod => "%"
  | .pow => "**"
  | .tilde => "~"
  | .openBracket => "["
  | .closeBracket => "]"
  | .openParen => "("
  | .closeParen => ")"
  | .openBrace => "\x7b"
  | .closeBrace => "\x7d"
  | .eq => "=="
  | .ne => "!="
  | .gt => ">"
  | .ge => ">="
  | .lt => "<"
  | .le => "<="
  | .assign => "="
  | .dot => "."
  | .colon => ":"
  | .pipe => "|"
  | .comma => ","
  | .semicolon => ";"

/-- The sign at the front, the longest one first. -/
def Sign.scan? : List Char → Option (Sign × List Char)
  | '/' :: '/' :: cs => some (.floorDiv, cs)
  | '*' :: '*' :: cs => some (.pow, cs)
  | '=' :: '=' :: cs => some (.eq, cs)
  | '!' :: '=' :: cs => some (.ne, cs)
  | '>' :: '=' :: cs => some (.ge, cs)
  | '<' :: '=' :: cs => some (.le, cs)
  | '+' :: cs => some (.add, cs)
  | '-' :: cs => some (.sub, cs)
  | '/' :: cs => some (.div, cs)
  | '*' :: cs => some (.mul, cs)
  | '%' :: cs => some (.mod, cs)
  | '~' :: cs => some (.tilde, cs)
  | '[' :: cs => some (.openBracket, cs)
  | ']' :: cs => some (.closeBracket, cs)
  | '(' :: cs => some (.openParen, cs)
  | ')' :: cs => some (.closeParen, cs)
  | '\x7b' :: cs => some (.openBrace, cs)
  | '\x7d' :: cs => some (.closeBrace, cs)
  | '>' :: cs => some (.gt, cs)
  | '<' :: cs => some (.lt, cs)
  | '=' :: cs => some (.assign, cs)
  | '.' :: cs => some (.dot, cs)
  | ':' :: cs => some (.colon, cs)
  | '|' :: cs => some (.pipe, cs)
  | ',' :: cs => some (.comma, cs)
  | ';' :: cs => some (.semicolon, cs)
  | _ => none

inductive TokenKind where
  | data (s : String)
  | printBegin
  | printEnd
  | tagBegin
  | tagEnd
  | name (n : String)
  | text (s : String)
  | integer (i : Int)
  | real (x : Binary64)
  | sign (s : Sign)
  | finish
  deriving DecidableEq

def TokenKind.description : TokenKind → String
  | .data _ => "template data / text"
  | .printBegin => "begin of print statement"
  | .printEnd => "end of print statement"
  | .tagBegin => "begin of statement block"
  | .tagEnd => "end of statement block"
  | .name n => n
  | .text _ => "string"
  | .integer _ => "integer"
  | .real _ => "float"
  | .sign s => s.text
  | .finish => "end of template"

structure Token where
  line : Nat
  kind : TokenKind
  deriving DecidableEq

/-- A word, or the fault that stands in its place. Nothing follows a fault. -/
inductive Lexeme where
  | token (t : Token)
  | fault (f : SyntaxFault)
  deriving DecidableEq

end RenderBench.Template
