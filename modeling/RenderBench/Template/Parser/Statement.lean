import RenderBench.Template.Parser.Expression
import RenderBench.Text.Blank

/-!
# `Template.Parser.Statement` — statements

A statement is a tag, or a pair of tags around a body. A body runs up to one of the tags its statement waits
for.

## Contents
- `assignTarget`, `nameTarget`: what is assigned to.
- one parser per kind of statement, each given the parser of bodies.
- `statements`, `parseStatements`: bodies and documents.
-/

namespace RenderBench.Template.Parser

open Parse

/-- The parser of a body up to one of some tags; the flag tells whether to go past that tag. -/
abbrev Body := List String → Bool → Parse (List Stmt)

/-! ## Targets -/

/-- The kind of an expression, as messages name it. -/
def Expr.kindName : Expr → String
  | .const _ => "const"
  | .name _ => "name"
  | .list _ => "list"
  | .tuple _ => "tuple"
  | .dict _ _ => "dict"
  | .attribute _ _ => "getattr"
  | .item _ _ => "getitem"
  | .slice _ _ _ => "slice"
  | .call _ _ _ _ => "call"
  | .filter _ _ _ _ _ _ => "filter"
  | .test _ _ _ _ _ _ => "test"
  | .unary .neg _ => "neg"
  | .unary .pos _ => "pos"
  | .unary .not _ => "not"
  | .binary .add _ _ => "add"
  | .binary .sub _ _ => "sub"
  | .binary .mul _ _ => "mul"
  | .binary .div _ _ => "div"
  | .binary .floorDiv _ _ => "floordiv"
  | .binary .mod _ _ => "mod"
  | .binary .pow _ _ => "pow"
  | .concat _ => "concat"
  | .and _ _ => "and"
  | .or _ _ => "or"
  | .compare _ _ _ => "compare"
  | .ifElse _ _ _ => "condexpr"
  | .ifOnly _ _ _ => "condexpr"
  | .spread _ => "call"
  | .spreadNamed _ => "call"
  | .captured => "name"

mutual

/-- An expression in brackets as a target, if it is one: names, and rows of them. -/
def targetOf? (line : Nat) : Expr → Option Target
  | .name n => some (.name line n)
  | .tuple es => (targetsOf? line es).map .tuple
  | _ => none

def targetsOf? (line : Nat) : List Expr → Option (List Target)
  | [] => some []
  | e :: es =>
    match targetOf? line e, targetsOf? line es with
    | some t, some ts => some (t :: ts)
    | _, _ => none

end

/-- One element of a target, or the kind of expression that is none. Where members may be assigned, a name
    may be followed by a member. -/
def targetElement (membersToo : Bool) : Parse (Except String Target) := do
  let start ← line
  let e ← primary expression
  match e with
  | .name n =>
    if membersToo then
      if ← skipSign .dot then return .ok (.member n (← expectAnyName).2)
      else return .ok (.name start n)
    else return .ok (.name start n)
  | e =>
    match targetOf? start e with
    | some t => return .ok t
    | none => return .error (Expr.kindName e)

/-- What is assigned to: a name, or several in a row. -/
def assignTarget (membersToo : Bool) : Parse Target := do
  let start ← line
  match ← commaSeparated (targetElement membersToo) with
  | ([.ok t], false) => return t
  | ([.error kind], false) => failAt start (.cannotAssign kind)
  | ([], false) => fail (.expectedExpression (← kind).description)
  | (elements, _) =>
    match elements.mapM (fun
        | .ok t => some t
        | .error _ => none) with
    | some ts => return .tuple ts
    | none => failAt start (.cannotAssign "tuple")

/-- A name that is assigned to. -/
def nameTarget : Parse String := do
  let (start, n) ← expectAnyName
  match nameExpr n with
  | .name _ => return n
  | _ => failAt start (.cannotAssign "name")

/-! ## Statements with bodies -/

def setStatement (body : Body) : Parse Stmt := do
  discard advance
  let target ← assignTarget true
  if ← skipSign .assign then
    return .assign target (← sequence true)
  else
    let filter ← if ← isSign .pipe then some <$> filters expression .captured else pure none
    return .capture target filter (← body ["endset"] true)

def forStatement (body : Body) : Parse Stmt := do
  discard (expectName "for")
  let target ← assignTarget false
  discard (expectName "in")
  let source ← sequence false
  let condition ← if ← skipName "if" then some <$> expression true else pure none
  let recursive ← skipName "recursive"
  let main ← body ["endfor", "else"] false
  match (← advance).kind with
  | .name "endfor" => return .forLoop target source condition recursive main []
  | _ => return .forLoop target source condition recursive main (← body ["endfor"] true)

/-- A condition with its body and what follows up to the end of the statement. -/
def branchWithin (body : Body) : Nat → Parse Stmt
  | 0 => fail .tooDeep
  | n + 1 => do
    let test ← sequence false
    let main ← body ["elif", "else", "endif"] false
    match (← advance).kind with
    | .name "elif" => return .branch test main [← branchWithin body n]
    | .name "else" => return .branch test main (← body ["endif"] true)
    | _ => return .branch test main []

def ifStatement (body : Body) : Parse Stmt := do
  discard (expectName "if")
  branchWithin body (← wordsLeft)

def withStatement (body : Body) : Parse Stmt := do
  discard advance
  let (targets, values) ← iterate (fun (targets, values) => do
    if (← kind) == .tagEnd then return .inr (targets, values)
    if !targets.isEmpty then discard (expectSign .comma)
    let target ← assignTarget false
    discard (expectSign .assign)
    return .inl (targets ++ [target], values ++ [← expression true]))
    (([] : List Target), ([] : List Expr))
  return .scope targets values (← body ["endwith"] true)

def escapingStatement (body : Body) : Parse Stmt := do
  discard advance
  let value ← expression true
  return .escaping value (← body ["endautoescape"] true)

/-- Whether a statement is text of white space only. -/
def Stmt.isBlankText : Stmt → Bool
  | .output pieces => pieces.all fun
    | .text s => !s.isEmpty && s.toList.all isBlank
    | .value _ => false
  | _ => false

def blockStatement (body : Body) : Parse Stmt := do
  let start ← advance
  let (_, name) ← expectAnyName
  let withLocals ← skipName "scoped"
  let required ← skipName "required"
  if ← isSign .sub then fail .hyphenatedBlock
  let main ← body ["endblock"] true
  if required && !main.all Stmt.isBlankText then fail .requiredBlock
  discard (skipName name)
  return .block start.line name withLocals required main

/-- Parameters in parentheses, with the defaults of the last ones. -/
def signature : Parse (List String × List Expr) := do
  discard (expectSign .openParen)
  let found ← iterate (fun (params, defaults) => do
    if ← isSign .closeParen then return .inr (params, defaults)
    if !params.isEmpty then discard (expectSign .comma)
    let name ← nameTarget
    if ← skipSign .assign then
      return .inl (params ++ [name], defaults ++ [← expression true])
    else if !defaults.isEmpty then fail .defaultOrder
    else return .inl (params ++ [name], defaults))
    (([] : List String), ([] : List Expr))
  discard (expectSign .closeParen)
  return found

def definitionStatement (body : Body) : Parse Stmt := do
  discard advance
  let name ← nameTarget
  let (params, defaults) ← signature
  return .definition name params defaults (← body ["endmacro"] true)

def callStatement (body : Body) : Parse Stmt := do
  let start ← advance
  let (params, defaults) ← if ← isSign .openParen then signature else pure ([], [])
  let e ← expression true
  match e with
  | .call _ _ _ _ => return .callBlock params defaults e (← body ["endcall"] true)
  | _ => failAt start.line .expectedCall

def filterStatement (body : Body) : Parse Stmt := do
  discard advance
  let first ← filterAfter expression .captured
  let all ← filters expression first
  return .filterBlock all (← body ["endfilter"] true)

/-! ## Statements without bodies -/

def extendsStatement : Parse Stmt := do
  let start ← advance
  return .inherit start.line (← expression true)

/-- `with context` or `without context`, or else the default. -/
def contextClause (default : Bool) : Parse Bool := do
  match ← kind with
  | .name n =>
    if n == "with" || n == "without" then
      if (← look) == .name "context" then
        discard advance
        discard advance
        return n == "with"
      else return default
    else return default
  | _ => return default

def includeStatement : Parse Stmt := do
  discard advance
  let source ← expression true
  let mut ignoreMissing := false
  if ← isName "ignore" then
    if (← look) == .name "missing" then
      discard advance
      discard advance
      ignoreMissing := true
  return .embed source ignoreMissing (← contextClause true)

def importStatement : Parse Stmt := do
  discard advance
  let source ← expression true
  discard (expectName "as")
  let name ← nameTarget
  discard (contextClause false)
  return .importing source [name]

/-- Goes past a clause about the context, if there is one. -/
def skipContext : Parse Bool := do
  match ← kind with
  | .name n =>
    if n == "with" || n == "without" then
      if (← look) == .name "context" then
        discard advance
        discard advance
        return true
      else return false
    else return false
  | _ => return false

def fromStatement : Parse Stmt := do
  discard advance
  let source ← expression true
  discard (expectName "import")
  let names ← iterate (fun (done : List String) => do
    if !done.isEmpty then discard (expectSign .comma)
    match ← kind with
    | .name _ =>
      if ← skipContext then return .inr done
      let start ← line
      let name ← nameTarget
      if name.startsWith "_" then failAt start .privateImport
      let bound ← if ← skipName "as" then nameTarget else pure name
      if ← skipContext then return .inr (done ++ [bound])
      if ← isSign .comma then return .inl (done ++ [bound])
      return .inr (done ++ [bound])
    | _ => unexpected "name") []
  return .importing source names

def printStatement : Parse Stmt := do
  discard advance
  let pieces ← iterate (fun (done : List Piece) => do
    if (← kind) == .tagEnd then return .inr done
    if !done.isEmpty then discard (expectSign .comma)
    return .inl (done ++ [.value (← expression true)])) []
  return .output pieces

/-! ## Bodies and documents -/

/-- The fault of a tag that fits nowhere, or of the document's end. -/
def misplaced {α : Type} (line : Nat) (tag : Option String) (waiting : List (List String))
    (opened : List String) : Parse α :=
  let nested := match tag with
    | some t => waiting.any fun tags => tags.contains t
    | none => false
  failAt line (.misplacedTag tag (waiting.head?.getD []) nested opened.head?)

/-- One statement, from its name on. -/
def statement (body : Body) : Parse Stmt := do
  let token ← current
  match token.kind with
  | .name n =>
    let s ← get
    set { s with opened := n :: s.opened }
    let result ←
      if n = "for" then forStatement body
      else if n = "if" then ifStatement body
      else if n = "block" then blockStatement body
      else if n = "extends" then extendsStatement
      else if n = "print" then printStatement
      else if n = "macro" then definitionStatement body
      else if n = "include" then includeStatement
      else if n = "from" then fromStatement
      else if n = "import" then importStatement
      else if n = "set" then setStatement body
      else if n = "with" then withStatement body
      else if n = "autoescape" then escapingStatement body
      else if n = "call" then callStatement body
      else if n = "filter" then filterStatement body
      else misplaced token.line (some n) s.waiting s.opened
    modify fun t => { t with opened := s.opened }
    return result
  | _ => failAt token.line .tagNameExpected

/-- Output read so far as a statement. -/
def flush (done : List Stmt) (pieces : List Piece) : List Stmt :=
  if pieces.isEmpty then done else done ++ [.output pieces]

/-- Text, output and statements up to one of some tags, or to the end of the document. -/
def contents (body : Body) (tags : List String) : Parse (List Stmt) :=
  iterate (fun (done, pieces) => do
    match ← kind with
    | .data s =>
      discard advance
      return .inl (done, if s.isEmpty then pieces else pieces ++ [.text s])
    | .printBegin =>
      discard advance
      let e ← sequence true
      expectPrintEnd
      return .inl (done, pieces ++ [.value e])
    | .tagBegin =>
      let done := flush done pieces
      discard advance
      let atEnd ← match ← kind with
        | .name n => pure (tags.contains n)
        | _ => pure false
      if atEnd then return .inr done
      let s ← statement body
      expectTagEnd
      return .inl (done ++ [s], [])
    | _ => return .inr (flush done pieces)) (([] : List Stmt), ([] : List Piece))

/-- A body after its tag; the fuel bounds how deeply statements are nested. -/
def bodyWithin : Nat → Body
  | 0 => fun _ _ => fail .tooDeep
  | n + 1 => fun tags goPast => do
    discard (skipSign .colon)
    expectTagEnd
    let s ← get
    set { s with waiting := tags :: s.waiting }
    let result ← contents (bodyWithin n) tags
    modify fun t => { t with waiting := s.waiting }
    if (← kind) == .finish then
      misplaced (← line) none (tags :: s.waiting) (← get).opened
    if goPast then discard advance
    return result

/-- All statements of a document. -/
def statements : Parse (List Stmt) := do
  contents (bodyWithin (← wordsLeft)) []

end RenderBench.Template.Parser

namespace RenderBench.Template

/-- The statements of a document's text. -/
def parseStatements (words : List Lexeme) : Except SyntaxFault (List Stmt) :=
  parseLexemes Parser.statements words

end RenderBench.Template
