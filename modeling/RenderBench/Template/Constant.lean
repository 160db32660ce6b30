import RenderBench.Template.Filter

/-!
# `Template.Constant` — what is known before rendering

An expression without names and calls has the same value in every rendering. Where evaluating it succeeds
and gives plain data, the data stands in its place.

## Contents
- `constValue`: the value of an expression that does not depend on the rendering.
- `Expr.fold`, `Stmt.fold`: constants in place of what is known.
-/

namespace RenderBench.Template

/-! ## Values known beforehand -/

/-- A successful evaluation. -/
def known? {α : Type} : Eval α → Option α
  | .ok a => some a
  | .error _ => none

mutual

/-- The value of an expression that needs no rendering; none when it fails or is not known. Operands that
    the outcome does not depend on need not be known. -/
def constValue (escape : Bool) : Expr → Option Value
  | .const l => some (.ofLiteral l)
  | .list es => do return .list (← constValues escape es)
  | .tuple es => do return .tuple (← constValues escape es)
  | .dict ks vs => do
    known? (mappingOf ((← constValues escape ks).zip (← constValues escape vs)))
  | .attribute e attr => do known? (memberOf (← constValue escape e) attr)
  | .item e i => do known? (elementAt (← constValue escape e) (← constValue escape i))
  | .slice a b c => do
    return .slice (← constValue escape a) (← constValue escape b) (← constValue escape c)
  | .filter _ e name args names values => do
    let vs ← constValues escape args
    let ws ← constValues escape values
    let v ← constValue escape e
    if isContextual name then none else known? (applyFilter escape name v vs (names.zip ws))
  | .test _ e name args names values => do
    let vs ← constValues escape args
    let ws ← constValues escape values
    let v ← constValue escape e
    return .bool (← known? (applyTest name v vs (names.zip ws)))
  | .unary op e => do known? (unaryValue op (← constValue escape e))
  | .binary op a b => do known? (binaryValue op (← constValue escape a) (← constValue escape b))
  | .concat es => do return .text (String.join ((← constValues escape es).map Value.display))
  | .and a b => do
    let v ← constValue escape a
    if v.isTruthy then constValue escape b else return v
  | .or a b => do
    let v ← constValue escape a
    if v.isTruthy then return v else constValue escape b
  | .compare e ops es => do
    return .bool (← constComparison escape (← constValue escape e) ops es)
  | .ifElse t a b => do
    if (← constValue escape t).isTruthy then constValue escape a else constValue escape b
  | .ifOnly _ t a => do
    if (← constValue escape t).isTruthy then constValue escape a else none
  | .name _ => none
  | .call _ _ _ _ => none
  | .spread _ => none
  | .spreadNamed _ => none
  | .captured => none

def constValues (escape : Bool) : List Expr → Option (List Value)
  | [] => some []
  | e :: es => do return (← constValue escape e) :: (← constValues escape es)

/-- A chain of comparisons up to the first that does not hold. -/
def constComparison (escape : Bool) (v : Value) : List CompareOp → List Expr → Option Bool
  | op :: ops, e :: es => do
    let w ← constValue escape e
    if ← known? (compareValues op v w) then constComparison escape w ops es else return false
  | _, _ => some true

end

/-! ## Folding -/

/-- A constant, where the value is known and plain data. -/
def Expr.settle (escape : Bool) (e : Expr) : Expr :=
  match (constValue escape e).bind Value.literal? with
  | some l => .const l
  | none => e

mutual

/-- An expression with constants in place of what is known. -/
def Expr.fold (escape : Bool) : Expr → Expr
  | .const l => .const l
  | .name n => .name n
  | .captured => .captured
  | .list es => (Expr.list (Expr.foldAll escape es)).settle escape
  | .tuple es => (Expr.tuple (Expr.foldAll escape es)).settle escape
  | .dict ks vs =>
    (Expr.dict (Expr.foldAll escape ks) (Expr.foldAll escape vs)).settle escape
  | .attribute e attr => (Expr.attribute (e.fold escape) attr).settle escape
  | .item e i => (Expr.item (e.fold escape) (i.fold escape)).settle escape
  | .slice a b c => .slice (a.fold escape) (b.fold escape) (c.fold escape)
  | .call f args names values =>
    .call (f.fold escape) (Expr.foldAll escape args) names (Expr.foldAll escape values)
  | .filter line e n args names values =>
    (Expr.filter line (e.fold escape) n (Expr.foldAll escape args) names
      (Expr.foldAll escape values)).settle escape
  | .test line e n args names values =>
    (Expr.test line (e.fold escape) n (Expr.foldAll escape args) names
      (Expr.foldAll escape values)).settle escape
  | .unary op e => (Expr.unary op (e.fold escape)).settle escape
  | .binary op a b => (Expr.binary op (a.fold escape) (b.fold escape)).settle escape
  | .concat es => (Expr.concat (Expr.foldAll escape es)).settle escape
  | .and a b => (Expr.and (a.fold escape) (b.fold escape)).settle escape
  | .or a b => (Expr.or (a.fold escape) (b.fold escape)).settle escape
  | .compare e ops es =>
    (Expr.compare (e.fold escape) ops (Expr.foldAll escape es)).settle escape
  | .ifElse t a b =>
    (Expr.ifElse (t.fold escape) (a.fold escape) (b.fold escape)).settle escape
  | .ifOnly line t a => (Expr.ifOnly line (t.fold escape) (a.fold escape)).settle escape
  | .spread e => .spread (e.fold escape)
  | .spreadNamed e => .spreadNamed (e.fold escape)

def Expr.foldAll (escape : Bool) : List Expr → List Expr
  | [] => []
  | e :: es => e.fold escape :: Expr.foldAll escape es

end

def Piece.fold (escape : Bool) : Piece → Piece
  | .text s => .text s
  | .value e => .value (e.fold escape)

mutual

/-- A statement with constants in place of what is known. Where escaping is not settled before rendering,
    nothing is known. -/
def Stmt.fold (escape : Bool) : Stmt → Stmt
  | .output pieces => .output (pieces.map (Piece.fold escape))
  | .forLoop target source condition recursive body otherwise =>
    .forLoop target (source.fold escape) (condition.map (Expr.fold escape)) recursive
      (Stmt.foldAll escape body) (Stmt.foldAll escape otherwise)
  | .branch test body otherwise =>
    .branch (test.fold escape) (Stmt.foldAll escape body) (Stmt.foldAll escape otherwise)
  | .assign target value => .assign target (value.fold escape)
  | .capture target filter body =>
    .capture target (filter.map (Expr.fold escape)) (Stmt.foldAll escape body)
  | .scope targets values body =>
    .scope targets (Expr.foldAll escape values) (Stmt.foldAll escape body)
  | .block line n withLocals required body =>
    .block line n withLocals required (Stmt.foldAll escape body)
  | .inherit line parent => .inherit line (parent.fold escape)
  | .embed source ignoreMissing withContext =>
    .embed (source.fold escape) ignoreMissing withContext
  | .definition n params defaults body =>
    .definition n params (Expr.foldAll escape defaults) (Stmt.foldAll escape body)
  | .callBlock params defaults call body =>
    .callBlock params (Expr.foldAll escape defaults) (call.fold escape) (Stmt.foldAll escape body)
  | .filterBlock filter body => .filterBlock (filter.fold escape) (Stmt.foldAll escape body)
  | .escaping value body =>
    let value := value.fold escape
    match value with
    | .const l => .escaping value (Stmt.foldAll (Value.ofLiteral l).isTruthy body)
    | _ => .escaping value body
  | .importing source names => .importing (source.fold escape) names

def Stmt.foldAll (escape : Bool) : List Stmt → List Stmt
  | [] => []
  | s :: ss => s.fold escape :: Stmt.foldAll escape ss

end

end RenderBench.Template
