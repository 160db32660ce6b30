import RenderBench.Template.Syntax

/-!
# `Template.Mention` — names that statements look at

A loop keeps its state, and a definition takes a body, only if a name for it occurs inside. Blocks are
rendered by themselves, so what occurs in them does not count.

## Contents
- `Expr.mentions`, `Stmt.mentions`: whether a name occurs.
- `Stmt.hasLocalBlock`: whether there is a block that sees the names around it.
-/

namespace RenderBench.Template

mutual

/-- Whether a name occurs in an expression. -/
def Expr.mentions (n : String) : Expr → Bool
  | .const _ => false
  | .name m => m == n
  | .list es => Expr.anyMentions n es
  | .tuple es => Expr.anyMentions n es
  | .dict ks vs => Expr.anyMentions n ks || Expr.anyMentions n vs
  | .attribute e _ => e.mentions n
  | .item e i => e.mentions n || i.mentions n
  | .slice a b c => a.mentions n || b.mentions n || c.mentions n
  | .call f args _ values => f.mentions n || Expr.anyMentions n args || Expr.anyMentions n values
  | .filter _ e _ args _ values =>
    e.mentions n || Expr.anyMentions n args || Expr.anyMentions n values
  | .test _ e _ args _ values =>
    e.mentions n || Expr.anyMentions n args || Expr.anyMentions n values
  | .unary _ e => e.mentions n
  | .binary _ a b => a.mentions n || b.mentions n
  | .concat es => Expr.anyMentions n es
  | .and a b => a.mentions n || b.mentions n
  | .or a b => a.mentions n || b.mentions n
  | .compare e _ es => e.mentions n || Expr.anyMentions n es
  | .ifElse t a b => t.mentions n || a.mentions n || b.mentions n
  | .ifOnly _ t a => t.mentions n || a.mentions n
  | .spread e => e.mentions n
  | .spreadNamed e => e.mentions n
  | .captured => false

def Expr.anyMentions (n : String) : List Expr → Bool
  | [] => false
  | e :: es => e.mentions n || Expr.anyMentions n es

end

def Piece.mentions (n : String) : Piece → Bool
  | .text _ => false
  | .value e => e.mentions n

mutual

/-- Whether a name occurs in a statement outside blocks. -/
def Stmt.mentions (n : String) : Stmt → Bool
  | .output pieces => pieces.any (Piece.mentions n)
  | .forLoop _ source condition _ body otherwise =>
    source.mentions n || condition.any (Expr.mentions n) || Stmt.anyMentions n body ||
      Stmt.anyMentions n otherwise
  | .branch test body otherwise =>
    test.mentions n || Stmt.anyMentions n body || Stmt.anyMentions n otherwise
  | .assign _ value => value.mentions n
  | .capture _ filter body => filter.any (Expr.mentions n) || Stmt.anyMentions n body
  | .scope _ values body => Expr.anyMentions n values || Stmt.anyMentions n body
  | .block _ _ _ _ _ => false
  | .inherit _ parent => parent.mentions n
  | .embed source _ _ => source.mentions n
  | .definition _ _ defaults body => Expr.anyMentions n defaults || Stmt.anyMentions n body
  | .callBlock _ defaults call body =>
    Expr.anyMentions n defaults || call.mentions n || Stmt.anyMentions n body
  | .filterBlock filter body => filter.mentions n || Stmt.anyMentions n body
  | .escaping value body => value.mentions n || Stmt.anyMentions n body
  | .importing source _ => source.mentions n

def Stmt.anyMentions (n : String) : List Stmt → Bool
  | [] => false
  | s :: ss => s.mentions n || Stmt.anyMentions n ss

end

mutual

/-- Whether there is a block that sees the names around it. -/
def Stmt.hasLocalBlock : Stmt → Bool
  | .block _ _ withLocals _ body => withLocals || Stmt.anyLocalBlock body
  | .forLoop _ _ _ _ body otherwise => Stmt.anyLocalBlock body || Stmt.anyLocalBlock otherwise
  | .branch _ body otherwise => Stmt.anyLocalBlock body || Stmt.anyLocalBlock otherwise
  | .capture _ _ body => Stmt.anyLocalBlock body
  | .scope _ _ body => Stmt.anyLocalBlock body
  | .definition _ _ _ body => Stmt.anyLocalBlock body
  | .callBlock _ _ _ body => Stmt.anyLocalBlock body
  | .filterBlock _ body => Stmt.anyLocalBlock body
  | .escaping _ body => Stmt.anyLocalBlock body
  | .output _ => false
  | .assign _ _ => false
  | .inherit _ _ => false
  | .embed _ _ _ => false
  | .importing _ _ => false

def Stmt.anyLocalBlock : List Stmt → Bool
  | [] => false
  | s :: ss => s.hasLocalBlock || Stmt.anyLocalBlock ss

end

end RenderBench.Template
