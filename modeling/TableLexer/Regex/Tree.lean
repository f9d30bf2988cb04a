import TableLexer.Regex.Expr
import TableLexer.Regex.Mode

/-!
# Syntax trees of patterns

A syntax tree keeps a pattern as it is written. Sets of characters are not looked into
and nothing is simplified: what the pattern means is the expression that is built from
the tree, `Tree.toExpr`.
-/

namespace TableLexer.Regex

/-- What stands for one character: a character, which may have other cases in the mode
in force, or a set. -/
inductive Leaf where
  | literal (m : Mode) (c : Char)
  | set (s : CharSet)
  deriving DecidableEq, Repr

/-- The characters for which a leaf stands. -/
def Leaf.chars : Leaf → CharSet
  | .literal m c => m.fold (.singleton c)
  | .set s => s

/-- A pattern as it is written. The numbers of `repeated` and `group` mean what they mean
in an expression. -/
inductive Tree where
  | leaf (l : Leaf)
  | look (l : Look)
  | group (number : Nat) (body : Tree)
  | repeated (min : Nat) (max : Option Nat) (greedy : Bool) (body : Tree)
  | sequence (parts : List Tree)
  | choice (options : List Tree)
  deriving Repr, Inhabited

namespace Tree

/-- The tree of a pattern that matches nothing but the empty text. -/
def empty : Tree := .sequence []

mutual

/-- The expression that a pattern denotes. -/
def toExpr : Tree → Expr
  | .leaf l => .charSet l.chars
  | .look l => .look l
  | .group number body => .group number body.toExpr
  | .repeated min max greedy body => .repetition min max greedy body.toExpr
  | .sequence parts => .concat (toExprs parts)
  | .choice options => .alternation (toExprs options)

/-- The expressions of several trees. -/
def toExprs : List Tree → List Expr
  | [] => []
  | t :: rest => t.toExpr :: toExprs rest

end

end Tree

end TableLexer.Regex
