import LoxFront.Token.Basic
/-!
Expression trees: binary and unary operations carrying their operator token, groupings, and
literal leaves. A tree prints in fully parenthesised prefix form, `(op left right)`,
`(op right)` and `(group inner)`, with literals as their text; it dumps as the structure of its
nodes and tokens; and two trees are equal when they have the same shape with equal tokens and
literals at every position.
-/
namespace LoxFront

/-- An expression tree. -/
inductive Expr where
  | binary (left : Expr) (op : Token) (right : Expr)
  | grouping (expression : Expr)
  | literal (value : Literal)
  | unary (op : Token) (right : Expr)

namespace Expr

def printTo : Expr → String → String
  | binary left op right, acc =>
    printTo right (printTo left (acc ++ "(" ++ op.lexeme ++ " ") ++ " ") ++ ")"
  | grouping e, acc => printTo e (acc ++ "(group ") ++ ")"
  | literal v, acc => acc ++ v.text
  | unary op right, acc => printTo right (acc ++ "(" ++ op.lexeme ++ " ") ++ ")"

/-- The fully parenthesised prefix form of a tree. -/
def print (e : Expr) : String := e.printTo ""

def dumpTo : Expr → String → String
  | binary left op right, acc =>
    dumpTo right (dumpTo left (acc ++ "Binary(Binary \x7b left: ") ++ ", op: " ++ op.dump ++
      ", right: ") ++ " \x7d)"
  | grouping e, acc => dumpTo e (acc ++ "Grouping(Grouping \x7b expression: ") ++ " \x7d)"
  | literal v, acc => acc ++ "Literal(Literal \x7b value: " ++ v.dump ++ " \x7d)"
  | unary op right, acc =>
    dumpTo right (acc ++ "Unary(Unary \x7b op: " ++ op.dump ++ ", right: ") ++ " \x7d)"

def dump (e : Expr) : String := e.dumpTo ""

def nodes : Expr → Nat
  | binary left _ right => left.nodes + right.nodes + 1
  | grouping e => e.nodes + 1
  | literal _ => 1
  | unary _ right => right.nodes + 1

def depth : Expr → Nat
  | binary left _ right => max left.depth right.depth + 1
  | grouping e => e.depth + 1
  | literal _ => 1
  | unary _ right => right.depth + 1

/-- Equality of trees: the same node at every position, with equal tokens and literals. -/
def equals : Expr → Expr → Bool
  | binary l op r, binary l2 op2 r2 => l.equals l2 && op.equals op2 && r.equals r2
  | grouping e, grouping e2 => e.equals e2
  | literal v, literal v2 => v.equals v2
  | unary op r, unary op2 r2 => op.equals op2 && r.equals r2
  | _, _ => false

end Expr
end LoxFront
