import LoxFront.Expr

/-! Comparing a tree with a copy of itself. A copy of a tree is the same value, node for node, so
the comparison is `Expr.equals e e`. Main statement: a tree equals its copy exactly when no NaN
occurs in it, neither as a literal leaf nor as the literal of an operator token. Number equality
is the one comparison that is not reflexive, and every other comparison passes it through. -/
namespace LoxFront

namespace Binary64

@[simp] theorem equals_self (x : Binary64) : x.equals x = !x.isNaN := by
  cases nan : x.isNaN <;> simp [equals,nan]

end Binary64

namespace Literal

@[simp] theorem equals_self (l : Literal) : l.equals l = !l.isNaN := by
  cases l <;> simp [equals,isNaN]

@[simp] theorem equalsOpt_self (o : Option Literal) : equalsOpt o o = !o.any isNaN := by
  cases o <;> simp [equalsOpt]

end Literal

namespace Token

@[simp] theorem equals_self (t : Token) : t.equals t = !t.literal.any Literal.isNaN := by
  simp [equals]

end Token

namespace Expr

/-- The literals of a tree in order: its literal leaves and the literals of its operator
tokens. -/
def literals : Expr → List Literal
  | binary left op right => left.literals ++ op.literal.toList ++ right.literals
  | grouping e => e.literals
  | literal v => [v]
  | unary op right => op.literal.toList ++ right.literals

private theorem any_isNaN_eq_false {o : Option Literal} :
    o.any Literal.isNaN = false ↔ ∀ l ∈ o.toList, l.isNaN = false := by
  cases o <;> simp

/-- A tree equals its copy exactly when no literal in it, leaf or operator token, is a NaN. -/
theorem equals_self_iff_no_nan (e : Expr) :
    e.equals e = true ↔ ∀ l ∈ e.literals, l.isNaN = false := by
  induction e with
  | binary left op right leftSelf rightSelf =>
    simp only [equals,literals,Bool.and_eq_true,leftSelf,rightSelf,Token.equals_self,
      Bool.not_eq_true',any_isNaN_eq_false,List.mem_append,or_imp,forall_and]
  | grouping inner innerSelf => simpa [equals,literals] using innerSelf
  | literal v => simp [equals,literals]
  | unary op right rightSelf =>
    simp only [equals,literals,Bool.and_eq_true,rightSelf,Token.equals_self,Bool.not_eq_true',
      any_isNaN_eq_false,List.mem_append,or_imp,forall_and]

example : (unary ⟨.minus,"-",some (.number Binary64.nan),1⟩ (literal (.number Binary64.zero))).equals
    (unary ⟨.minus,"-",some (.number Binary64.nan),1⟩ (literal (.number Binary64.zero))) = false := by
  decide

end Expr
end LoxFront
