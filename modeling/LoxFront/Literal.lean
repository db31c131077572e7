import LoxFront.Number.Notation
import LoxFront.Text.Escaped
/-!
Literal values: booleans, `nil`, numbers and strings. A literal has the text a program prints
for it, the text of structure dumps, and equality under which numbers compare as IEEE values,
so a literal holding a NaN equals nothing, itself included.
-/
namespace LoxFront

/-- A literal value as written in source. -/
inductive Literal where
  | bool (value : Bool)
  | nil
  | number (value : Binary64)
  | string (value : String)

namespace Literal

def text : Literal → String
  | bool b => if b then "true" else "false"
  | nil => "nil"
  | number x => x.write Notation.plain
  | string s => s

def dump : Literal → String
  | bool b => "Bool(" ++ (if b then "true" else "false") ++ ")"
  | nil => "Nil"
  | number x => "Number(" ++ x.write Notation.dump ++ ")"
  | string s => "String(" ++ Text.quote s ++ ")"

/-- Equality of literals: same variant and equal contents, numbers compared as IEEE values. -/
def equals : Literal → Literal → Bool
  | bool a, bool b => a == b
  | nil, nil => true
  | number x, number y => x.equals y
  | string s, string t => s == t
  | _, _ => false

def isNaN : Literal → Bool
  | number x => x.isNaN
  | _ => false

end Literal

def Literal.equalsOpt : Option Literal → Option Literal → Bool
  | none, none => true
  | some a, some b => a.equals b
  | _, _ => false

end LoxFront
