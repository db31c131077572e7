import LoxFront.Code.Grammar.Ty
import LoxFront.Code.Grammar.Path
import LoxFront.Code.Grammar.Operator
import LoxFront.Code.Grammar.Primary
import LoxFront.Code.Grammar.Control
import LoxFront.Code.Grammar.Block
import LoxFront.Code.Grammar.Pattern
import LoxFront.Code.Grammar.Generics
import LoxFront.Code.Grammar.Item
/-!
The grammar of generated code: types, paths, generic arguments, bounds, expressions, blocks,
statements and patterns, read by recursive descent from a token sequence.

The reading recovers where the compiler recovers: it reports an error and goes on with an error
node, a dropped piece, or a guessed token, so that one mistake does not hide the next; where it
cannot go on it fails, and the caller decides. Every step records the tokens it looked for at the
current position, so that an error can list what would have been accepted there.

The parsers are stacked in levels: each reads what it contains with the parsers one level down,
and `Grammar.at fuel` has `fuel` levels below it. The fuel is computed from the length of the
input and never runs out on input that fits in memory.
-/
namespace LoxFront.Code

/-- The parsers one level of nesting above `below`. -/
def Grammar.deepen (below : Grammar) : Grammar :=
  { toTyParsers := below.tyParsers, toPathParsers := below.pathParsers,
    toOperatorParsers := below.operatorParsers, toPrimaryParsers := below.primaryParsers,
    toControlParsers := below.controlParsers, toBlockParsers := below.blockParsers,
    toPatternParsers := below.patternParsers, toGenericsParsers := below.genericsParsers,
    toItemParsers := below.itemParsers, depth := below.depth + 1 }

/-- The parsers with `fuel` levels of nesting below them. -/
def Grammar.at (fuel : Nat) : Grammar := Nat.repeat Grammar.deepen fuel {}

def parseTy (fuel : Nat) : Parse Ty := (Grammar.at fuel).parseTy

def parseFnParams (fuel : Nat) (reqName : Bool) : Parse (List Param) :=
  (Grammar.at fuel).parseFnParams reqName

end LoxFront.Code
