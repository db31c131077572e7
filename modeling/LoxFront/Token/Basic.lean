import LoxFront.Token.Kind
import LoxFront.Literal
/-!
Tokens: a kind, the lexeme as it stands in the source, the decoded literal of numbers and
strings, and the line of the first character. The token text is `KIND, lexeme literal` with
`nil` standing for a missing literal; the end-of-input token has an empty lexeme.
-/
namespace LoxFront

/-- A classified lexeme with its line. -/
structure Token where
  kind : TokenKind
  lexeme : String
  literal : Option Literal
  line : Nat

namespace Token

def eof (line : Nat) : Token := ⟨.endOfFile, "", none, line⟩

def text (t : Token) : String :=
  let shown := match t.literal with
    | some l => l.text
    | none => "nil"
  t.kind.name ++ ", " ++ t.lexeme ++ " " ++ shown

def dump (t : Token) : String :=
  let shown := match t.literal with
    | some l => "Some(" ++ l.dump ++ ")"
    | none => "None"
  "Token \x7b kind: " ++ t.kind.dumpName ++ ", lexeme: " ++ Text.quote t.lexeme ++
    ", literal: " ++ shown ++ ", line: " ++ toString t.line ++ " \x7d"

/-- Equality of tokens: every field equal, literals compared with `Literal.equalsOpt`. -/
def equals (a b : Token) : Bool :=
  a.kind == b.kind && a.lexeme == b.lexeme && Literal.equalsOpt a.literal b.literal &&
    a.line == b.line

end Token
end LoxFront
