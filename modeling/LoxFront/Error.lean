/-!
Errors of the front end: lexical errors, which scanning reports and then goes on, and numbers
that cannot be decoded, which would stop a scan. Each carries a line and a message, and its
text is `[line n] Error: message`.
-/
namespace LoxFront

/-- Which kind of error, and so whether it stops a scan. -/
inductive ErrorKind where
  | lexical
  | invalidNumber
  deriving DecidableEq

structure Error where
  kind : ErrorKind
  line : Nat
  message : String

namespace Error

def lexical (line : Nat) (message : String) : Error := ⟨.lexical, line, message⟩

def invalidNumber (line : Nat) (lexeme : String) : Error :=
  ⟨.invalidNumber, line, "Could not convert " ++ lexeme ++ " into a number."⟩

/-- Only an undecodable number stops a scan. -/
def isFatal (e : Error) : Bool := e.kind == .invalidNumber

def text (e : Error) : String := "[line " ++ toString e.line ++ "] Error: " ++ e.message

def equals (a b : Error) : Bool := a.kind == b.kind && a.line == b.line && a.message == b.message

end Error
end LoxFront
