import LoxFront.Token.Scanner
/-!
A sink of errors, kept in the order they arrive until it is reset, and scanning a whole source
into it: the tokens come back with the end-of-input token appended, and each lexical error is
recorded in the sink. An error that is fatal stops the scan and comes back instead.
-/
namespace LoxFront

/-- The errors reported so far, oldest first. -/
structure Diagnostics where
  errors : List Error := []

namespace Diagnostics

def push (d : Diagnostics) (e : Error) : Diagnostics := ⟨d.errors ++ [e]⟩

def record (d : Diagnostics) (line : Nat) (message : String) : Diagnostics :=
  d.push (Error.lexical line message)

def reset (_ : Diagnostics) : Diagnostics := ⟨[]⟩

def hadError (d : Diagnostics) : Bool := !d.errors.isEmpty

def len (d : Diagnostics) : Nat := d.errors.length

def isEmpty (d : Diagnostics) : Bool := d.errors.isEmpty

def emit (d : Diagnostics) : String := String.join (d.errors.map fun e => e.text ++ "\n")

/-- Moves scanned items into a sink: tokens are kept, lexical errors recorded, and a fatal
error ends the walk. -/
def absorb (d : Diagnostics) : List (Except Error Token) → Except Error (List Token) × Diagnostics
  | [] => (.ok [], d)
  | .ok t :: rest =>
    let next := absorb d rest
    (next.1.map (t :: ·), next.2)
  | .error e :: rest =>
    if e.isFatal then (.error e, d) else absorb (d.record e.line e.message) rest

/-- Scans a whole source into the sink: its tokens followed by the end-of-input token on the
last line. -/
def scan (d : Diagnostics) (source : String) : Except Error (List Token) × Diagnostics :=
  let (found, last) := Scanner.items source.toList 1
  let result := d.absorb found
  (result.1.map (· ++ [Token.eof last]), result.2)

end Diagnostics
end LoxFront
