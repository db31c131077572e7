import LoxFront.Code.Scope
import LoxFront.Code.Warning
/-!
What the compiler prints about generated code, one diagnostic after another, and the first error
as a reader of that output sees it.

The compiler prints its parse errors, then calls of unknown macros and broken rules of shape,
then what name resolution reports as soon as it finds it (warnings among them), then the errors
it held until the whole code was resolved, then its warnings about the code, and last the errors
it set aside. A diagnostic equal to one printed before is not printed again.

An error is printed with the places it points at, and a reader who takes the last place printed
before the next error takes the last warning's place when warnings follow the error.
-/
namespace LoxFront.Code

/-- A diagnostic as printed: an error, or a warning. -/
inductive Printed where
  | error (d : Diag)
  | warning (d : Diag)

def Printed.diag : Printed → Diag
  | .error d | .warning d => d

def Printed.isError : Printed → Bool
  | .error _ => true
  | .warning _ => false

def Printed.same (a b : Printed) : Bool :=
  a.isError == b.isError && a.diag.message == b.diag.message && a.diag.span == b.diag.span

def Printed.distinct (ps : List Printed) : List Printed :=
  ps.foldl (fun acc p => if acc.any p.same then acc else acc ++ [p]) []

/-- The first error printed, pointing at the last place printed before the next error: its own
place, or that of the last warning printed after it. -/
def Printed.firstError : List Printed → Option Diag
  | [] => none
  | .warning _ :: rest => Printed.firstError rest
  | .error d :: rest =>
    match (rest.takeWhile fun p => !p.isError).getLast? with
    | some w => some { d with span := w.diag.span }
    | none => some d

def Finding.printed (f : Finding) : Printed :=
  if f.warning then .warning f.diag else .error f.diag

/-- What name resolution and the warnings about the code print, in order: the findings reported
when found, the held ones, the warnings, then the errors that reading set aside and the findings
set aside, each in the order found. -/
def Finding.timeline (found : List Finding) (warnings stashed : List Diag) : List Printed :=
  let timed (t : Timing) := (found.filter fun f => f.timing == t).map Finding.printed
  timed .now ++ timed .held ++ warnings.map .warning ++ stashed.map .error ++ timed .last

end LoxFront.Code
