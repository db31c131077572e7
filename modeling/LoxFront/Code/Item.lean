import LoxFront.Code.Printer
import LoxFront.Code.Readable
/-!
The parts of generated items that hold schema text, read the way the compiler reads them: the
fields of a struct, `pub name: Type` separated by commas, and the parameter list of a
constructor, `(name: Type, ...)`.

A struct body is read field by field. A field whose name is a reserved word, whose type fails to
read, or that is followed by neither `,` nor `}` ends the body: its error is reported, the rest
of the body is skipped, and the fields before it stay. A parameter that fails is reported and
stands as `dummy` of an error type; a reserved word as a parameter name is reported and read as
`_`.

Every reading gives the errors it reported, in order, and whether a type failed to read.
-/
namespace LoxFront.Code

open LoxFront.Schema (Span)
open Parse

structure FieldDef where
  name : Ident
  ty : Ty

/-- What a reading gave: its value, the errors it reported in order, whether a type failed to
read, and the errors it set aside, which the compiler reports after everything else. -/
structure Reading (α : Type) where
  value : α
  errors : List Diag
  typeFailed : Bool
  stashed : List Diag := []

def fuelFor (tokens : List Token) : Nat := 64 * (tokens.length + 2)

def parseFieldHead : Parse Ident := do
  let _ ← eatKw "pub"
  let t ← token
  match t.kind with
  | .ident name raw =>
    if t.kind.isReservedIdent then throw (expectedIdentFound t)
    bump
    expect (.op ":")
    return ⟨name, raw, t.span⟩
  | _ => throw (expectedIdentFound t)

/-- Reads what follows a field's type: `,`, or the `}` that ends the body. Anything else is
reported right after the type; reading goes on when a name follows, as if the comma were there. -/
def parseFieldEnd : Parse Unit := do
  let t ← token
  if t.kind == .op "," then bump; return
  if t.kind == rbrace then return
  let p ← prev
  let err : Diag :=
    ⟨"expected `,`, or `\x7d`, found " ++ t.kind.describe, p.span.after p.kind.text.length, false⟩
  if t.kind.isIdent then emitDiag err else throw err

def parseFieldDefs (n : Nat) : Nat → List FieldDef → Parse (List FieldDef × Bool)
  | 0, acc => return (acc.reverse, false)
  | k + 1, acc => do
    let k0 ← kind
    if k0 == rbrace || k0 == .eof then return (acc.reverse, false)
    let stop := fun (e : Diag) (inType : Bool) => do
      consumeBlock lbrace rbrace false n
      emitDiag e
      return (acc.reverse, inType)
    match ← attempt parseFieldHead with
    | .error e => stop e false
    | .ok name =>
      match ← attempt (parseTy n) with
      | .error e => stop e true
      | .ok ty =>
        match ← attempt parseFieldEnd with
        | .error e => stop e false
        | .ok () => parseFieldDefs n k (⟨name, ty⟩ :: acc)

/-- Runs a reading on a token sequence; a stop that reports nothing more ends it with what was
read so far given by `fallback`. -/
def runReading {α : Type} (tokens : List Token) (p : Parse α) (fallback : α) : Reading α :=
  let (res, c) := (p.run).run (Cursor.start tokens)
  match res with
  | .ok v => ⟨v, c.errors.reverse, false, c.stashed.reverse⟩
  | .error e =>
    ⟨fallback, (if e.silent then c.errors else e :: c.errors).reverse, true, c.stashed.reverse⟩

def readStructBody (tokens : List Token) : Reading (List FieldDef) :=
  let n := fuelFor tokens
  let r := runReading tokens (do
      expect lbrace
      let (fields, failed) ← parseFieldDefs n n []
      return (fields, failed)) ([], false)
  { r with value := r.value.1, typeFailed := r.typeFailed || r.value.2 }

def Param.isDummy : Param → Bool
  | .mk _ _ (some .err) _ => true
  | _ => false

def readParams (tokens : List Token) : Reading (List Param) :=
  let n := fuelFor tokens
  let r := runReading tokens (parseFnParams n true) []
  { r with typeFailed := r.typeFailed || r.value.any Param.isDummy }

end LoxFront.Code
