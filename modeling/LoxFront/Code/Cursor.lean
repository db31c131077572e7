import LoxFront.Code.Syntax
/-!
The state of a parse of generated code: the current token and those after it, the token before
it, the tokens that were looked for at the current position and did not come (from which an
error names what it expected), the errors reported so far, and the restrictions on expressions in
force.

A parse step either succeeds, possibly after reporting an error and recovering, or fails with an
error that its caller may report, recover from, or pass on. Errors reported before a failure stay
reported, as do those reported in an attempt that was undone by going back to an earlier state.
-/
namespace LoxFront.Code

open LoxFront.Schema (Span)

/-- An error: its message and where it points. `silent` marks the stop the compiler makes when it
would report a second error at the token of the last one: nothing more is reported. -/
structure Diag where
  message : String
  span : Span
  silent : Bool := false

structure Restrictions where
  stmtExpr : Bool := false
  noStructLiteral : Bool := false
  constExpr : Bool := false
  allowLet : Bool := false
  inIfGuard : Bool := false
  isPat : Bool := false

/-- The state of a parse. -/
structure Cursor where
  token : Token
  rest : List Token
  prev : Token
  expected : List String := []
  errors : List Diag := []
  stashed : List Diag := []
  restrictions : Restrictions := {}
  lastUnexpected : Option Span := none
  unmatchedAngles : Nat := 0

abbrev Parse := ExceptT Diag (StateM Cursor)

def eofAfter (t : Token) : Token := { kind := .eof, span := t.span }

def Cursor.start (tokens : List Token) : Cursor :=
  let none : Token := { kind := .eof, span := .call }
  match tokens with
  | t :: rest => { token := t, rest := rest, prev := none }
  | [] => { token := none, rest := [], prev := none }

namespace Parse

def token : Parse Token := return (← get).token

def kind : Parse Kind := return (← get).token.kind

def prev : Parse Token := return (← get).prev

def bump : Parse Unit :=
  modify fun c => match c.rest with
    | t :: more => { c with prev := c.token, token := t, rest := more, expected := [] }
    | [] => { c with prev := c.token, token := eofAfter c.token, rest := [], expected := [] }

def lookAhead (n : Nat) (test : Kind → Bool) : Parse Bool := do
  let c ← get
  if n == 0 then return test c.token.kind
  match c.rest.drop (n - 1) with
  | t :: _ => return test t.kind
  | [] => return test .eof

def tokenAhead (n : Nat) : Parse Token := do
  let c ← get
  if n == 0 then return c.token
  match c.rest.drop (n - 1) with
  | t :: _ => return t
  | [] => return eofAfter (c.rest.getLast?.getD c.token)

def addExpected (what : String) : Parse Unit :=
  modify fun c => if c.expected.contains what then c else { c with expected := c.expected ++ [what] }

def quoted (k : Kind) : String := "`" ++ k.text ++ "`"

def check (k : Kind) : Parse Bool := do
  if (← kind) == k then return true
  addExpected (quoted k)
  return false

def checkOp (o : String) : Parse Bool := check (.op o)

def checkKw (kw : String) : Parse Bool := do
  if (← kind).isKeyword kw then return true
  addExpected ("`" ++ kw ++ "`")
  return false

def checkOr (holds : Bool) (what : String) : Parse Bool := do
  if holds then return true
  addExpected what
  return false

def eat (k : Kind) : Parse Bool := do
  if ← check k then bump; return true
  return false

def eatOp (o : String) : Parse Bool := eat (.op o)

def eatKw (kw : String) : Parse Bool := do
  if ← checkKw kw then bump; return true
  return false

def eatQuiet (k : Kind) : Parse Bool := do
  if (← kind) == k then bump; return true
  return false

def emit (message : String) (span : Span) : Parse Unit :=
  modify fun c => { c with errors := ⟨message, span, false⟩ :: c.errors }

def stash (message : String) (span : Span) : Parse Unit :=
  modify fun c => { c with stashed := ⟨message, span, false⟩ :: c.stashed }

def emitDiag (d : Diag) : Parse Unit :=
  if d.silent then pure () else modify fun c => { c with errors := d :: c.errors }

def fail {α : Type} (message : String) (span : Span) : Parse α := throw ⟨message, span, false⟩

def snapshot : Parse Cursor := get

/-- Goes back to an earlier state; the errors reported since stay reported. -/
def restore (s : Cursor) : Parse Unit :=
  modify fun c => { s with errors := c.errors, stashed := c.stashed }

def withRes {α : Type} (r : Restrictions) (p : Parse α) : Parse α := do
  let old := (← get).restrictions
  modify fun c => { c with restrictions := r }
  try
    let v ← p
    modify fun c => { c with restrictions := old }
    return v
  catch e =>
    modify fun c => { c with restrictions := old }
    throw e

def restrictions : Parse Restrictions := return (← get).restrictions

/-- Runs a step and gives its failure as a value, keeping the state it left. A silent stop is not
a failure that can be recovered from: it passes through. -/
def attempt {α : Type} (p : Parse α) : Parse (Except Diag α) := do
  try
    let v ← p
    return .ok v
  catch e =>
    if e.silent then throw e
    return .error e

/-- Joins the names of looked-for tokens the way errors list them: `a`, `a or b`, `a, b, or c`. -/
def listNames (names : List String) : String :=
  match names with
  | [] => ""
  | [a] => a
  | [a, b] => a ++ " or " ++ b
  | _ =>
    let n := names.length
    (names.zipIdx.foldl (fun acc (name, i) =>
      if i == 0 then name
      else if i == n - 1 then acc ++ ", or " ++ name
      else acc ++ ", " ++ name) "")

def insertSorted (name : String) : List String → List String
  | [] => [name]
  | x :: xs => if name < x then name :: x :: xs else x :: insertSorted name xs

/-- The error when none of the tokens looked for came: it names them all, sorted, and the token
found. -/
def notFound {α : Type} (edible inedible : List Kind) : Parse α := do
  for k in edible ++ inedible do addExpected (quoted k)
  let c ← get
  let here := quoted c.token.kind
  let names := c.expected.foldl
    (fun acc n => if acc.contains n || n == here then acc else insertSorted n acc) []
  let found := c.token.kind.describe
  if c.token.kind == .op "==" && c.prev.kind.isIdent && names.contains "`=`" then
    fail "unexpected `==`" c.token.span
  else
    modify fun c => { c with lastUnexpected := some c.token.span }
    match names with
    | [] => fail ("unexpected token: " ++ found) c.token.span
    | [one] => fail ("expected " ++ one ++ ", found " ++ found) c.token.span
    | _ => fail ("expected one of " ++ listNames names ++ ", found " ++ found) c.token.span

/-- Reads one of the `edible` tokens, or leaves one of the `inedible` ones; else fails, naming
what was looked for. -/
def expectOneOf (edible inedible : List Kind) : Parse Unit := do
  let c ← get
  if edible.contains c.token.kind then bump
  else if inedible.contains c.token.kind then pure ()
  else if c.token.kind != .eof && c.lastUnexpected == some c.token.span then
    throw ⟨"", c.token.span, true⟩
  else notFound edible inedible

def unexpected {α : Type} : Parse α := do
  expectOneOf [] []
  fail "unexpected token" (← token).span

def expect (k : Kind) : Parse Unit := do
  let c ← get
  if c.expected.isEmpty then
    if c.token.kind == k then bump
    else fail ("expected " ++ quoted k ++ ", found " ++ c.token.kind.describe) c.token.span
  else expectOneOf [k] []

def expectKw (kw : String) : Parse Unit := do
  if ← eatKw kw then pure () else unexpected

/-- Reads the operator `o`, splitting a glued operator that starts with it; else records `o` as
looked for. -/
def breakAndEat (o : String) : Parse Bool := do
  let c ← get
  if c.token.kind == .op o then bump; return true
  match c.token.kind.breakTwo with
  | some (first, second) =>
    if first == o then
      let secondToken : Token :=
        { kind := .op second, span := c.token.span.after first.length, joint := c.token.joint }
      set { c with prev := { c.token with kind := .op first }, token := secondToken,
                   expected := [] }
      return true
    else
      addExpected (quoted (.op o))
      return false
  | none =>
    addExpected (quoted (.op o))
    return false

/-- Reads `<`, splitting `<<` or `<=`; it counts as an angle bracket not yet matched. -/
def eatLt : Parse Bool := do
  if ← breakAndEat "<" then
    modify fun c => { c with unmatchedAngles := c.unmatchedAngles + 1 }
    return true
  return false

def expectGt : Parse Unit := do
  if ← breakAndEat ">" then
    modify fun c => { c with unmatchedAngles := c.unmatchedAngles - 1 }
  else unexpected

def expectAnd : Parse Unit := do
  if ← breakAndEat "&" then pure () else unexpected

def expectOr : Parse Unit := do
  if ← breakAndEat "|" then pure () else unexpected

def eatPlus : Parse Bool := breakAndEat "+"

def checkPlus : Parse Bool := do checkOr (← kind).isLikePlus "`+`"

def checkPath : Parse Bool := do checkOr (← kind).isPathStart "path"

def checkLifetime : Parse Bool := do checkOr (← kind).isLifetime "lifetime"

def checkIdent : Parse Bool := do checkOr (← kind).isIdent "identifier"

def checkType : Parse Bool := do checkOr (← kind).canBeginType "type"

def checkConstArg : Parse Bool := do
  let k ← kind
  let holds := match k with
    | .opening .brace | .literal _ | .op "-" => true
    | .ident name false => name == "true" || name == "false"
    | _ => false
  checkOr holds "a const expression"

def expectLifetime : Parse Ident := do
  let t ← token
  match t.kind with
  | .lifetime name raw => bump; return ⟨name, raw, t.span⟩
  | _ => fail "expected lifetime" t.span

def expectedIdentFound (t : Token) : Diag :=
  ⟨"expected identifier, found " ++ t.kind.describe, t.span, false⟩

/-- Reads an identifier. A reserved word is reported and, if `recover`, taken as the identifier;
so is a stray `,` before an identifier; any other token that is no word fails. -/
def parseIdentCommon (recover : Bool) : Parse Ident := do
  let t ← token
  let word ← do
    match t.kind with
    | .ident name raw => pure (some (name, raw))
    | .op "," =>
      if recover && (← lookAhead 1 Kind.isIdent) then
        bump
        match (← token).kind with
        | .ident name raw =>
          emitDiag (expectedIdentFound t)
          pure (some (name, raw))
        | _ => pure none
      else pure none
    | _ => pure none
  match word with
  | none => throw (expectedIdentFound t)
  | some (name, raw) =>
    let u ← token
    if u.kind.isReservedIdent then
      if recover then emitDiag (expectedIdentFound u) else throw (expectedIdentFound u)
    bump
    return ⟨name, raw, u.span⟩

def parseIdent : Parse Ident := parseIdentCommon true

def consumeBlock (opening close : Kind) (consumeClose : Bool) (fuel : Nat) : Parse Unit := do
  let rec go : Nat → Nat → Parse Unit
    | 0, _ => pure ()
    | n + 1, depth => do
      if ← eat opening then go n (depth + 1)
      else if ← check close then
        if depth == 0 then
          if consumeClose then bump
        else
          bump
          go n (depth - 1)
      else if (← kind) == .eof then pure ()
      else
        bump
        go n depth
  go fuel 0

end Parse

end LoxFront.Code
