import LoxFront.Code.Cursor
/-!
What the grammar of generated code is built from: the operators and their precedence, the
classes of tokens it tests, lookahead checks for front matter and bounds, and the skips that
recovery uses (a whole token tree, up to a closing token, a comma-separated sequence).
-/
namespace LoxFront.Code

open LoxFront.Schema (Span Delimiter)
open Parse

/-- What a path is read as: an expression, a pattern, a type, or a module path. In expressions
and patterns generic arguments need `::` before them. -/
inductive PathStyle where
  | expr
  | pat
  | type
  | mod
  deriving DecidableEq

/-- How a type is read: whether `+` may join bounds, whether `...` may stand, whether
`Type::Item` without angle brackets and a trailing `?` are recovered from, and which tokens are
taken for `->` before a return type (none, `=>`, or `=>` and `:`). -/
structure TyMode where
  allowPlus : Bool := true
  allowCVariadic : Bool := false
  recoverQPath : Bool := true
  recoverQuestion : Bool := true
  recoverReturnSign : Nat := 2

inductive AssocOp where
  | binary (op : BinOp)
  | assign
  | assignOp (op : BinOp)
  | range (limits : RangeLimits)
  | cast
  deriving DecidableEq

/-- Binding strengths, weakest first: jumps and closures, assignment, ranges, `||`, `&&`,
comparisons, `|`, `^`, `&`, shifts, sums, products, casts, prefix operators, and the rest. -/
def Prec.jump : Nat := 0
def Prec.assign : Nat := 1
def Prec.range : Nat := 2
def Prec.lOr : Nat := 3
def Prec.lAnd : Nat := 4
def Prec.compare : Nat := 5
def Prec.bitOr : Nat := 6
def Prec.bitXor : Nat := 7
def Prec.bitAnd : Nat := 8
def Prec.shift : Nat := 9
def Prec.sum : Nat := 10
def Prec.product : Nat := 11
def Prec.cast : Nat := 12
def Prec.prefixOp : Nat := 13
def Prec.unambiguous : Nat := 14

def BinOp.prec : BinOp → Nat
  | .mul | .div | .rem => Prec.product
  | .add | .sub => Prec.sum
  | .shl | .shr => Prec.shift
  | .bitAnd => Prec.bitAnd
  | .bitXor => Prec.bitXor
  | .bitOr => Prec.bitOr
  | .eq | .lt | .le | .ne | .ge | .gt => Prec.compare
  | .and => Prec.lAnd
  | .or => Prec.lOr

def BinOp.isComparison : BinOp → Bool
  | .eq | .lt | .le | .ne | .ge | .gt => true
  | _ => false

def BinOp.text : BinOp → String
  | .add => "+" | .sub => "-" | .mul => "*" | .div => "/" | .rem => "%"
  | .and => "&&" | .or => "||" | .bitXor => "^" | .bitAnd => "&" | .bitOr => "|"
  | .shl => "<<" | .shr => ">>" | .eq => "==" | .lt => "<" | .le => "<=" | .ne => "!="
  | .ge => ">=" | .gt => ">"

def AssocOp.prec : AssocOp → Nat
  | .binary op => op.prec
  | .assign | .assignOp _ => Prec.assign
  | .range _ => Prec.range
  | .cast => Prec.cast

/-- The operator a token stands for between two operands, if any. `<-` reads as `<`. -/
def AssocOp.ofKind : Kind → Option AssocOp
  | .op "=" => some .assign
  | .op "+" => some (.binary .add)
  | .op "-" => some (.binary .sub)
  | .op "*" => some (.binary .mul)
  | .op "/" => some (.binary .div)
  | .op "%" => some (.binary .rem)
  | .op "^" => some (.binary .bitXor)
  | .op "&" => some (.binary .bitAnd)
  | .op "|" => some (.binary .bitOr)
  | .op "<<" => some (.binary .shl)
  | .op ">>" => some (.binary .shr)
  | .op "+=" => some (.assignOp .add)
  | .op "-=" => some (.assignOp .sub)
  | .op "*=" => some (.assignOp .mul)
  | .op "/=" => some (.assignOp .div)
  | .op "%=" => some (.assignOp .rem)
  | .op "^=" => some (.assignOp .bitXor)
  | .op "&=" => some (.assignOp .bitAnd)
  | .op "|=" => some (.assignOp .bitOr)
  | .op "<<=" => some (.assignOp .shl)
  | .op ">>=" => some (.assignOp .shr)
  | .op "<" => some (.binary .lt)
  | .op "<=" => some (.binary .le)
  | .op ">=" => some (.binary .ge)
  | .op ">" => some (.binary .gt)
  | .op "==" => some (.binary .eq)
  | .op "!=" => some (.binary .ne)
  | .op "&&" => some (.binary .and)
  | .op "||" => some (.binary .or)
  | .op ".." => some (.range .halfOpen)
  | .op "..=" => some (.range .closed)
  | .op "..." => some (.range .closed)
  | .op "<-" => some (.binary .lt)
  | .ident "as" false => some .cast
  | _ => none

def lparen : Kind := .opening .paren
def rparen : Kind := .closing .paren
def lbracket : Kind := .opening .bracket
def rbracket : Kind := .closing .bracket
def lbrace : Kind := .opening .brace
def rbrace : Kind := .closing .brace

def Kind.isCloseOrEof : Kind → Bool
  | .closing _ | .eof => true
  | _ => false

/-- Tokens a separator is often mistaken for, skipped when it is missing. -/
def similarTokens : Kind → List Kind
  | .op "," => [.op ".", .op "<", .op ";"]
  | .op ";" => [.op ":", .op ","]
  | .op ":" => [.op ";"]
  | _ => []

def Kind.isMutability (k : Kind) : Bool := k.isKeyword "mut" || k.isKeyword "const"

def Kind.canBeginStringLiteral : Kind → Bool
  | .literal t => t.startsWith "\"" || t.startsWith "r\"" || t.startsWith "r#"
  | .op "-" => true
  | _ => false

def Kind.isNumericLit : Kind → Bool
  | .literal t => match t.toList with
    | c :: _ => c.isDigit
    | [] => false
  | _ => false

def errExpr (span : Span) : Expr := .mk [] .err span

/-- Reports that the reading ran out of fuel; no input that fits in memory reaches it. -/
def outOfFuel {α : Type} : Parse α := do fail "nesting too deep" (← token).span

def fnQualifiers : List String := ["gen", "const", "async", "unsafe", "safe", "extern"]

/-- Whether the tokens ahead start a function: `fn`, or two of the qualifiers `quals` (or one
and `fn`), or `extern "abi" fn`. The qualifiers looked at are recorded as looked for. -/
def checkFnFrontMatterWith (quals : List String) : Parse Bool := do
  if ← checkKw "fn" then return true
  let mut anyQual := false
  for q in quals do
    if !anyQual then
      if ← checkKw q then anyQual := true
  if anyQual then
    let unsafeExtern ← do
      if (← kind).isKeyword "unsafe" then
        if ← lookAhead 1 (·.isKeyword "extern") then
          let skip := if ← lookAhead 2 Kind.canBeginStringLiteral then 1 else 0
          lookAhead (2 + skip) (· == lbrace)
        else pure false
      else pure false
    let asyncGen ← do
      if (← kind).isKeyword "async" then
        if ← lookAhead 1 (·.isKeyword "gen") then pure true else pure false
      else pure false
    let next ← lookAhead 1 fun t =>
      t.isKeyword "fn" ||
        (quals.any (t.isKeyword ·) && t.isReservedIdent && !unsafeExtern && !asyncGen)
    if next then return true
  if ← checkKw "extern" then
    if ← lookAhead 1 Kind.canBeginStringLiteral then
      if ← lookAhead 2 (·.isKeyword "fn") then return true
      let qual ← lookAhead 2 fun t => (["pub", "gen", "const", "async", "unsafe", "safe",
        "extern"].any (t.isKeyword ·))
      if qual then
        if ← lookAhead 3 (·.isKeyword "fn") then return true
  return false

def checkFnFrontMatter : Parse Bool := checkFnFrontMatterWith fnQualifiers

def checkItemFnFrontMatter : Parse Bool := checkFnFrontMatterWith ("pub" :: fnQualifiers)

def checkInlineConst (n : Nat) : Parse Bool := do
  if ← lookAhead n (·.isKeyword "const") then lookAhead (n + 1) (· == lbrace) else return false

def checkConstClosure : Parse Bool := do
  if (← kind).isKeyword "const" then
    lookAhead 1 fun t => t.isKeyword "move" || t.isKeyword "use" || t.isKeyword "static" ||
      t == .op "||" || t == .op "|"
  else return false

def isGenBlock (kw : String) (n : Nat) : Parse Bool := do
  if !(← lookAhead n (·.isKeyword kw)) then return false
  if ← lookAhead (n + 1) (fun t => t.isKeyword "move" || t.isKeyword "use") then
    lookAhead (n + 2) (· == lbrace)
  else lookAhead (n + 1) (· == lbrace)

def canBeginBound : Parse Bool := do
  if ← checkPath then return true
  if ← checkLifetime then return true
  if ← checkOp "!" then return true
  if ← checkOp "?" then return true
  if ← checkOp "~" then return true
  if ← checkKw "for" then return true
  if ← check lparen then return true
  if ← check lbracket then
    if ← lookAhead 1 (·.isKeyword "const") then
      if ← lookAhead 2 (· == rbracket) then return true
  if ← checkKw "const" then return true
  if ← checkKw "async" then return true
  checkKw "use"

def canBeginMaybeConstBound : Parse Bool := do
  if ← check lbracket then
    if ← lookAhead 1 (·.isKeyword "const") then lookAhead 2 (· == rbracket) else return false
  else return false

def parseMutability : Parse Bool := eatKw "mut"

def parseBoundConstness : Parse Constness := do
  if ← eatOp "~" then
    let tilde := (← prev).span
    expectKw "const"
    return .maybe tilde
  if ← canBeginMaybeConstBound then
    let start := (← token).span
    bump
    bump
    bump
    return .maybe start
  if ← eatKw "const" then return .always
  return .never

def eatLabel : Parse (Option Ident) := do
  let t ← token
  match t.kind with
  | .lifetime name raw => bump; return some ⟨name, raw, t.span⟩
  | _ => return none

def parseCaptureClause : Parse Bool := do
  if ← eatKw "move" then return true
  let _ ← eatKw "use"
  return false

def skipTree (fuel : Nat) : Parse (List Token) := do
  let t ← token
  match t.kind with
  | .opening _ =>
    let rec go : Nat → Nat → List Token → Parse (List Token)
      | 0, _, acc => return acc.reverse
      | n + 1, depth, acc => do
        let u ← token
        match u.kind with
        | .eof => return acc.reverse
        | .opening _ => bump; go n (depth + 1) (u :: acc)
        | .closing _ =>
          bump
          if depth == 1 then return (u :: acc).reverse else go n (depth - 1) (u :: acc)
        | _ => bump; go n depth (u :: acc)
    go fuel 0 []
  | .eof => return []
  | _ => bump; return [t]

def eatToTokens (closes : List Kind) (fuel : Nat) : Parse Unit := do
  let rec go : Nat → Parse Unit
    | 0 => pure ()
    | n + 1 => do
      let mut hit := false
      for k in closes do
        if !hit then
          if ← check k then hit := true
      if hit then return
      if (← kind).isCloseOrEof then return
      let _ ← skipTree fuel
      go n
  go fuel

/-- Skips tokens to the end of a statement: to a `;` (read) when `breakOnSemi`, to a `,` when
`breakOnComma`, or to the `}` that closes the enclosing block (not read). -/
def recoverStmt (breakOnSemi breakOnComma : Bool) (fuel : Nat) : Parse Unit := do
  let rec go : Nat → Nat → Nat → Parse Unit
    | 0, _, _ => pure ()
    | n + 1, braces, brackets => do
      match ← kind with
      | .opening .brace => bump; go n (braces + 1) brackets
      | .opening .bracket => bump; go n braces (brackets + 1)
      | .closing .brace =>
        if braces == 0 then return
        bump
        go n (braces - 1) brackets
      | .closing .bracket => bump; go n braces (brackets - 1)
      | .eof => return
      | .op ";" =>
        bump
        if breakOnSemi && braces == 0 && brackets == 0 then return
        go n braces brackets
      | .op "," =>
        if breakOnComma && braces == 0 && brackets == 0 then return
        bump
        go n braces brackets
      | _ => bump; go n braces brackets
  go fuel 0 0

/-- Reads a sequence of elements separated by commas, up to `close` (or one of `quiet`, which
is not recorded as looked for), with a trailing comma allowed. A missing comma is reported and the
next element read anyway; if that fails too, the sequence ends, and when `close` is `)` or the
token is `:`, the missing comma fails the sequence. Gives the elements and whether a trailing
comma ended them. -/
def commaSeq {α : Type} (elem : Parse α) (close : Kind) (quiet : List Kind) (fuel : Nat) :
    Parse (List α × Bool) := do
  let rec go : Nat → Bool → List α → Parse (List α × Bool)
    | 0, _, acc => return (acc.reverse, false)
    | n + 1, first, acc => do
      if ← check close then return (acc.reverse, false)
      if quiet.contains (← kind) then return (acc.reverse, false)
      if (← kind).isCloseOrEof then return (acc.reverse, false)
      if first then
        let v ← elem
        go n false (v :: acc)
      else
        match ← attempt (expect (.op ",")) with
        | .ok () =>
          if ← check close then return (acc.reverse, true)
          if quiet.contains (← kind) then return (acc.reverse, true)
          let v ← elem
          go n false (v :: acc)
        | .error missing =>
          if (similarTokens (.op ",")).contains (← kind) then bump
          modify fun c => { c with lastUnexpected := none }
          match ← attempt elem with
          | .ok v =>
            emitDiag missing
            go n false (v :: acc)
          | .error _ =>
            if (← kind) == .op ":" || close == rparen then throw missing
            emitDiag missing
            return (acc.reverse, false)
  go fuel true []

def parenSeq {α : Type} (elem : Parse α) (fuel : Nat) : Parse (List α × Bool) := do
  expect lparen
  let r ← commaSeq elem rparen [] fuel
  let _ ← eat rparen
  return r

def parseSafety : Parse (Option String) := do
  if ← eatKw "unsafe" then return some "unsafe"
  if ← eatKw "safe" then return some "safe"
  return none

def parseExternAbi : Parse (Option (Option String)) := do
  if !(← eatKw "extern") then return none
  let t ← token
  match t.kind with
  | .literal text =>
    bump
    if text.startsWith "\"" || text.startsWith "r\"" || text.startsWith "r#" then
      return some (some text)
    emit "non-string ABI literal" t.span
    return some none
  | .ident "true" false | .ident "false" false =>
    bump
    emit "non-string ABI literal" t.span
    return some none
  | _ => return some none

structure BoundModifiers where
  constness : Constness := .never
  constSpan : Span := .call
  asyncSpan : Option Span := none
  polarity : Polarity := .positive
  polaritySpan : Span := .call

def Constness.text : Constness → String
  | .never => ""
  | .always => "const"
  | .maybe _ => "[const]"

def Polarity.text : Polarity → String
  | .positive => ""
  | .maybe => "?"
  | .negative => "!"

/-- Reads the modifiers of a trait bound: constness, `async`, and `?` or `!`. Polarity does not
combine with the others. -/
def parseTraitBoundModifiers : Parse BoundModifiers := do
  let constSpan := (← token).span
  let constness ← parseBoundConstness
  let asyncSpan ← do
    if ← eatKw "async" then pure (some (← prev).span) else pure none
  let mut polarity := Polarity.positive
  let mut polaritySpan := Span.call
  if ← eatOp "?" then
    polarity := .maybe
    polaritySpan := (← prev).span
  else if ← eatOp "!" then
    polarity := .negative
    polaritySpan := (← prev).span
  if polarity != .positive then
    let hasConst := match constness with
      | .never => false
      | _ => true
    if hasConst || asyncSpan.isSome then
      let asyncText := if asyncSpan.isSome then "async" else ""
      let glue := if hasConst && asyncSpan.isSome then " " else ""
      emit ("`" ++ polarity.text ++ "` trait not allowed with `" ++ constness.text ++ glue ++
        asyncText ++ "` trait bound modifiers") polaritySpan
  return { constness, constSpan, asyncSpan, polarity, polaritySpan }

def parseLtParamBounds : Nat → List Ident → Parse (List Ident)
  | 0, acc => return acc.reverse
  | n + 1, acc => do
    if ← checkLifetime then
      let lt ← expectLifetime
      if ← eatPlus then return ← parseLtParamBounds n (lt :: acc)
      else return (lt :: acc).reverse
    return acc.reverse

def parseDelimArgs (fuel : Nat) : Parse (List Token) := do
  if ← check lparen then return ← skipTree fuel
  if ← check lbracket then return ← skipTree fuel
  if ← check lbrace then return ← skipTree fuel
  unexpected

/-- Skips tokens while `weight` keeps a running count above zero, as when looking for the end of
what might be generic arguments. -/
def consumeTts (weight : Kind → Int) : Nat → Int → Parse Unit
  | 0, _ => pure ()
  | n + 1, acc => do
    if acc <= 0 then return
    let k ← kind
    let acc := acc + weight k
    if k == .eof then return
    bump
    consumeTts weight n acc

def Kind.endsConstArg (k : Kind) : Bool :=
  k == .op ">" || k == .op ">=" || k == .op ">>" || k == .op ">>="

def Kind.isRangeSeparator (k : Kind) : Bool :=
  k == .op ".." || k == .op "..." || k == .op "..="

def Kind.canBeginPattern : Kind → Bool
  | .ident .. | .opening .paren | .opening .bracket | .literal _ => true
  | .op o => ["&", "-", "&&", "..", "...", "::", "<", "<<"].contains o
  | _ => false

def Expr.isBlockLike (e : Expr) : Bool :=
  match e.kind with
  | .ifExpr .. | .matchExpr .. | .block .. | .unsafeBlock _ | .whileExpr .. | .loopExpr ..
  | .forLoop .. | .tryBlock _ | .constBlock _ => true
  | _ => false

def Expr.isValidConstArg (e : Expr) : Bool :=
  match e.kind with
  | .block .. | .unsafeBlock _ | .lit _ => true
  | .unary .neg inner => match inner.kind with
    | .lit _ => true
    | _ => false
  | .path none p => match p.segments with
    | [seg] => seg.args.isNone && !p.global
    | _ => false
  | _ => false

def Path.plainText (p : Path) : String :=
  (if p.global then "::" else "") ++ "::".intercalate (p.segments.map (·.ident.text))

def couldBeUnclosedChar (name : String) : Bool := name.length == 1

inductive OrSeparator where
  | ate
  | trailing
  | none

/-- Reads the `|` between alternatives of a pattern; a `|` before `=>`, `if`, `=`, `:`, `;`,
`,` or a closing delimiter is reported as trailing. -/
def eatOrSeparator : Parse OrSeparator := do
  let k ← kind
  let endAhead ← lookAhead 1 fun t =>
    t == .op "=>" || t.isKeyword "if" || t == .op "=" || t == .op ";" || t == .op ":" ||
      t == .op "," || t == rbracket || t == rparen || t == rbrace
  if endAhead && (k == .op "|" || k == .op "||") then
    emit ("a trailing `" ++ k.text ++ "` is not allowed in an or-pattern") (← token).span
    bump
    return .trailing
  if k == .op "||" then
    emit "unexpected token `||` in pattern" (← token).span
    bump
    return .ate
  if ← eatOp "|" then return .ate
  return .none

def isPatRangeEndStart : Nat → Nat → Parse Bool
  | 0, _ => return false
  | fuel + 1, dist => do
    if ← checkInlineConst dist then return true
    let simple ← lookAhead dist fun t =>
      t.isPathStart || t == .op "." || t.isLiteral || t == .op "-" || t.isLifetime
    if simple then return true
    if ← lookAhead dist (· == lparen) then
      if ← lookAhead (dist + 1) (· != lparen) then
        return ← isPatRangeEndStart fuel (dist + 1)
    return false

def parseRangeEnd : Parse (Option PatRangeEnd) := do
  if ← eatOp "..." then return some .includedDots
  if ← eatOp "..=" then return some .included
  if ← eatOp ".." then return some .excluded
  return none

def chooseGenericsOverQPath (start : Nat) : Parse Bool := do
  if !(← lookAhead start (· == .op "<")) then return false
  if ← lookAhead (start + 1) (fun t => t == .op "#" || t == .op ">") then return true
  if ← lookAhead (start + 1) (fun t => t.isLifetime || t.isIdent) then
    if ← lookAhead (start + 2) (fun t =>
        t == .op ">" || t == .op "," || t == .op ":" || t == .op "=" || t == .op "?") then
      return true
  lookAhead (start + 1) (·.isKeyword "const")

end LoxFront.Code
