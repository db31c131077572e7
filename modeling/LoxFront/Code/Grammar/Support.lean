import LoxFront.Code.Grammar.Basic
/-!
Queries on the trees the grammar builds, and the small readers its recoveries use: whether an
expression is complete or ends in a block, how operators associate, checks on ranges and casts,
where `let` may not stand in a condition, and the front matter of items.
-/
namespace LoxFront.Code

open LoxFront.Schema (Span Delimiter)
open Parse
def consumedBetween (before after : Cursor) : List Token :=
  let all := before.token :: before.rest
  let remaining := (after.token :: after.rest).length
  all.take (all.length - remaining)

def errorOf {α : Type} (p : Parse α) : Parse Diag := do
  match ← attempt p with
  | .error e => return e
  | .ok _ => return ⟨"unexpected token", (← token).span, false⟩

def Ty.peelRefs : Ty → Ty
  | .ref _ _ t _ => t.peelRefs
  | .ptr _ t => t.peelRefs
  | t => t

/-- Whether a type is a slice or an array whose element is an error: a type read with
recovery that was likely an expression. -/
def Ty.hasErrElement : Ty → Bool
  | .slice .err | .array .err _ => true
  | _ => false

/-- For an argument that may begin a constraint `Name = ...` or `Name: ...`: whether it came
with a binder, and its name and arguments. -/
def GenericArg.constraintHead : GenericArg → Option (Bool × Ident × Option GenericArgs)
  | .type (.path none p) => match p.segments with
    | [s] => some (false, s.ident, s.args)
    | _ => none
  | .type (.traitObject false [.trait _ .never false .positive p _ _]) => match p.segments with
    | [s] => some (true, s.ident, s.args)
    | _ => none
  | _ => none

def Expr.isPath (e : Expr) : Bool :=
  match e.kind with
  | .path .. => true
  | _ => false

def Param.withAttrs (attrs : List (List Token)) : Param → Param
  | .mk _ p t sp => .mk attrs p t sp
  | .selfParam _ k sp => .selfParam attrs k sp

def isNamedParam : Parse Bool := do
  let k ← kind
  let offset := if k == .op "&" || k == .op "&&" || k.isKeyword "mut" then 1 else 0
  if ← lookAhead offset Kind.isIdent then lookAhead (offset + 1) (· == .op ":")
  else return false

def parsePathSegmentIdent : Parse Ident := do
  let t ← token
  match t.kind with
  | .ident name false =>
    if pathSegmentKeywords.contains name then
      bump
      return ⟨name, false, t.span⟩
    parseIdent
  | _ => parseIdent

def adjacent (a b : Token) : Bool :=
  match a.span, b.span with
  | .at i, .at j => j == i + a.kind.text.length
  | _, _ => false

def Expr.requiresSemi (e : Expr) : Bool := !e.isBlockLike

inductive PatExpected where
  | pattern
  | parameterName
  | argumentName
  | identifier
  | bindingPattern
  deriving DecidableEq

def PatExpected.text : PatExpected → String
  | .pattern => "pattern"
  | .parameterName => "parameter name"
  | .argumentName => "argument name"
  | .identifier => "identifier"
  | .bindingPattern => "binding pattern"

def dummyParam (span : Span) : Param :=
  .mk [] (some (.ident none false ⟨"dummy", false, span⟩ none)) (some .err) span

/-- Replaces the name of a second parameter that stands for a failure of the same name by `_`. -/
def dedupRecoveredParams (ps : List Param) : List Param :=
  let step := fun (acc : List String × List Param) (p : Param) =>
    match p with
    | .mk attrs (some (.ident none false name none)) (some .err) sp =>
      if acc.1.contains name.name then (acc.1, .mk attrs (some .wild) (some .err) sp :: acc.2)
      else (name.name :: acc.1, p :: acc.2)
    | _ => (acc.1, p :: acc.2)
  (ps.foldl step ([], [])).2.reverse

def Expr.prec (e : Expr) : Nat :=
  let attrPrec := if e.attrs.isEmpty then Prec.unambiguous else Prec.prefixOp
  match e.kind with
  | .closure _ _ _ _ _ _ output _ => if output.isNone then Prec.jump else attrPrec
  | .breakExpr _ v | .ret v | .yieldExpr v => if v.isSome then Prec.jump else attrPrec
  | .range .. => Prec.range
  | .binary op _ _ _ => op.prec
  | .cast .. => Prec.cast
  | .assign .. | .assignOp .. => Prec.assign
  | .addrOf .. | .letExpr .. | .unary .. | .boxExpr _ => Prec.prefixOp
  | _ => attrPrec

def AssocOp.continuesUnambiguously : AssocOp → Bool
  | .binary .bitXor | .assign | .binary .div | .binary .rem | .binary .shr | .binary .le
  | .binary .gt | .binary .ge | .assignOp _ | .cast => true
  | _ => false

def AssocOp.rightAssoc : AssocOp → Bool
  | .assign | .assignOp _ => true
  | _ => false

/-- The expression a type would be read as, when one that reads as a type is followed by `::`:
paths, parenthesized and tuple types, one-element arrays, `_`. -/
def Expr.asTy : Nat → Expr → Option Ty
  | 0, _ => none
  | n + 1, e => match e.kind with
    | .path q p => some (.path q p)
    | .paren inner => (Expr.asTy n inner).map (.paren · e.span)
    | .addrOf false m inner => (Expr.asTy n inner).map fun t => .ref none m t e.span
    | .tuple es => (es.mapM (Expr.asTy n))
      |>.map .tuple
    | .array [inner] => (Expr.asTy n inner).map .slice
    | .repeat inner count => (Expr.asTy n inner).map fun t => .array t count
    | .underscore => some .infer
    | _ => none

def exprIsComplete (e : Expr) : Parse Bool := do
  return (← restrictions).stmtExpr && e.isBlockLike

/-- Whether an operator may continue the expression read so far. After a block-like expression
that ends a statement, only an operator that cannot begin an expression continues it, and it is
reported. -/
def shouldContinueAssoc (lhs : Expr) : Parse Bool := do
  if !(← exprIsComplete lhs) then return true
  let t ← token
  match AssocOp.ofKind t.kind with
  | some op =>
    if op.continuesUnambiguously then
      emit ("expected expression, found `" ++ t.kind.text ++ "`") t.span
      return true
    return false
  | none => return false

/-- The operator at the current token, if it may continue an expression under the current
restrictions: constant arguments stop at `>`, patterns at `=`, `|` and ranges. `and` and `or` are
reported and read as `&&` and `||`. -/
def checkAssocOp : Parse (Option (AssocOp × Span)) := do
  let t ← token
  let r ← restrictions
  match AssocOp.ofKind t.kind with
  | some op =>
    if r.constExpr then
      match op with
      | .binary .shr | .binary .gt | .binary .ge | .assignOp .shr => return none
      | _ => pure ()
    if r.isPat then
      match op with
      | .assign | .assignOp _ | .binary .bitOr | .range _ => return none
      | _ => pure ()
    return some (op, t.span)
  | none =>
    match t.kind with
    | .ident "and" false =>
      emit "`and` is not a logical operator" t.span
      return some (.binary .and, t.span)
    | .ident "or" false =>
      emit "`or` is not a logical operator" t.span
      return some (.binary .or, t.span)
    | _ => return none

def isAtStartOfRangeRhs : Parse Bool := do
  let k ← kind
  if !k.canBeginExpr then return false
  if k == lbrace then return !(← restrictions).noStructLiteral
  return true

/-- A range expression; an inclusive range without an end is reported and stands as an error.
A `=` or `>` glued to the `..=` is reported as such and, for `=`, read. -/
def mkRange (start stop : Option Expr) (limits : RangeLimits) (span : Span) : Parse Expr := do
  if stop.isNone && limits == .closed then
    let dots ← prev
    let t ← token
    if t.kind == .op "=" && adjacent dots t then
      bump
      emit "unexpected `=` after inclusive range" dots.span
    else if t.kind == .op ">" && adjacent dots t then
      emit "unexpected `>` after inclusive range" dots.span
    else emit "inclusive range with no end" dots.span
    return errExpr span
  return .mk [] (.range start stop limits) span

def consumeFnArgs (fuel : Nat) : Parse Bool := do
  let snap ← snapshot
  bump
  consumeTts (fun k => if k == lparen then 1 else if k == rparen then -1 else 0) fuel 1
  if (← kind) == .eof then
    restore snap
    return false
  return true

def angleWeight (k : Kind) : Int :=
  if k == .op "<" then 1 else if k == .op ">" then -1 else if k == .op ">>" then -2 else 0

inductive LetForbidden where
  | orChain (span : Span)
  | parens
  | other

/-- The errors about `let` in a condition: one under `||` or in another expression than `&&`
chains and parentheses, and one for each `let` chained with `&&`, which this edition does not
allow unless `chains`. `depth` counts the expressions above, the condition itself being at
depth one. -/
def condLetDiags (chains : Bool) : Nat → Option LetForbidden → Nat → Expr → List Diag
  | 0, _, _, _ => []
  | fuel + 1, forbid, depth, e =>
    let go := fun (f : Option LetForbidden) (x : Expr) => condLetDiags chains fuel f (depth + 1) x
    let other := fun (xs : List Expr) => xs.flatMap (go (some .other))
    match e.kind with
    | .letExpr _ _ false =>
      match forbid with
      | some (.orChain sp) => [⟨"`||` operators are not supported in let chain conditions", sp, false⟩]
      | some _ => [⟨"expected expression, found `let` statement", e.span, false⟩]
      | none =>
        if depth > 1 && !chains then [⟨"let chains are only allowed in Rust 2024 or later", e.span, false⟩]
        else []
    | .binary .and _ l r => go forbid l ++ go forbid r
    | .binary .or opSpan l r =>
      match forbid with
      | none | some (.orChain _) => go (some (.orChain opSpan)) l ++ go (some (.orChain opSpan)) r
      | _ => other [l, r]
    | .paren inner =>
      match forbid with
      | none | some .parens => go (some .parens) inner
      | _ => other [inner]
    | .binary _ _ l r | .assign l r | .assignOp _ l r | .index l r => other [l, r]
    | .unary _ x | .await x | .tryOp x | .addrOf _ _ x | .field x _ | .cast x _ => other [x]
    | .range a b _ => other (a.toList ++ b.toList)
    | .call f args => other (f :: args)
    | .methodCall recv _ _ args => other (recv :: args)
    | .tuple xs => other xs
    | _ => []

/-- Recovers a condition that swallowed the block after it: a binary operation whose right side
is a block, or a block alone. The block becomes the `then` branch and the error is reported. -/
def recoverBlockFromCondition (lo : Span) (cond : Expr) : Parse (Option (Block × Expr)) := do
  match cond.kind with
  | .binary op opSpan l r =>
    match r.kind with
    | .block b none =>
      emit "this `if` expression is missing a block after the condition" lo
      return some (b, .mk cond.attrs (.binary op opSpan l (errExpr opSpan)) cond.span)
    | _ => return none
  | .block b none =>
    emit "missing condition for `if` expression" (lo.after 2)
    return some (b, errExpr cond.span)
  | _ => return none

def isIntegerLit (text : String) : Bool :=
  match text.toList with
  | c :: rest => c.isDigit && !rest.contains '.' &&
      !(text.startsWith "0x" || text.startsWith "0b" || text.startsWith "0o") &&
      !rest.any (fun d => d == 'e' || d == 'E') && !text.endsWith "f32" && !text.endsWith "f64"
  | [] => false

def parseFieldName : Parse Ident := do
  let t ← token
  match t.kind with
  | .literal text =>
    if isIntegerLit text then
      bump
      return ⟨text, false, t.span⟩
    parseIdentCommon true
  | _ => parseIdentCommon true

def Pat.couldBeNever : Pat → Bool
  | .never | .macCall _ => true
  | _ => false

def Expr.trailingBrace : Nat → Expr → Bool
  | 0, _ => false
  | n + 1, e =>
    match e.kind with
    | .addrOf _ _ x | .assign _ x | .assignOp _ _ x | .binary _ _ _ x | .letExpr _ x _
    | .unary _ x => Expr.trailingBrace n x
    | .breakExpr _ (some x) | .ret (some x) | .yieldExpr (some x) | .range _ (some x) _ =>
      Expr.trailingBrace n x
    | .closure _ _ _ _ _ _ _ body => Expr.trailingBrace n body
    | .asyncBlock .. | .block .. | .unsafeBlock _ | .forLoop .. | .ifExpr .. | .loopExpr ..
    | .matchExpr .. | .structLit .. | .tryBlock _ | .whileExpr .. | .constBlock _ => true
    | _ => false

def attrSpan (attr : List Token) : Span :=
  match attr with
  | t :: _ => t.span
  | [] => .call

def errorOuterAttrs (attrs : List (List Token)) : Parse Unit := do
  if let some last := attrs.getLast? then
    emit "expected statement after outer attribute" (attrSpan last)

def errorOnIfBlockAttrs (attrs : List (List Token)) : Parse Unit := do
  if let some last := attrs.getLast? then
    emit "outer attributes are not allowed on `if` and `else` branches" (attrSpan last)

def finishExprStmt (e : Expr) : Parse Stmt := do
  if ← eatOp ";" then return .semi e
  return .expr e

def recoverUnexpectedBlockLabel : Parse Bool := do
  if !(← checkLifetime) then return false
  if !(← lookAhead 1 (· == .op ":")) then return false
  if !(← lookAhead 2 (· == lbrace)) then return false
  let sp := (← token).span
  bump
  bump
  emit "block label not supported here" sp
  return true

def inclusiveRangeWithIncorrectEnd : Parse Unit := do
  let dots ← prev
  let t ← token
  if t.kind == .op "=" && adjacent dots t then
    bump
    emit "unexpected `=` after inclusive range" dots.span
  else if t.kind == .op ">" && adjacent dots t then
    emit "unexpected `>` after inclusive range" dots.span
  else emit "inclusive range with no end" dots.span

/-- Whether the current token begins a binding: a name that is not `true`, `false`, `in` or a
path segment keyword, and not followed by what makes it a path or a range. -/
def canBeIdentPat : Parse Bool := do
  if !(← checkIdent) then return false
  let k ← kind
  if k.isKeyword "true" || k.isKeyword "false" || k.isPathSegmentKeyword || k.isKeyword "in" then
    return false
  lookAhead 1 fun t => !(t == lparen || t == lbrace || t == .op "..." || t == .op "..=" ||
    t == .op ".." || t == .op "::" || t == .op "!")

def isStartOfPatWithPath : Parse Bool := do
  if ← checkPath then return true
  let k ← kind
  return k.isIdent && !(k.isKeyword "true" || k.isKeyword "false") && !k.isKeyword "in"

def parseLiteralMaybeMinus : Parse Expr := do
  let lo := (← token).span
  let minus ← eatOp "-"
  let t ← token
  if t.kind.isLiteral then
    bump
    let lit := Expr.mk [] (.lit t.kind.text) t.span
    if minus then return .mk [] (.unary .neg lit) lo
    return lit
  fail ("unexpected token: " ++ t.kind.describe) t.span

def recoverAdditionalMuts (fuel : Nat) : Parse Unit := do
  let lo := (← token).span
  let rec go : Nat → Parse Bool
    | 0 => pure false
    | n + 1 => do
      if ← eatKw "mut" then
        let _ ← go n
        return true
      return false
  if ← go fuel then emit "`mut` on a binding may not be repeated" lo

def Pat.makeBindingsMutable : Pat → Nat → Pat × Bool
  | p, 0 => (p, false)
  | p, n + 1 =>
    let all := fun (ps : List Pat) =>
      let rs := ps.map (Pat.makeBindingsMutable · n)
      (rs.map (·.1), rs.any (·.2))
    match p with
    | .ident byRef m name sub =>
      let (sub', c) := match sub with
        | some s =>
          let r := s.makeBindingsMutable n
          (some r.1, r.2)
        | none => (none, false)
      if byRef.isNone && !m then (.ident byRef true name sub', true)
      else (.ident byRef m name sub', c)
    | .structPat q pth fields hasRest =>
      let rs := fields.map fun f => match f with
        | .mk name fp sh =>
          let r := fp.makeBindingsMutable n
          (FieldPat.mk name r.1 sh, r.2)
      (.structPat q pth (rs.map (·.1)) hasRest, rs.any (·.2))
    | .tupleStruct q pth ps =>
      let r := all ps
      (.tupleStruct q pth r.1, r.2)
    | .orPat ps =>
      let r := all ps
      (.orPat r.1, r.2)
    | .tuple ps =>
      let r := all ps
      (.tuple r.1, r.2)
    | .slice ps =>
      let r := all ps
      (.slice r.1, r.2)
    | .boxPat x =>
      let r := x.makeBindingsMutable n
      (.boxPat r.1, r.2)
    | .ref m x sp =>
      let r := x.makeBindingsMutable n
      (.ref m r.1 sp, r.2)
    | .paren x sp =>
      let r := x.makeBindingsMutable n
      (.paren r.1 sp, r.2)
    | .guard x cond =>
      let r := x.makeBindingsMutable n
      (.guard r.1 cond, r.2)
    | q => (q, false)

def Bound.span : Bound → Span
  | .trait _ _ _ _ _ _ span => span
  | .outlives l _ => l.span

inductive ItemPlace where
  | block
  | module
  | trait
  | impl
  deriving DecidableEq

def VariantData.fields : VariantData → List ItemField
  | .unit => []
  | .tuple fs | .record fs => fs

def ItemKind.descr : ItemKind → String
  | .struct .. => "struct"
  | .enum .. => "enum"
  | .union .. => "union"
  | .trait .. => "trait"
  | .traitAlias .. => "trait alias"
  | .tyAlias .. => "type alias"
  | .fn .. => "function"
  | .const .. => "constant item"
  | .static .. => "static item"
  | .impl .. => "implementation"
  | .mod .. => "module"

def Visibility.text : Visibility → String
  | .inherited => ""
  | .pub _ => "pub"
  | .restricted p true _ => "pub(" ++ p.plainText ++ ")"
  | .restricted p false _ => "pub(in " ++ p.plainText ++ ")"

def Visibility.span? : Visibility → Option Span
  | .inherited => none
  | .pub sp | .restricted _ _ sp => some sp

def isPathStartItem : Parse Bool := do
  let k ← kind
  if k == .ident "union" false then return ← lookAhead 1 Kind.isPlainIdent
  if k == .ident "auto" false then return ← lookAhead 1 (·.isKeyword "trait")
  return false

def checkTraitFrontMatter : Parse Bool := do
  if ← checkKw "trait" then return true
  if ← checkKw "auto" then
    if ← lookAhead 1 (·.isKeyword "trait") then return true
  if ← checkKw "unsafe" then
    if ← lookAhead 1 (fun t => t.isKeyword "trait" || t.isKeyword "auto") then return true
  return false

def checkImplFrontMatter : Parse Bool := do
  if ← checkKw "impl" then return true
  let isQual := fun (t : Kind) => t.isKeyword "const" || t.isKeyword "unsafe"
  if !(← lookAhead 0 isQual) then return false
  if ← lookAhead 1 (·.isKeyword "impl") then return true
  if !(← lookAhead 1 isQual) then return false
  lookAhead 2 (·.isKeyword "impl")

def expectSemi : Parse Unit := do
  if ← eatOp ";" then return
  expect (.op ";")

def skipStraySemicolons : Nat → Parse Unit
  | 0 => pure ()
  | n + 1 => do
    if (← kind) == .op ";" then
      emit "expected item, found `;`" (← token).span
      bump
      skipStraySemicolons n

/-- Reads the qualifiers of a function item and its `fn`: `const`, `async`, `unsafe` or `safe`,
and `extern` with an optional ABI. A qualifier out of its place right before `fn` is reported and
taken; a repeated one is reported where it first stood. -/
def parseFnFrontMatter : Parse FnHeader := do
  let constSpan := (← token).span
  let isConst ← do
    if (← checkConstClosure) || (← lookAhead 1 (· == lbrace)) then pure false
    else eatKw "const"
  let asyncSpan := (← token).span
  let isAsync ← eatKw "async"
  let safetySpan := (← token).span
  let safety ← parseSafety
  let abi ← parseExternAbi
  if ← eatKw "fn" then return { isConst, isAsync, safety, abi }
  let err ← errorOf (expectOneOf [] [])
  let k ← kind
  let wrong : Option (Option Span) :=
    if k.isKeyword "const" then some (if isConst then some constSpan else none)
    else if k.isKeyword "async" then some (if isAsync then some asyncSpan else none)
    else if k.isKeyword "unsafe" then some (if safety == some "unsafe" then some safetySpan else none)
    else if k.isKeyword "safe" then some (if safety == some "safe" then some safetySpan else none)
    else none
  let err := match wrong with
    | some (some first) => { err with span := first }
    | _ => err
  match wrong with
  | some _ =>
    if ← lookAhead 1 (·.isKeyword "fn") then
      bump
      bump
      emitDiag err
      let safety := if k.isKeyword "unsafe" then some "unsafe"
        else if k.isKeyword "safe" then some "safe" else safety
      return { isConst := isConst || k.isKeyword "const", isAsync := isAsync || k.isKeyword "async",
               safety, abi }
    throw err
  | none => throw err

def parseLifetimeBound (lo : Span) (parens : Bool) : Parse Bound := do
  let lt ← expectLifetime
  if parens then
    expect rparen
    emit "lifetime bounds may not be parenthesized" lo
  return .outlives lt parens

end LoxFront.Code
