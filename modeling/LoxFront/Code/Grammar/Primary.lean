import LoxFront.Code.Grammar.Parsers
/-!
Method calls, fields, indexing and calls after an expression, and the expressions they start from:
literals, paths, parentheses, arrays and struct literals.
-/
namespace LoxFront.Code

open LoxFront.Schema (Span Delimiter)
open Parse

/-- Method calls, fields, indexing and calls after an expression, and the expressions they start
from, read with `below` for what they contain. -/
def Grammar.primaryParsers (below : Grammar) : PrimaryParsers where
  parseExprDotOrCall attrs := do
    let base ← below.parseExprBottom
    below.parseExprDotOrCallWith attrs base
  parseExprDotOrCallWith attrs e := do
    let r ← below.parseDotOrCallLoop e.span e
    return r.withAttrs attrs
  parseDotOrCallLoop lo e := do
    let afterReturn := (← prev).kind.isKeyword "return"
    let hasQuestion ← if afterReturn then eatQuiet (.op "?") else eatOp "?"
    if hasQuestion then return ← below.parseDotOrCallLoop lo (.mk [] (.tryOp e) lo)
    let hasDot ← do
      if afterReturn then eatQuiet (.op ".")
      else if (← kind) == .op "->" then
        bump
        emit "`->` used for field access or method call" (← prev).span
        pure true
      else eatOp "."
    if hasDot then
      let e' ← below.parseDotSuffixExpr lo e
      return ← below.parseDotOrCallLoop lo e'
    if ← exprIsComplete e then return e
    let k ← kind
    if k == lparen then
      let e' ← below.parseExprFnCall lo e
      return ← below.parseDotOrCallLoop lo e'
    if k == lbracket then
      let e' ← below.parseExprIndex lo e
      return ← below.parseDotOrCallLoop lo e'
    return e
  parseDotSuffixExpr lo base := do
    let t ← token
    match t.kind with
    | .ident .. => below.parseDotSuffix lo base
    | .literal text =>
      if isIntegerLit text then
        bump
        return .mk [] (.field base ⟨text, false, t.span⟩) lo
      emit ("unexpected token: `" ++ t.kind.text ++ "`") t.span
      return base
    | _ =>
      emit ("unexpected token: `" ++ t.kind.text ++ "`") t.span
      return base
  parseDotSuffix lo base := do
    if ← eatKw "await" then return .mk [] (.await base) lo
    let _ ← checkKw "use"
    if ← eatKw "match" then return ← below.parseMatchBlock lo base
    let _ ← checkKw "yield"
    let seg ← below.parsePathSegment .expr
    if ← check lparen then
      let args ← below.parseExprParenSeq
      return .mk [] (.methodCall base seg.ident seg.args args) lo
    return .mk [] (.field base seg.ident) lo
  parseExprParenSeq := do
    let (args, _) ← parenSeq (below.parseExprCatchUnderscore {}) below.depth
    return args
  parseExprCatchUnderscore r := do
    let attrs ← below.parseOuterAttributes
    match ← attempt (below.parseExprRes r attrs) with
    | .ok e => return e
    | .error err =>
      if (← kind).isKeyword "_" then
        if ← lookAhead 1 (· == .op ",") then
          emitDiag err
          bump
          return errExpr (← prev).span
      throw err
  parseExprFnCall lo fn := do
    let snap ← snapshot
    match ← attempt (below.parseExprParenSeq) with
    | .ok args => return .mk [] (.call fn args) lo
    | .error err =>
      if fn.isPath then
        let here ← snapshot
        restore snap
        bump
        match ← attempt (below.parseStructFieldsLoop rparen false []) with
        | .ok (fields, _) =>
          if ← eat rparen then
            let named := fields.filter fun | .mk _ _ _ shorthand => !shorthand
            if named.isEmpty then emitDiag err
            else emit "invalid `struct` delimiters or `fn` call arguments" lo
            return errExpr lo
          restore here
        | .error _ => restore here
      emitDiag err
      consumeBlock lparen rparen true below.depth
      return errExpr lo
  parseExprIndex lo base := do
    bump
    let idx ← below.parseExpr
    expect rbracket
    return .mk [] (.index base idx) lo
  parseExprBottom := do
    let r ← restrictions
    withRes { r with allowLet := false } (below.parseExprBottomWith r)
  parseExprBottomWith r := do
    let t ← token
    let lo := t.span
    if let .literal _ := t.kind then return ← below.parseExprLit
    if ← check lparen then return ← below.parseExprTupleParens r
    if ← check lbrace then return ← below.parseExprBlock none lo false
    if ← checkOp "|" then return ← below.parseExprClosure
    if ← checkOp "||" then return ← below.parseExprClosure
    if ← check lbracket then return ← below.parseExprArrayOrRepeat rbracket
    if ← checkPath then return ← below.parseExprPathStart
    if ← checkKw "move" then return ← below.parseExprClosure
    if ← checkKw "use" then return ← below.parseExprClosure
    if ← checkKw "static" then return ← below.parseExprClosure
    if ← checkConstClosure then return ← below.parseExprClosure
    if ← eatKw "if" then return ← below.parseExprIf lo
    if ← checkKw "for" then
      if ← chooseGenericsOverQPath 1 then return ← below.parseExprClosure
      bump
      return ← below.parseExprFor none lo
    if ← eatKw "while" then return ← below.parseExprWhile none lo
    if let some label := (← eatLabel) then return ← below.parseExprLabeled label true
    if ← eatKw "loop" then return ← below.parseExprLoop none lo
    if ← eatKw "match" then return ← below.parseExprMatch lo
    if ← eatKw "unsafe" then return ← below.parseExprBlock none lo true
    if ← checkInlineConst 0 then return ← below.parseConstBlock lo
    if (← kind).isKeyword "try" then
      if ← lookAhead 1 (· == lbrace) then
        expectKw "try"
        let (_, body) ← below.parseBlockCommon (← token).span false
        return .mk [] (.tryBlock body) lo
    if ← eatKw "return" then
      return .mk [] (.ret (← below.parseExprOpt)) lo
    if ← eatKw "continue" then
      return .mk [] (.continueExpr (← eatLabel)) lo
    if ← eatKw "break" then return ← below.parseExprBreak lo
    if ← eatKw "yield" then
      return .mk [] (.yieldExpr (← below.parseExprOpt)) lo
    if ← checkKw "let" then return ← below.parseExprLet r
    if ← eatKw "_" then return .mk [] .underscore lo
    let atAsync ← checkKw "async"
    if ← isGenBlock "async" 0 then
      bump
      let isMove ← parseCaptureClause
      let (_, body) ← below.parseBlockCommon (← token).span false
      return .mk [] (.asyncBlock isMove body) lo
    if atAsync then return ← below.parseExprClosure
    if (← kind).isKeyword "await" then
      bump
      if (← kind) == .op "!" then
        expect (.op "!")
        expect lparen
        let _ ← below.parseExpr
        expect rparen
      else
        let _ ← eatOp "?"
        if (← kind) == lbrace then
          let _ ← below.parseExprBlock none (← token).span false
        else
          let _ ← below.parseExpr
      emit "incorrect use of `await`" lo
      return errExpr lo
    below.parseExprLit
  parseExprOpt := do
    if (← kind).canBeginExpr then return some (← below.parseExpr)
    return none
  parseExprBreak lo := do
    let label ← eatLabel
    if (← kind) == .op ":" then
      if let some l := label then
        let e ← below.parseExprLabeled l true
        emit "parentheses are required around this expression to avoid confusion with a labeled break expression" e.span
        return .mk [] (.breakExpr none (some e)) lo
    if (← kind) != lbrace || !(← restrictions).noStructLiteral then
      let value ← below.parseExprOpt
      return .mk [] (.breakExpr label value) lo
    return .mk [] (.breakExpr label none) lo
  parseExprLit := do
    let t ← token
    if t.kind.isLiteral then
      bump
      return ← below.maybeRecoverBadQPathExpr (.mk [] (.lit t.kind.text) t.span)
    fail ("expected expression, found " ++ t.kind.describe) t.span
  maybeRecoverBadQPathExpr e := do
    if (← kind) != .op "::" then return e
    match Expr.asTy 64 e with
    | none => return e
    | some ty =>
      bump
      let segs ← below.parsePathSegments .expr []
      emit "missing angle brackets in associated item path" e.span
      return .mk e.attrs (.path (some (.mk ty 0)) (.mk false segs e.span)) e.span
  parseExprTupleParens r := do
    let lo := (← token).span
    expect lparen
    match ← attempt (commaSeq (below.parseExprCatchUnderscore { allowLet := r.allowLet }) rparen [] below.depth) with
    | .ok (es, trailing) =>
      let _ ← eat rparen
      let kind := match es, trailing with
        | [e], false => ExprKind.paren e
        | _, _ => .tuple es
      below.maybeRecoverBadQPathExpr (.mk [] kind lo)
    | .error err =>
      emitDiag err
      consumeBlock lparen rparen true below.depth
      return errExpr lo
  parseExprArrayOrRepeat close := do
    let lo := (← token).span
    bump
    if ← eat close then return .mk [] (.array []) lo
    let first ← below.parseExpr
    if ← eatOp ";" then
      let count ← below.parseExpr
      expect close
      return ← below.maybeRecoverBadQPathExpr (.mk [] (.repeat first count) lo)
    if ← eatOp "," then
      let (rest, _) ← commaSeq (below.parseExpr) close [] below.depth
      let _ ← eat close
      return ← below.maybeRecoverBadQPathExpr (.mk [] (.array (first :: rest)) lo)
    expect close
    below.maybeRecoverBadQPathExpr (.mk [] (.array [first]) lo)
  parseExprPathStart := do
    let lo := (← token).span
    let mut qself : Option QSelf := none
    let mut path : Path := .mk false [] lo
    if ← eatLt then
      let (q, p) ← below.parseQPath .expr (← prev).span
      qself := some q
      path := p
    else
      path ← below.parsePath .expr
    if ← eatOp "!" then
      if qself.isSome then emit "macros cannot use qualified paths" path.span
      let _ ← parseDelimArgs below.depth
      return ← below.maybeRecoverBadQPathExpr (.mk [] (.macCall path) lo)
    if ← check lbrace then
      if let some e := (← below.maybeParseStructExpr qself path) then return e
    below.maybeRecoverBadQPathExpr (.mk [] (.path qself path) lo)
  maybeParseStructExpr qself path := do
    let structAllowed := !(← restrictions).noStructLiteral
    let notBlock ← do
      if ← lookAhead 1 Kind.isIdent then
        lookAhead 2 (fun k => k == .op "," || k == .op ":")
      else pure false
    if structAllowed || notBlock then
      expect lbrace
      let e ← below.parseExprStruct qself path true
      if !structAllowed then emit "struct literals are not allowed here" e.span
      return some e
    return none
  parseExprStruct qself path recover := do
    let (fields, tail) ← below.parseStructFieldsLoop rbrace recover []
    expect rbrace
    return .mk [] (.structLit qself path fields tail) path.span
  parseStructFieldsLoop close recover acc := do
    if (← kind) == close then return (acc.reverse, .none)
    let mut dots ← eatOp ".."
    if !dots then
      if !(← lookAhead 1 (· == close)) then
        if ← eatOp "..." then
          emit "expected `..`, found `...`" (← prev).span
          dots := true
    if dots then
      let dotSpan := (← prev).span
      if ← check close then return (acc.reverse, .rest)
      let mut base := StructRest.none
      match ← attempt (below.parseExpr) with
      | .ok e => base := .base e
      | .error e =>
        if !recover then throw e
        emitDiag e
        recoverStmt false false below.depth
      if (← kind) == .op "," then
        emit "cannot use a comma after the base struct" dotSpan
        recoverStmt false false below.depth
      return (acc.reverse, base)
    let t ← token
    let mut peek : Option Ident := none
    if let .ident name raw := t.kind then
      if !t.kind.isReservedIdent then
        if ← lookAhead 1 (· == .op ":") then peek := some ⟨name, raw, t.span⟩
    let inIfGuard := (← restrictions).inIfGuard
    let mut parsed : Option FieldValue := none
    match ← attempt (below.parseExprField) with
    | .ok f => parsed := some f
    | .error e =>
      if (inIfGuard && close == rbrace) || !recover then throw e
      emitDiag e
      if (← kind) != .op "," then
        recoverStmt false true below.depth
        if (← kind) != .op "," then return (acc.reverse, .none)
    let isShorthand := match parsed with
      | some (.mk _ _ _ sh) => sh
      | none => false
    let _ ← checkOr (!isShorthand) "`:`"
    let recovered := peek.map fun id => FieldValue.mk [] id (errExpr id.span) false
    match ← attempt (expectOneOf [.op ","] [close]) with
    | .ok () =>
      let acc := match parsed with
        | some f => f :: acc
        | none => match recovered with
          | some f => f :: acc
          | none => acc
      below.parseStructFieldsLoop close recover acc
    | .error e =>
      if !recover then throw e
      emitDiag e
      let acc := match recovered with
        | some f => f :: acc
        | none => acc
      recoverStmt false true below.depth
      let _ ← eatOp ","
      below.parseStructFieldsLoop close recover acc
  parseExprField := do
    let attrs ← below.parseOuterAttributes
    let t ← token
    let isShorthand ← do
      pure !(← lookAhead 1 (fun k => k == .op ":" || k == .op "="))
    if t.kind.isPlainIdent then
      let wrong ← lookAhead 1 fun k =>
        !(k == .op ":" || k == .op "=" || k == .op "," || k == rbrace || k == rparen)
      if wrong then
        let next ← tokenAhead 1
        throw ⟨"expected one of `,`, `:`, or `\x7d`, found `" ++ next.kind.text ++ "`", next.span,
          false⟩
    if isShorthand then
      let id ← parseIdentCommon false
      let path : Path := .mk false [.mk id none] id.span
      return .mk attrs id (.mk [] (.path none path) id.span) true
    let id ← parseFieldName
    if (← kind) == .op "=" then emit "expected `:`, found `=`" (← token).span
    bump
    let e ← below.parseExpr
    return .mk attrs id e false

end LoxFront.Code
