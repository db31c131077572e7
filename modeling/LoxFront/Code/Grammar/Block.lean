import LoxFront.Code.Grammar.Parsers
/-!
Blocks and the statements in them.
-/
namespace LoxFront.Code

open LoxFront.Schema (Span Delimiter)
open Parse

/-- Blocks and the statements in them, read with `below` for what they contain. -/
def Grammar.blockParsers (below : Grammar) : BlockParsers where
  parseConstBlock lo := do
    expectKw "const"
    let (_, body) ← below.parseBlockCommon (← token).span false
    return .mk [] (.constBlock body) lo
  parseExprBlock label lo isUnsafe := do
    let arrayLike ← do
      let first ← lookAhead 1 fun k => match k with
        | .ident .. | .literal _ => true
        | _ => false
      if first && (← kind) == lbrace then
        if ← lookAhead 2 (· == .op ",") then lookAhead 3 Kind.canBeginExpr else pure false
      else pure false
    if arrayLike then
      let snap ← snapshot
      match ← attempt (below.parseExprArrayOrRepeat rbrace) with
      | .ok arr =>
        emit "this is a block expression, not an array" arr.span
        return errExpr arr.span
      | .error _ => restore snap
    let (_, blk) ← below.parseBlockCommon (← token).span false
    return .mk [] (if isUnsafe then .unsafeBlock blk else .block blk label) lo
  parseBlockCommon _ _ := do
    let _ ← recoverUnexpectedBlockLabel
    if !(← eat lbrace) then
      let t ← token
      throw (← below.blockNoOpeningBrace ("expected `\x7b`, found " ++ t.kind.describe))
    let attrs ← below.parseInnerAttributes
    if (← kind).isIdent then
      if ← lookAhead 1 (· == .op ":") then
        return (attrs, ← below.parseBlockMaybeStructBody)
    return (attrs, ← below.parseBlockTail true [])
  blockNoOpeningBrace msg := do
    let sp := (← token).span
    let _ ← attempt (below.parseStmtWithoutRecovery)
    return ⟨msg, sp, false⟩
  parseBlockMaybeStructBody := do
    let braceSpan := (← prev).span
    let start ← snapshot
    let literal ← attempt (do
      let _ ← below.parseStructFieldsLoop rbrace false []
      expect rbrace)
    let afterLiteral ← snapshot
    restore start
    match ← attempt (below.parseBlockTail false []) with
    | .ok blk => return blk
    | .error err =>
      match literal with
      | .ok () =>
        restore afterLiteral
        emit "struct literal body without path" braceSpan
        return .mk [.expr (errExpr braceSpan)]
      | .error _ =>
        consumeBlock lbrace rbrace true below.depth
        throw err
  parseBlock := do
    let (attrs, blk) ← below.parseBlockCommon (← token).span false
    if let some a := attrs.head? then
      emit "an inner attribute is not permitted in this context" (attrSpan a)
    return blk
  parseBlockTail recover acc := do
    if ← eat rbrace then return .mk acc.reverse
    if (← kind) == .eof then return .mk acc.reverse
    match ← attempt (below.parseFullStmt recover) with
    | .ok none => below.parseBlockTail recover acc
    | .ok (some s) => below.parseBlockTail recover (s :: acc)
    | .error e =>
      if !recover then throw e
      if (← kind) == .op ":" then
        let pv ← prev
        let intBefore := match pv.kind with
          | .literal t => isIntegerLit t
          | _ => false
        let intAfter ← lookAhead 1 fun k => match k with
          | .literal t => isIntegerLit t
          | _ => false
        if !(intBefore && intAfter) then bump
      emitDiag e
      recoverStmt false false below.depth
      below.parseBlockTail recover (.expr (errExpr (← token).span) :: acc)
  parseFullStmt recover := do
    let some stmt ← below.parseStmtWithoutRecovery | return none
    match stmt with
    | .expr e =>
      let k ← kind
      if e.requiresSemi && !e.attrs.isEmpty && k != .eof && k != .op ";" && k != rbrace then
        let pv ← prev
        emit ("expected `;`, found " ++ k.describe) (pv.span.after pv.kind.text.length)
        return some (← finishExprStmt (errExpr e.span))
      if k != .eof && e.requiresSemi then
        match ← attempt (expectOneOf [] [.op ";", rbrace]) with
        | .ok () => pure ()
        | .error err =>
          match ← attempt (below.recoverTurbofishInLength err e) with
          | .ok _ => return some (← finishExprStmt (errExpr e.span))
          | .error err' =>
            if !recover then throw err'
            emitDiag err'
            recoverStmt true false below.depth
            return some (← finishExprStmt (errExpr e.span))
      return some (← finishExprStmt e)
    | .mac call _ => return some (.mac call (← eatOp ";"))
    | .letStmt _ _ _ init _ =>
      if ← eatOp ";" then return some stmt
      match ← attempt (expect (.op ";")) with
      | .ok () => return some stmt
      | .error err =>
        match init with
        | some i =>
          let _ ← below.recoverTurbofishInLength err i
          if !(← eatOp ";") then expect (.op ";")
          return some stmt
        | none => throw err
    | _ => return some stmt
  parseStmtWithoutRecovery := do
    let attrs ← below.parseOuterAttributes
    let lo := (← token).span
    if ← eatKw "let" then return some (← below.parseLocal attrs)
    let k ← kind
    let nextIsName ← lookAhead 1 Kind.isPlainIdent
    if nextIsName && (k.isKeyword "mut" || k == .ident "auto" false || k == .ident "var" false) then
      if !k.isKeyword "mut" then bump
      let s ← below.parseLocal attrs
      emit "invalid variable declaration" lo
      return some s
    if ← checkPath then
      if k != .op "<" && k != .op "<<" then
        if !(← isPathStartItem) then
          return some (← below.parseStmtPathStart lo attrs)
    if let some item ← below.parseItemCommon attrs .block then return some (.item item)
    if ← eatOp ";" then
      errorOuterAttrs attrs
      return some (.empty (← prev).span)
    let e ← below.parseExprRes { stmtExpr := true } attrs
    if let .assign .. := e.kind then
      if ← eatKw "else" then
        let _ ← below.parseBlock
        emit "<assignment> ... else \x7b ... \x7d is not allowed" e.span
    return some (.expr e)
  parseStmtPathStart lo attrs := do
    let path ← below.parsePath .expr
    if ← eatOp "!" then
      let delim ← kind
      let _ ← parseDelimArgs below.depth
      let k ← kind
      if (delim == lbrace && k != .op "." && k != .op "?") || k == .op ";" || k == .eof then
        return .mac (.mk attrs (.macCall path) lo) false
      let e ← below.maybeRecoverBadQPathExpr (.mk [] (.macCall path) lo)
      let e ← below.parseExprDotOrCallWith attrs e
      let e ← below.parseExprAssocRest 0 e
      return .expr e
    let e ← if ← eat lbrace then below.parseExprStruct none path true
      else pure (Expr.mk [] (.path none path) lo)
    let e ← withRes { stmtExpr := true } (below.parseExprDotOrCallWith attrs e)
    let e ← withRes { stmtExpr := true } (below.parseExprAssocRest 0 e)
    return .expr e
  parseLocal attrs := do
    let lo := (← prev).span
    if (← kind).isKeyword "const" then
      if ← lookAhead 1 Kind.isIdent then
        emit "`const` and `let` are mutually exclusive" lo
        bump
    let (pat, colon) ← below.parsePatBeforeTy .pattern true false
    let mut ty : Option Ty := none
    let mut tyErr : Option (Cursor × Diag) := none
    if colon then
      let before ← snapshot
      match ← attempt (below.parseTy) with
      | .ok t => ty := some t
      | .error err =>
        if (← kind) == .op "=" then emitDiag err
        else
          let after ← snapshot
          restore before
          tyErr := some (after, err)
    let mut init : Option Expr := none
    match ← attempt (below.parseInitializer tyErr.isSome) with
    | .ok i =>
      if let some (_, err) := tyErr then emitDiag err
      init := i
    | .error initErr =>
      match tyErr with
      | some (after, tyE) =>
        restore after
        throw tyE
      | none => throw initErr
    let mut els : Option Block := none
    if let some i := init then
      if ← eatKw "else" then
        if (← kind).isKeyword "if" then
          throw (← below.blockNoOpeningBrace "conditional `else if` is not supported for `let...else`")
        els := some (← below.parseBlock)
        if let .binary op _ _ _ := i.kind then
          if op == .and || op == .or then
            emit ("a `" ++ op.text ++ "` expression cannot be directly assigned in `let...else`")
              i.span
        if i.trailingBrace 256 then
          emit "right curly brace `\x7d` before `else` in a `let...else` statement not allowed"
            i.span
    return .letStmt attrs pat ty init els
  parseInitializer eqOptional := do
    let k ← kind
    let compound := ["+=", "-=", "*=", "/=", "%=", "^=", "&=", "|=", "<<=", ">>="].any (k == .op ·)
    let mut consumed := false
    if compound then
      emit "can't reassign to an uninitialized variable" (← token).span
      bump
      consumed := true
    else
      consumed ← eatOp "="
    if consumed || eqOptional then return some (← below.parseExpr)
    return none

end LoxFront.Code
