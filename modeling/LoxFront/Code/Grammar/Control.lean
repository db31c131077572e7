import LoxFront.Code.Grammar.Parsers
/-!
Closures, conditionals, loops, `match` and `let` expressions.
-/
namespace LoxFront.Code

open LoxFront.Schema (Span Delimiter)
open Parse

/-- Closures, conditionals, loops, `match` and `let` expressions, read with `below` for what they
contain. -/
def Grammar.controlParsers (below : Grammar) : ControlParsers where
  parseExprClosure := do
    let lo := (← token).span
    let binder ← if ← checkKw "for" then some <$> below.parseLateBoundLifetimes else pure none
    let isConst ← do
      if ← checkConstClosure then
        if !(← lookAhead 1 (· == lbrace)) then eatKw "const" else pure false
      else pure false
    let isStatic ← eatKw "static"
    let isAsync ← eatKw "async"
    if binder.isNone && isAsync then addExpected "`\x7b`"
    let mut isMove := false
    if ← eatKw "move" then
      isMove := true
      if ← checkKw "async" then
        throw ⟨"the order of `move` and `async` is incorrect", (← prev).span, false⟩
    else if ← eatKw "use" then
      if ← checkKw "async" then
        throw ⟨"the order of `use` and `async` is incorrect", (← prev).span, false⟩
    let params ← do
      if ← eatOp "||" then pure []
      else
        expect (.op "|")
        let (ps, _) ← commaSeq (below.parseFnBlockParam) (.op "|") [.op "||"] below.depth
        expectOr
        pure ps
    let output ← below.parseRetTy {}
    let body ← match output with
      | none => do
        let r ← restrictions
        let attrs ← below.parseOuterAttributes
        below.parseExprRes { r with stmtExpr := false, allowLet := false } attrs
      | some _ => below.parseClosureBlockBody
    return .mk [] (.closure binder isConst isStatic isAsync isMove params output body) lo
  parseFnBlockParam := do
    let lo := (← token).span
    let attrs ← below.parseOuterAttributes
    let pat ← below.parsePatNoTopAlt .parameterName
    let ty ← if ← eatOp ":" then some <$> below.parseTy else pure none
    return .mk attrs (some pat) ty lo
  parseClosureBlockBody := do
    let k ← kind
    if k.canBeginExpr && k != lbrace then
      let snap ← snapshot
      let t ← token
      let r ← restrictions
      match ← attempt (below.parseExprRes { r with stmtExpr := false, allowLet := false } []) with
      | .ok e =>
        emit ("expected `\x7b`, found " ++ t.kind.describe) t.span
        return e
      | .error _ => restore snap
    below.parseExprBlock none (← token).span false
  parseExprIf lo := do
    let cond ← below.parseExprCond
    below.parseIfAfterCond lo cond
  parseExprCond := do
    let attrs ← below.parseOuterAttributes
    let c ← below.parseExprRes { noStructLiteral := true, allowLet := true } attrs
    for d in condLetDiags false 256 none 1 c do emitDiag d
    return c
  parseIfAfterCond lo cond0 := do
    let mut cond := cond0
    let mut thn : Block := .mk []
    if (← kind).isKeyword "else" then
      match ← recoverBlockFromCondition lo cond with
      | some (b, c) =>
        thn := b
        cond := c
      | none =>
        emit "this `if` expression is missing a block after the condition" lo
        thn := .mk [.expr (errExpr cond.span)]
    else
      let attrs ← below.parseOuterAttributes
      if ← check lbrace then
        thn ← below.parseBlock
      else
        match ← recoverBlockFromCondition lo cond with
        | some (b, c) =>
          thn := b
          cond := c
        | none =>
          if let .binary .and opSpan _ r := cond.kind then
            if let .ifExpr .. := r.kind then
              throw ⟨"unexpected `if` in the condition expression", opSpan.after 2, false⟩
          thn ← below.parseBlock
      errorOnIfBlockAttrs attrs
    let els ← if ← eatKw "else" then some <$> below.parseExprElse else pure none
    return .mk [] (.ifExpr cond thn els) lo
  parseExprElse := do
    let attrs ← below.parseOuterAttributes
    let e ← do
      if ← eatKw "if" then below.parseExprIf (← prev).span
      else if ← check lbrace then below.parseSimpleBlock
      else
        let snap ← snapshot
        let t ← token
        match ← attempt (below.parseExpr) with
        | .ok c =>
          let isMac := match c.kind with
            | .macCall _ => true
            | _ => false
          if (← check lbrace) && (c.requiresSemi || isMac) then
            emit ("expected `\x7b`, found " ++ t.kind.describe) t.span
            below.parseIfAfterCond c.span c
          else
            restore snap
            below.parseSimpleBlock
        | .error _ =>
          restore snap
          below.parseSimpleBlock
    errorOnIfBlockAttrs attrs
    return e
  parseSimpleBlock := do
    let lo := (← token).span
    let blk ← below.parseBlock
    return .mk [] (.block blk none) lo
  parseExprFor label lo := do
    let _ ← eatKw "await"
    let beginParen := (← kind) == lparen
    let startSpan := (← token).span
    let mut pat := Pat.wild
    match ← attempt (below.parsePatAllowTopGuard .pattern true) with
    | .ok p => pat := p
    | .error err =>
      if beginParen then
        if ← eatKw "in" then
          let attrs ← below.parseOuterAttributes
          match ← attempt (below.parseExprAssocWith 0 attrs) with
          | .ok iter =>
            if (← kind) == rparen then
              bump
              emit "unexpected parentheses surrounding `for` loop head" startSpan
              return ← below.parseForBody label lo Pat.wild iter
            throw err
          | .error _ => throw err
      throw err
    if !(← eatKw "in") then
      let t ← token
      if t.kind == .ident "of" false then
        bump
        emit "missing `in` in `for` loop" t.span
      else if ← eatOp "=" then
        emit "missing `in` in `for` loop" (← prev).span
      else
        let pv ← prev
        emit "missing `in` in `for` loop" (pv.span.after pv.kind.text.length)
    if ← eatKw "in" then
      emit "expected iterable, found keyword `in`" (← prev).span
    let attrs ← below.parseOuterAttributes
    let iter ← below.parseExprRes { noStructLiteral := true } attrs
    below.parseForBody label lo pat iter
  parseForBody label lo pat iter := do
    let isBlock := match iter.kind with
      | .block .. => true
      | _ => false
    if isBlock && (← kind) != lbrace then
      emit "missing expression to iterate on in `for` loop" iter.span
      return .mk [] (.forLoop pat (errExpr iter.span) (.mk []) label) lo
    let (_, body) ← below.parseBlockCommon (← token).span true
    below.recoverLoopElse "for"
    return .mk [] (.forLoop pat iter body label) lo
  parseExprWhile label lo := do
    let cond ← below.parseExprCond
    let (_, body) ← below.parseBlockCommon (← token).span true
    below.recoverLoopElse "while"
    return .mk [] (.whileExpr cond body label) lo
  parseExprLoop label lo := do
    let (_, body) ← below.parseBlockCommon (← token).span true
    below.recoverLoopElse "loop"
    return .mk [] (.loopExpr body label) lo
  recoverLoopElse loopKind := do
    if (← kind).isKeyword "else" then
      let sp := (← token).span
      bump
      let _ ← below.parseExprElse
      emit ("`" ++ loopKind ++ "...else` loops are not supported") sp
  parseExprLabeled label consumeColon := do
    let lo := label.span
    let ateColon ← eatOp ":"
    let mut colonWanted := consumeColon
    let mut e := errExpr lo
    if ← eatKw "while" then e ← below.parseExprWhile (some label) lo
    else if ← eatKw "for" then e ← below.parseExprFor (some label) lo
    else if ← eatKw "loop" then e ← below.parseExprLoop (some label) lo
    else if (← kind) == lbrace then e ← below.parseExprBlock (some label) lo false
    else
      let k ← kind
      if !ateColon && (k == .op "," || k == .op ">") then
        emit "expected `while`, `for`, `loop` or `\x7b` after a label" (← token).span
        colonWanted := false
      else
        let errSpan := (← token).span
        let res ← attempt (below.parseExpr)
        emit "expected `while`, `for`, `loop` or `\x7b` after a label" errSpan
        match res with
        | .ok x => e := x
        | .error err => throw err
    if !ateColon && colonWanted then
      emit "labeled expression must be followed by `:`" e.span
    return e
  parseExprMatch lo := do
    let attrs ← below.parseOuterAttributes
    let scrut ← below.parseExprRes { noStructLiteral := true } attrs
    below.parseMatchBlock lo scrut
  parseMatchBlock lo scrut := do
    match ← attempt (expect lbrace) with
    | .ok () => pure ()
    | .error e =>
      if ← recoverUnexpectedBlockLabel then bump
      else throw e
    let _ ← below.parseInnerAttributes
    below.parseArms lo scrut []
  parseArms lo scrut acc := do
    if (← kind) == rbrace then
      bump
      return .mk [] (.matchExpr scrut acc.reverse) lo
    match ← attempt (below.parseArm) with
    | .ok arm => below.parseArms lo scrut (arm :: acc)
    | .error e =>
      emitDiag e
      recoverStmt false false below.depth
      let _ ← eat rbrace
      return .mk [] (.matchExpr scrut (acc.reverse ++ [.mk [] .err none (some (errExpr lo))])) lo
  parseArm := do
    let attrs ← below.parseOuterAttributes
    let pat ← below.parsePatNoTopGuard .pattern true
    let mut guard : Option Expr := none
    if ← eatKw "if" then
      let attrs2 ← below.parseOuterAttributes
      let cond ← below.parseExprRes { allowLet := true, inIfGuard := true } attrs2
      for d in condLetDiags true 256 none 1 cond do emitDiag d
      guard := some cond
    let isFatArrow ← checkOp "=>"
    let k ← kind
    let almost := k == .op "=" || k == .op "->"
    let armless ← do
      if !isFatArrow && !almost && pat.couldBeNever then
        if ← checkOp "," then pure true else pure ((← kind) == rbrace)
      else pure false
    if armless then
      expectOneOf [.op ","] [rbrace]
      return .mk attrs pat guard none
    match ← attempt (expect (.op "=>")) with
    | .ok () => pure ()
    | .error e =>
      if almost then
        emitDiag e
        bump
      else throw e
    let attrs3 ← below.parseOuterAttributes
    let body ← below.parseExprRes { stmtExpr := true } attrs3
    let requireComma := body.requiresSemi && (← kind) != rbrace
    if !requireComma then
      let _ ← eatOp ","
    else
      expectOneOf [.op ","] [rbrace]
    return .mk attrs pat guard (some body)
  parseExprLet r := do
    let lo := (← token).span
    let mut recovered := false
    if !r.allowLet then
      if (← prev).kind == .op "|" then
        throw ⟨"expected expression, found `let` statement", lo, false⟩
      emit "expected expression, found `let` statement" lo
      recovered := true
    bump
    let pat ← below.parsePatNoTopGuard .pattern true
    if (← kind) == .op "==" then
      emit "expected `=`, found `==`" (← token).span
      bump
    else expect (.op "=")
    let attrs ← below.parseOuterAttributes
    let scrut ← below.parseExprAssocWith (Prec.lAnd + 1) attrs
    return .mk [] (.letExpr pat scrut recovered) lo

end LoxFront.Code
