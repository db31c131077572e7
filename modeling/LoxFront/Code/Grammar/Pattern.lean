import LoxFront.Code.Grammar.Parsers
/-!
Patterns: alternatives, ranges, bindings, references, tuples and structs.
-/
namespace LoxFront.Code

open LoxFront.Schema (Span Delimiter)
open Parse

/-- Patterns, read with `below` for what they contain. -/
def Grammar.patternParsers (below : Grammar) : PatternParsers where
  parsePatAllowTopGuard expected recoverComma := do
    let pat ← below.parsePatNoTopGuard expected recoverComma
    if ← eatKw "if" then
      let cond ← below.parseExpr
      return .guard pat cond
    return pat
  parsePatNoTopGuard expected recoverComma := do
    let (pat, _) ← below.parsePatNoTopGuardInner expected recoverComma false
    return pat
  parsePatNoTopGuardInner expected recoverComma isParam := do
    let lead ← eatOrSeparator
    let leadingVert := match lead with
      | .ate => true
      | _ => false
    let trailingVert := match lead with
      | .trailing => true
      | _ => false
    let first ← match ← attempt (below.parsePatWithRangePat true expected isParam) with
      | .ok p => pure p
      | .error err => do
        let k ← kind
        if k.isReservedIdent && !k.isKeyword "in" && !k.isKeyword "if" then
          emitDiag err
          bump
          pure Pat.wild
        else throw err
    if recoverComma && !first.couldBeNever then below.maybeRecoverUnexpectedComma
    if !(← checkOp "|") && (← kind) != .op "||" then
      if leadingVert then return (.orPat [first], trailingVert)
      return (first, trailingVert)
    let (pats, tv) ← below.parseOrPats expected recoverComma isParam [first] trailingVert
    return (.orPat pats, tv)
  parseOrPats expected recoverComma isParam acc tv := do
    match ← eatOrSeparator with
    | .none => return (acc.reverse, tv)
    | .trailing => return (acc.reverse, true)
    | .ate =>
      let p ← below.parsePatWithRangePat true expected isParam
      if recoverComma && !p.couldBeNever then below.maybeRecoverUnexpectedComma
      below.parseOrPats expected recoverComma isParam (p :: acc) tv
  maybeRecoverUnexpectedComma := do
    if (← kind) != .op "," then return
    let commaSpan := (← token).span
    bump
    let _ ← attempt (below.skipPatList)
    throw ⟨"unexpected `,` in pattern", commaSpan, false⟩
  skipPatList := do
    if ← check rparen then return
    let _ ← below.parsePatNoTopAlt .pattern
    if ← eatOp "," then below.skipPatList
  parsePatBeforeTy expected recoverComma isParam := do
    let lo := (← token).span
    let (pat, trailingVert) ← below.parsePatNoTopGuardInner expected recoverComma isParam
    let colon ← eatOp ":"
    if let .orPat _ := pat then
      if !trailingVert then
        emit (if isParam then "top-level or-patterns are not allowed in function parameters"
          else "top-level or-patterns are not allowed in `let` bindings") lo
    return (pat, colon)
  parsePatNoTopAlt expected := below.parsePatWithRangePat true expected false
  parsePatWithRangePat allowRange expected isParam := do
    let mut lo := (← token).span
    if (← kind).isKeyword "let" then
      if ← lookAhead 1 Kind.canBeginPattern then
        bump
        emit "expected pattern, found `let`" lo
        lo := (← token).span
    let mut pat ← below.parsePatKind expected isParam lo
    if (← kind) == .op "@" then
      bump
      let rhs ← below.parsePatNoTopAlt .pattern
      match rhs with
      | .ident byRef m name none =>
        emit "pattern on wrong side of `@`" lo
        pat := .ident byRef m name (some pat)
      | _ =>
        emit "left-hand side of `@` must be a binding" lo
        pat := .wild
    if !allowRange then
      match pat with
      | .range _ _ .includedDots _ => pure ()
      | .range .. => emit "the range pattern here has ambiguous interpretation" lo
      | _ => pure ()
    return pat
  parsePatKind expected isParam lo := do
    if ← checkOp "&" then return ← below.parsePatDeref expected
    if (← kind) == .op "&&" then return ← below.parsePatDeref expected
    if ← check lparen then return ← below.parsePatTupleOrParens
    if ← check lbracket then
      bump
      let (ps, _) ← commaSeq (below.parsePatAllowTopGuard .pattern false) rbracket [] below.depth
      let _ ← eat rbracket
      return .slice ps
    if ← checkOp ".." then
      if !(← isPatRangeEndStart below.depth 1) then
        bump
        return .rest
    if ← checkOp "..." then
      if !(← isPatRangeEndStart below.depth 1) then
        bump
        emit "unexpected `...`" lo
        return .rest
    if let some form := (← parseRangeEnd) then
      let reSpan := (← prev).span
      return ← below.parsePatRangeTo form reSpan
    if ← eatOp "!" then return .never
    if ← eatKw "_" then return .wild
    if ← eatKw "mut" then return ← below.parsePatIdentMut
    if ← eatKw "ref" then
      if ← checkKw "box" then
        let sp := (← prev).span
        bump
        emit "switch the order of `ref` and `box`" sp
      let m ← parseMutability
      return ← below.parsePatIdent (some m) false isParam
    if ← eatKw "box" then return ← below.parsePatBox
    if ← checkInlineConst 0 then
      let e ← below.parseConstBlock lo
      if let some form := (← parseRangeEnd) then return ← below.parsePatRangeBeginWith e form
      return .lit e
    if ← canBeIdentPat then return ← below.parsePatIdent none false isParam
    if ← isStartOfPatWithPath then
      let mut qself : Option QSelf := none
      let mut path : Path := .mk false [] lo
      if ← eatLt then
        let (q, p) ← below.parseQPath .pat (← prev).span
        qself := some q
        path := p
      else
        path ← below.parsePath .pat
      if qself.isNone then
        if ← checkOp "!" then
          bump
          let _ ← parseDelimArgs below.depth
          return .macCall path
      if let some form := (← parseRangeEnd) then
        return ← below.parsePatRangeBeginWith (.mk [] (.path qself path) lo) form
      if ← check lbrace then return ← below.parsePatStruct qself path
      if ← check lparen then return ← below.parsePatTupleStruct qself path
      return .path qself path
    let t ← token
    if let .lifetime name false := t.kind then
      if couldBeUnclosedChar name then
        if !(← lookAhead 1 (· == .op ":")) then
          bump
          let after ← token
          emit ("expected " ++ expected.text ++ ", found " ++ after.kind.describe) after.span
          return .lit (.mk [] (.lit ("'" ++ name ++ "'")) t.span)
    match ← attempt parseLiteralMaybeMinus with
    | .ok lit =>
      if let some form := (← parseRangeEnd) then return ← below.parsePatRangeBeginWith lit form
      return .lit lit
    | .error _ =>
      let t ← token
      throw ⟨"expected " ++ expected.text ++ ", found " ++ t.kind.describe, t.span, false⟩
  parsePatDeref expected := do
    let lo := (← token).span
    expectAnd
    let t ← token
    if t.kind.isLifetime then
      bump
      emit ("unexpected lifetime `" ++ t.kind.text ++ "` in pattern") t.span
    let m ← parseMutability
    let sub ← below.parsePatWithRangePat false expected false
    return .ref m sub lo
  parsePatTupleOrParens := do
    let openSpan := (← token).span
    let (fields, trailing) ← parenSeq (below.parsePatAllowTopGuard .pattern false) below.depth
    match fields, trailing with
    | [p], false =>
      match p with
      | .rest => return .tuple [p]
      | .lit begin =>
        if let some form := (← parseRangeEnd) then
          emit "range pattern bounds cannot have parentheses" openSpan
          return ← below.parsePatRangeBeginWith begin form
        return .paren p openSpan
      | .err =>
        if let some form := (← parseRangeEnd) then
          emit "range pattern bounds cannot have parentheses" openSpan
          return ← below.parsePatRangeBeginWith (errExpr openSpan) form
        return .paren p openSpan
      | _ => return .paren p openSpan
    | _, _ => return .tuple fields
  parsePatIdentMut := do
    let mutSpan := (← prev).span
    recoverAdditionalMuts below.depth
    let byRef ← if ← eatKw "ref" then some <$> parseMutability else pure none
    recoverAdditionalMuts below.depth
    let pat ← below.parsePatNoTopAlt .identifier
    match pat with
    | .ident none false name sub => return .ident byRef true name sub
    | _ =>
      let (p, changed) := pat.makeBindingsMutable 256
      emit (if changed then "`mut` must be attached to each individual binding"
        else "`mut` must be followed by a named binding") mutSpan
      return p
  parsePatIdent byRef mutable isParam := do
    let ident ← parseIdentCommon false
    if !isParam && (← kind) == .op "<" then
      if ← lookAhead 1 Kind.canBeginType then
        throw ⟨"generic args in patterns require the turbofish syntax", (← token).span, false⟩
    let sub ← if ← eatOp "@" then some <$> below.parsePatNoTopAlt .bindingPattern else pure none
    if (← kind) == lparen then
      throw ⟨"expected identifier, found enum pattern", (← prev).span, false⟩
    return .ident byRef mutable ident sub
  parsePatBox := do
    let boxSpan := (← prev).span
    let k ← kind
    let noPattern := k == .op "=" || k == .op ":" || k == .op "," || k == .op ";" ||
      k == .op "@" || k == lbrace || k == rbrace || k == rparen
    if noPattern then
      emit ("expected pattern, found " ++ k.describe) (← token).span
      let sub ← if ← eatOp "@" then some <$> below.parsePatNoTopAlt .bindingPattern else pure none
      return .ident none false ⟨"box", false, boxSpan⟩ sub
    let p ← below.parsePatWithRangePat false .pattern false
    return .boxPat p
  parsePatStruct qself path := do
    bump
    let mut fields : List FieldPat := []
    let mut rest := true
    match ← attempt (below.parsePatFields [] false true none) with
    | .ok (fs, r) =>
      fields := fs
      rest := r
    | .error e =>
      emitDiag e
      recoverStmt false false below.depth
    bump
    return .structPat qself path fields rest
  parsePatFields acc etc0 ateComma0 delayed0 := do
    if (← kind) == rbrace then
      if let some d := delayed0 then emitDiag d
      return (acc.reverse, etc0)
    if !ateComma0 then
      let t ← token
      let mut err : Diag := ⟨"expected `,`", t.span, false⟩
      if t.kind == .op "@" then
        let sp := match acc with
          | .mk name _ _ :: _ => name.span
          | [] => t.span
        if ← lookAhead 1 (· == .op "..") then
          err := ⟨"`@ ..` is not supported in struct patterns", sp, false⟩
        else err := ⟨"Unexpected `@` in struct pattern", sp, false⟩
      if let some d := delayed0 then emitDiag d
      throw err
    let mut etc := etc0
    let mut delayed := delayed0
    let mut isEtc ← checkOp ".."
    if !isEtc then isEtc := (← kind) == .op "..."
    if !isEtc then isEtc ← checkKw "_"
    if isEtc then
      etc := true
      let t ← token
      if t.kind != .op ".." then
        emit ("expected field pattern, found `" ++ t.kind.text ++ "`") t.span
      bump
      if (← kind) == rbrace then
        if let some d := delayed then emitDiag d
        return (acc.reverse, true)
      let t2 ← token
      let err : Diag := ⟨"expected `\x7d`, found " ++ t2.kind.describe, t2.span, false⟩
      let mut ate := false
      if t2.kind == .op "," then
        bump
        ate := true
      if (← kind) == rbrace then
        emitDiag err
        if let some d := delayed then emitDiag d
        return (acc.reverse, true)
      if (← kind).isIdent && ate then
        match delayed with
        | some d =>
          emitDiag d
          throw err
        | none => delayed := some err
      else
        if let some d := delayed then emitDiag d
        throw err
    let attrs ← match ← attempt (below.parseOuterAttributes) with
      | .ok a => pure a
      | .error e => do
        if let some d := delayed then emitDiag d
        throw e
    match ← attempt (below.parsePatField attrs) with
    | .ok f =>
      let ate ← eatOp ","
      below.parsePatFields (f :: acc) etc ate delayed
    | .error e =>
      if let some d := delayed then emitDiag d
      throw e
  parsePatField _ := do
    if ← lookAhead 1 (· == .op ":") then
      let name ← parseFieldName
      bump
      let pat ← below.parsePatAllowTopGuard .pattern false
      return .mk name pat false
    let isBox ← eatKw "box"
    let mutable ← parseMutability
    let byRef ← if ← eatKw "ref" then some <$> parseMutability else pure none
    let name ← parseFieldName
    let p := Pat.ident byRef mutable name none
    return .mk name (if isBox then .boxPat p else p) true
  parsePatTupleStruct qself path := do
    let (fields, _) ← parenSeq (below.parsePatAllowTopGuard .pattern false) below.depth
    return .tupleStruct qself path fields
  parsePatRangeTo form reSpan := do
    let stop ← below.parsePatRangeEnd
    if form == .includedDots then
      emit "range-to patterns with `...` are not allowed" reSpan
      return .range none (some stop) .included reSpan
    return .range none (some stop) form reSpan
  parsePatRangeBeginWith begin form := do
    let opSpan := (← prev).span
    if ← isPatRangeEndStart below.depth 0 then
      let stop ← below.parsePatRangeEnd
      return .range (some begin) (some stop) form opSpan
    if form != .excluded then inclusiveRangeWithIncorrectEnd
    return .range (some begin) none form opSpan
  parsePatRangeEnd := do
    let openParen ← eatQuiet lparen
    let openSpan := (← prev).span
    let mut bound := errExpr openSpan
    if ← checkInlineConst 0 then
      bound ← below.parseConstBlock (← token).span
    else if ← checkPath then
      let lo := (← token).span
      if ← eatLt then
        let (q, p) ← below.parseQPath .pat (← prev).span
        bound := .mk [] (.path (some q) p) lo
      else
        let p ← below.parsePath .pat
        bound := .mk [] (.path none p) lo
    else
      bound ← parseLiteralMaybeMinus
    if openParen then
      expect rparen
      emit "range pattern bounds cannot have parentheses" openSpan
    return bound

end LoxFront.Code
