import LoxFront.Code.Grammar.Parsers
/-!
Attributes, types, and the parameters and return types of functions.
-/
namespace LoxFront.Code

open LoxFront.Schema (Span Delimiter)
open Parse

/-- Attributes, types, and the parameters and return types of functions, read with `below` for what
they contain. -/
def Grammar.tyParsers (below : Grammar) : TyParsers where
  parseOuterAttributes := do
    if !(← checkOp "#") then return []
    let before ← snapshot
    let inner ← below.parseAttribute
    let after ← snapshot
    let toks := consumedBetween before after
    let more ← below.parseOuterAttributes
    return if inner then more else toks :: more
  parseInnerAttributes := do
    if !(← checkOp "#") then return []
    if !(← lookAhead 1 (· == .op "!")) then return []
    let before ← snapshot
    let _ ← below.parseInnerAttribute
    let after ← snapshot
    let toks := consumedBetween before after
    let more ← below.parseInnerAttributes
    return toks :: more
  parseInnerAttribute := do
    bump
    let _ ← eatOp "!"
    expect lbracket
    below.parseAttrItem
    expect rbracket
  parseAttribute := do
    let lo := (← token).span
    bump
    let inner ← eatOp "!"
    expect lbracket
    below.parseAttrItem
    expect rbracket
    if inner then emit "an inner attribute is not permitted in this context" lo
    return inner
  parseAttrItem := do
    let isUnsafe ← eatKw "unsafe"
    if isUnsafe then expect lparen
    let _ ← below.parsePath .mod
    if ← check lparen then
      let _ ← skipTree below.depth
    else if ← check lbracket then
      let _ ← skipTree below.depth
    else if ← check lbrace then
      let _ ← skipTree below.depth
    else if ← eatOp "=" then
      let _ ← below.parseExpr
    if isUnsafe then expect rparen
  parseTy := below.parseTyMode {}
  parseTyNoPlus := below.parseTyMode { allowPlus := false }
  parseTyMode mode := do
    let lo := (← token).span
    let (ty, multi) ← below.parseTyKind mode lo
    if mode.allowPlus then
      if (← kind).isLikePlus then
        let _ ← below.parseGenericBounds
        emit "expected a path on the left-hand side of `+`" lo
    else if multi then
      emit "ambiguous `+` in a type" lo
    let mut ty := ty
    if mode.recoverQuestion && (← kind) == .op "?" then
      bump
      emit "invalid `?` in type" (← prev).span
      ty := .err
    if mode.recoverQPath && (← kind) == .op "::" then
      expect (.op "::")
      let segs ← below.parsePathSegments .type []
      emit "missing angle brackets in associated item path" lo
      return .path (some (.mk ty 0)) (.mk false segs lo)
    return ty
  parseTyKind mode lo := do
    if ← check lparen then return (← below.parseTyTupleOrParens lo mode.allowPlus, false)
    if ← eatOp "!" then return (.never, false)
    if ← eatOp "*" then return (← below.parseTyPtr, false)
    if ← eat lbracket then return (← below.parseArrayOrSliceTy, false)
    let isAnd ← checkOp "&"
    let isAndAnd ← if isAnd then pure false else checkOp "&&"
    if isAnd || isAndAnd then
      expectAnd
      return (← below.parseBorrowedPointee, false)
    if ← eatKw "_" then return (.infer, false)
    if ← checkFnFrontMatter then return (← below.parseTyBareFn [] mode.recoverReturnSign, false)
    if ← checkKw "for" then
      let binder ← below.parseLateBoundLifetimes
      if ← checkFnFrontMatter then
        return (← below.parseTyBareFn binder mode.recoverReturnSign, false)
      let k ← kind
      if k.isKeyword "impl" || k.isKeyword "dyn" then
        let kwTok ← token
        bump
        let path ← below.parsePath .type
        let parsePlus ← if mode.allowPlus then checkPlus else pure false
        let t ← below.parseRemainingBoundsPath binder path lo parsePlus false
        emit ("`for<...>` expected after `" ++ kwTok.kind.text ++ "`, not before") kwTok.span
        match t with
        | .traitObject _ bounds =>
          if kwTok.kind.isKeyword "dyn" then return (.traitObject true bounds, false)
          return (.implTrait bounds lo, false)
        | _ => return (t, false)
      let path ← below.parsePath .type
      let parsePlus ← if mode.allowPlus then checkPlus else pure false
      return (← below.parseRemainingBoundsPath binder path lo parsePlus false, false)
    if ← eatKw "impl" then return ← below.parseImplTy lo
    if ← checkKw "dyn" then return ← below.parseDynTy
    if ← eatLt then
      let (q, p) ← below.parseQPath .type (← prev).span
      return (.path (some q) p, false)
    if ← checkPath then return (← below.parsePathStartTy lo mode.allowPlus, false)
    if ← canBeginBound then return (← below.parseBareTraitObject lo mode.allowPlus, false)
    if ← eatOp "..." then
      if mode.allowCVariadic then return (.cVarArgs, false)
      emit "C-variadic type `...` may not be nested inside another type" lo
      return (.err, false)
    fail ("expected type, found " ++ (← kind).describe) lo
  parseTyTupleOrParens lo allowPlus := do
    let (elems, trailing) ← parenSeq (do
      let t ← below.parseTy
      let plus := (← prev).kind == .op "+"
      pure (t, plus)) below.depth
    match elems, trailing with
    | [(ty, trailingPlus)], false =>
      let maybeBounds := allowPlus && (← kind).isLikePlus
      match ty with
      | .path none path =>
        if maybeBounds then below.parseRemainingBoundsPath [] path lo true true
        else return .paren ty lo
      | .traitObject false [b] =>
        if maybeBounds && !trailingPlus then below.parseRemainingBounds [b] true
        else return .paren ty lo
      | _ => return .paren ty lo
    | _, _ => return .tuple (elems.map (·.1))
  parseTyPtr := do
    let mut mutable := false
    if ← eatKw "mut" then mutable := true
    else if ← eatKw "const" then mutable := false
    else emit "expected `mut` or `const` keyword in raw pointer type" (← prev).span
    let ty ← below.parseTyNoPlus
    return .ptr mutable ty
  parseArrayOrSliceTy := do
    let elt ← match ← attempt (below.parseTy) with
      | .ok t => pure t
      | .error e => do
        let close ← lookAhead 1 (· == rbracket)
        let semi ← lookAhead 1 (· == .op ";")
        if close || semi then
          bump
          emitDiag e
          pure Ty.err
        else throw e
    if ← eatOp ";" then
      let len ← below.parseExpr
      match ← attempt (expect rbracket) with
      | .ok () => return .array elt len
      | .error e =>
        let len ← below.recoverTurbofishInLength e len
        expect rbracket
        return .array elt len
    if ← eat rbracket then return .slice elt
    let t ← token
    let err : Diag := ⟨"expected `;` or `]`, found " ++ t.kind.describe, t.span, false⟩
    let snap ← snapshot
    let ateComma ← eatOp ","
    let ateColon ← if ateComma then pure false else eatOp ":"
    if !ateComma && !ateColon then
      let _ ← eatOp "*"
    match ← attempt (below.parseExpr) with
    | .error _ =>
      restore snap
      throw err
    | .ok len =>
      match ← attempt (expect rbracket) with
      | .error _ =>
        restore snap
        throw err
      | .ok () =>
        emitDiag err
        return .array elt len
  recoverTurbofishInLength e len := do
    match len.kind with
    | .binary .lt _ _ _ =>
      if ← eatOp "," then
        let res ← attempt (commaSeq (do
          match ← below.parseGenericArg with
          | some a => pure a
          | none => unexpected) (.op ">") [] below.depth)
        match res with
        | .ok _ =>
          if ← eatOp ">" then
            match ← attempt (below.parseExpr) with
            | .ok _ =>
              emitDiag e
              return errExpr len.span
            | .error _ => throw e
          throw e
        | .error _ => throw e
      throw e
    | _ => throw e
  parseBorrowedPointee := do
    let andSpan := (← prev).span
    let mut lifetime : Option Ident := none
    if ← checkLifetime then lifetime := some (← expectLifetime)
    let mut mutable ← parseMutability
    let k ← kind
    if k.isLifetime && mutable && lifetime.isNone then
      if !(← lookAhead 1 Kind.isLikePlus) then
        emit "lifetime must precede `mut`" andSpan
        lifetime := some (← expectLifetime)
    else if k.isKeyword "dyn" && !mutable then
      if ← lookAhead 1 (·.isKeyword "mut") then
        emit "`mut` must precede `dyn`" andSpan
        mutable := true
        let dynTok ← token
        bump
        bump
        modify fun c => { c with rest := c.token :: c.rest, token := dynTok }
    let ty ← below.parseTyNoPlus
    return .ref lifetime mutable ty andSpan
  parseTyBareFn binder sign := do
    if !(← checkConstClosure) then
      if !(← lookAhead 1 (· == lbrace)) then
        if ← eatKw "const" then emit "an `fn` pointer type cannot be `const`" (← prev).span
    if ← eatKw "async" then emit "an `fn` pointer type cannot be `async`" (← prev).span
    let safety ← parseSafety
    let abi ← parseExternAbi
    if !(← eatKw "fn") then unexpected
    let params ← below.parseFnParams false
    let output ← below.parseRetTy { allowPlus := false, recoverReturnSign := sign }
    return .fnPtr binder safety abi params output
  parseFnParams reqName := do
    let k ← kind
    if k != lparen && !k.isKeyword "for" then
      emit "missing parameters for function definition" (← prev).span
      return []
    let (ps, _) ← parenSeq (below.parseFnParamRecovering reqName) below.depth
    return dedupRecoveredParams ps
  parseFnParamRecovering reqName := do
    let first := (← prev).kind == lparen
    let snap ← snapshot
    match ← attempt (below.parseParamGeneral reqName first true) with
    | .ok (p, _) => return p
    | .error e =>
      emitDiag e
      let lo := (← prev).span
      restore snap
      eatToTokens [.op ",", rparen] below.depth
      return dummyParam lo
  parseParamGeneral reqName first recoverArgParse := do
    let attrLo := (← token).span
    let attrs ← below.parseOuterAttributes
    let lo := (← token).span
    match ← below.parseSelfParam with
    | some p =>
      if first then return (p.withAttrs attrs, lo)
      emit "unexpected `self` parameter in function" lo
      let mutable := match p with
        | .selfParam _ (.value m) _ => m
        | .selfParam _ (.explicit _ m) _ => m
        | _ => false
      return (.mk attrs (some (.ident none mutable ⟨"self", false, lo⟩ none)) (some .err) attrLo, lo)
    | none => pure ()
    let nameRequired := if (← kind) == .op "..." then false else reqName
    let named ← if nameRequired then pure true else isNamedParam
    if named then
      let (pat, colon) ← below.parseFnParamPatColon
      if !colon then unexpected
      let ty ← below.parseTyMode { allowCVariadic := true }
      return (.mk attrs (some pat) (some ty) attrLo, lo)
    let snap ← snapshot
    let res ← attempt (do
      let t ← below.parseTyMode { allowCVariadic := true }
      let k ← kind
      if k == .op "," || k == rparen then pure t else unexpected)
    match res with
    | .ok t => return (.mk attrs none (some t) attrLo, lo)
    | .error e =>
      if (← kind) == .op "..." then throw e
      if (← get).unmatchedAngles > 0 then throw e
      if !recoverArgParse then throw e
      restore snap
      let patLo := (← token).span
      let _ ← below.parsePatNoTopAlt .argumentName
      expect (.op ":")
      let ty ← below.parseTy
      emit "patterns aren't allowed in methods without bodies" patLo
      return (.mk attrs (some .wild) (some ty) attrLo, lo)
  parseFnParamPatColon := do
    if (← kind) == .op "||" then
      emit "unexpected `||` before function parameter" (← token).span
      bump
    below.parsePatBeforeTy .parameterName false true
  parseSelfParam := do
    let lo := (← token).span
    let isolatedSelf := fun (d : Nat) => do
      if ← lookAhead d (·.isKeyword "self") then lookAhead (d + 1) (· != .op "::")
      else pure false
    let isolatedMutSelf := fun (d : Nat) => do
      if ← lookAhead d (·.isKeyword "mut") then isolatedSelf (d + 1) else pure false
    let k ← kind
    if k == .op "&" then
      let hasLifetime ← lookAhead 1 Kind.isLifetime
      let skip := if hasLifetime then 1 else 0
      let plain ← isolatedSelf (skip + 1)
      let withMut ← if plain then pure false else isolatedMutSelf (skip + 1)
      if !plain && !withMut then return none
      bump
      let lt ← if hasLifetime then some <$> expectLifetime else pure none
      if withMut then bump
      bump
      if (← kind) == .op ":" then
        bump
        let snap ← snapshot
        match ← attempt (below.parseTy) with
        | .ok _ => emit "type not allowed for shorthand `self` parameter" (← prev).span
        | .error _ => restore snap
      return some (.selfParam [] (.region lt withMut) lo)
    if k == .op "*" then
      let plain ← isolatedSelf 1
      let withMut ← do
        if ← lookAhead 1 Kind.isMutability then isolatedSelf 2 else pure false
      if plain || withMut then
        bump
        if withMut then bump
        emit "cannot pass `self` by raw pointer" (← token).span
        bump
        return some (.selfParam [] (.value false) lo)
      return none
    if ← isolatedSelf 0 then
      bump
      if ← eatOp ":" then return some (.selfParam [] (.explicit (← below.parseTy) false) lo)
      return some (.selfParam [] (.value false) lo)
    if ← isolatedMutSelf 0 then
      bump
      bump
      if ← eatOp ":" then return some (.selfParam [] (.explicit (← below.parseTy) true) lo)
      return some (.selfParam [] (.value true) lo)
    return none
  parseRetTy mode := do
    let inner : TyMode := { mode with allowCVariadic := false, recoverQuestion := true }
    if ← eatOp "->" then return some (← below.parseTyMode inner)
    let k ← kind
    if (mode.recoverReturnSign == 2 && (k == .op "=>" || k == .op ":")) ||
        (mode.recoverReturnSign == 1 && k == .op "=>") then
      bump
      emit "return types are denoted using `->`" (← prev).span
      return some (← below.parseTyMode inner)
    return none

end LoxFront.Code
