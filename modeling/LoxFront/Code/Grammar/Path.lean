import LoxFront.Code.Grammar.Parsers
/-!
Trait objects and bounds, generic parameters, paths and the generic arguments of their segments.
-/
namespace LoxFront.Code

open LoxFront.Schema (Span Delimiter)
open Parse

/-- Trait objects and bounds, generic parameters, paths and the generic arguments of their segments,
read with `below` for what they contain. -/
def Grammar.pathParsers (below : Grammar) : PathParsers where
  parseImplTy lo := do
    let bounds ← below.parseGenericBounds
    let multi := bounds.length > 1 || (← prev).kind == .op "+"
    return (.implTrait bounds lo, multi)
  parseDynTy := do
    bump
    let bounds ← below.parseGenericBounds
    let multi := bounds.length > 1 || (← prev).kind == .op "+"
    return (.traitObject true bounds, multi)
  parsePathStartTy lo allowPlus := do
    let path ← below.parsePath .type
    if ← eatOp "!" then
      let _ ← parseDelimArgs below.depth
      return .macCall path lo
    if allowPlus then
      if ← checkPlus then return ← below.parseRemainingBoundsPath [] path lo true false
    return .path none path
  parseRemainingBoundsPath binder path lo parsePlus parens := do
    below.parseRemainingBounds [.trait binder .never false .positive path parens lo] parsePlus
  parseRemainingBounds bounds plus := do
    if plus then
      let _ ← eatPlus
      let more ← below.parseGenericBounds
      return .traitObject false (bounds ++ more)
    return .traitObject false bounds
  parseBareTraitObject lo allowPlus := do
    let ltNoPlus ← do
      if ← checkLifetime then pure !(← lookAhead 1 Kind.isLikePlus) else pure false
    let bounds ← below.parseGenericBoundsCommon allowPlus []
    if ltNoPlus then emit "lifetimes must be followed by `+` to form a trait object type" lo
    return .traitObject false bounds
  parseGenericBounds := below.parseGenericBoundsCommon true []
  parseGenericBoundsCommon allowPlus acc := do
    let more ← do
      if ← canBeginBound then pure true
      else
        let k ← kind
        pure (k.canBeginType || (k.isReservedIdent && !k.isKeyword "where"))
    if !more then return acc.reverse
    if (← kind).isKeyword "dyn" then
      bump
      emit "invalid `dyn` keyword" (← prev).span
    let b ← below.parseGenericBound
    if !allowPlus then return (b :: acc).reverse
    if !(← eatPlus) then return (b :: acc).reverse
    below.parseGenericBoundsCommon allowPlus (b :: acc)
  parseGenericBound := do
    let leading ← prev
    let lo := (← token).span
    let parens ← eat lparen
    if (← kind).isLifetime then return ← parseLifetimeBound lo parens
    if ← eatKw "use" then
      fail ("expected one of `<`, found " ++ (← kind).describe) (← token).span
    below.parseTraitBound lo parens leading
  parseTraitBound lo parens leading := do
    let binderSpan := (← token).span
    let binder ← below.parseLateBoundLifetimes
    let mods ← parseTraitBoundModifiers
    if !binder.isEmpty && mods.polarity != .positive then
      emit ("`for<...>` binder not allowed with `" ++ mods.polarity.text ++
        "` trait polarity modifier") mods.polaritySpan
    if (← kind).isLifetime then
      let hasConst := match mods.constness with
        | .never => false
        | _ => true
      if hasConst then
        emit ("`" ++ mods.constness.text ++ "` may only modify trait bounds, not lifetime bounds")
          mods.constSpan
      else if mods.polarity != .positive then
        emit ("`" ++ mods.polarity.text ++ "` may only modify trait bounds, not lifetime bounds")
          mods.polaritySpan
      else if let some sp := mods.asyncSpan then
        emit "`async` may only modify trait bounds, not lifetime bounds" sp
      else
        emit "`for<...>` may only modify trait bounds, not lifetime bounds" binderSpan
      return ← parseLifetimeBound lo parens
    let moreSpan := (← token).span
    let more ← below.parseLateBoundLifetimes
    if !more.isEmpty then
      emit "`for<...>` binder should be placed before trait bound modifiers" moreSpan
    let binder := binder ++ more
    let k ← kind
    let path ← do
      if !k.isPathStart && k.canBeginType then
        let tyLo := (← token).span
        let ty ← below.parseTyNoPlus
        let err : Diag := ⟨"expected a trait, found type", tyLo, false⟩
        let viaRef := match ty with
          | .ref .. | .ptr .. => match ty.peelRefs with
            | .path _ p => some p
            | _ => none
          | .implTrait (.trait _ _ _ _ p _ _ :: _) _ => some p
          | _ => none
        match viaRef with
        | some p =>
          emitDiag err
          pure p
        | none => throw err
      else below.parsePath .type
    if parens then
      if (← kind).isLikePlus && leading.kind.isKeyword "dyn" then
        let _ ← below.parseRemainingBounds [] true
        expect rparen
        emit "incorrect parentheses around trait bounds" lo
      else expect rparen
    return .trait binder mods.constness mods.asyncSpan.isSome mods.polarity path parens lo
  parseLateBoundLifetimes := do
    if ← eatKw "for" then
      if !(← eatLt) then unexpected
      let ps ← below.parseGenericParams []
      expectGt
      return ps
    return []
  parseGenericParams acc := do
    let attrs ← below.parseOuterAttributes
    if ← checkLifetime then
      let name ← expectLifetime
      let bounds ← if ← eatOp ":" then parseLtParamBounds below.depth [] else pure []
      if (← kind) == .op "=" then
        if ← lookAhead 1 Kind.isLifetime then
          let eqSpan := (← token).span
          bump
          bump
          emit "unexpected default lifetime parameter" eqSpan
      let p : LifetimeParam := { attrs, name, bounds }
      if ← eatOp "," then return ← below.parseGenericParams (p :: acc)
      else return (p :: acc).reverse
    let _ ← checkKw "const"
    let _ ← checkIdent
    if !attrs.isEmpty then
      if acc.isEmpty then emit "attribute without generic parameters" (← token).span
      else emit "trailing attribute after generic parameter" (← token).span
    return acc.reverse
  parseQPath style lo := do
    let ty ← below.parseTy
    let (global, traitSegs) ← do
      if ← eatKw "as" then
        let p ← below.parsePath .type
        pure (p.global, p.segments)
      else pure (false, [])
    expect (.op ">")
    modify fun c => { c with unmatchedAngles := c.unmatchedAngles - 1 }
    let coupler ← do
      if ← checkOp "::" then lookAhead 1 (fun t => t == lbrace || t == .op "*") else pure false
    if !coupler then
      let colonTypo ← do
        if (← kind) == .op ":" then lookAhead 1 Kind.isPlainIdent else pure false
      if colonTypo then
        bump
        emit "found single colon before projection in qualified path" (← prev).span
      else expect (.op "::")
    let rest ← if coupler then pure [] else below.parsePathSegments style []
    return (.mk ty traitSegs.length, .mk global (traitSegs ++ rest) lo)
  parsePath style := do
    let lo := (← token).span
    let global ← eatOp "::"
    let segs ← below.parsePathSegments style []
    return .mk global segs lo
  parsePathSegments style acc := do
    let seg ← below.parsePathSegment style
    let acc := seg :: acc
    let coupler ← do
      if ← checkOp "::" then lookAhead 1 (fun t => t == lbrace || t == .op "*") else pure false
    if coupler then return acc.reverse
    if ← eatOp "::" then below.parsePathSegments style acc
    else return acc.reverse
  parsePathSegment style := do
    let ident ← parsePathSegmentIdent
    let isArgsStart := fun (k : Kind) =>
      k == .op "<" || k == .op "<<" || k == lparen || k == .op "<-"
    let mut hasArgs := false
    if style == .type then
      addExpected "`<`"
      hasArgs := isArgsStart (← kind)
    if !hasArgs && style != .mod then
      if ← checkOp "::" then hasArgs ← lookAhead 1 isArgsStart
    if !hasArgs then return .mk ident none
    if style == .expr then modify fun c => { c with unmatchedAngles := 0 }
    let _ ← eatOp "::"
    let lo := (← token).span
    if ← eatLt then
      let args ← below.parseAngleArgsRecovering style lo
      match ← attempt expectGt with
      | .ok () => pure ()
      | .error e =>
        if (← kind) == .op ":" then
          if ← lookAhead 1 Kind.isPlainIdent then
            throw ⟨"path separator must be a double colon", (← token).span, false⟩
        throw e
      return .mk ident (some (.angle args lo))
    if (← kind) == lparen then
      if ← lookAhead 1 (· == .op "..") then
        bump
        bump
        expect rparen
        return .mk ident (some (.paren [] none lo))
    let (inputs, _) ← parenSeq (below.parseParenArgParam) below.depth
    let output ← below.parseRetTy { allowPlus := false, recoverQPath := false, recoverReturnSign := 0 }
    return .mk ident (some (.paren inputs output lo))
  parseAngleArgsRecovering style lo := do
    let snap ← snapshot
    match ← attempt (below.parseAngleArgs [] (← token).span) with
    | .ok args => return args
    | .error e =>
      let count := (← get).unmatchedAngles
      if style != .expr || count == 0 then throw e
      let here ← snapshot
      restore snap
      let mut all := true
      for _ in List.range count do
        if all then
          if !(← eatLt) then all := false
      if !all then
        restore here
        throw e
      emit (if count > 1 then "unmatched angle brackets" else "unmatched angle bracket") lo
      below.parseAngleArgs [] (← token).span
  parseParenArgParam := do
    let (p, lo) ← below.parseParamGeneral false false false
    match p with
    | .mk attrs pat ty _ =>
      if pat.isSome then emit "`Trait(...)` syntax does not support named parameters" lo
      if let some .cVarArgs := ty then
        emit "`Trait(...)` syntax does not support c_variadic parameters" lo
      if !attrs.isEmpty then
        emit "`Trait(...)` syntax does not support attributes in parameters" lo
      return ty.getD .err
    | .selfParam .. => return .err
  parseAngleArgs acc argLo := do
    match ← below.parseAngleArg with
    | none => return acc.reverse
    | some arg =>
      let acc := arg :: acc
      if ← eatOp "," then return ← below.parseAngleArgs acc (← token).span
      if (← kind) == .op ";" then
        if ← lookAhead 1 (fun t => t.isIdent || t.isLifetime) then
          let _ ← checkOp ">"
          let err ← errorOf (unexpected : Parse Unit)
          bump
          emitDiag err
          return ← below.parseAngleArgs acc (← token).span
      if !(← kind).endsConstArg then
        let t ← token
        let err : Diag :=
          ⟨"expected one of `,` or `>`, found " ++ t.kind.describe, t.span, false⟩
        match ← attempt (below.recoverConstArg argLo err) with
        | .ok g =>
          let acc' := AngleArg.arg g argLo :: acc.tail
          if ← eatOp "," then return ← below.parseAngleArgs acc' (← token).span
          return acc'.reverse
        | .error _ => return acc.reverse
      return acc.reverse
  parseAngleArg := do
    let lo := (← token).span
    match ← below.parseGenericArg with
    | none => return none
    | some arg =>
      let k ← kind
      let separated := k == .op ":" || k == .op "="
      let checked ← do
        if separated then
          let a ← checkOp ":"
          let b ← checkOp "="
          pure (a || b)
        else pure false
      if separated && checked then
        match arg.constraintHead with
        | none => return some (.arg arg lo)
        | some (binder, ident, genArgs) =>
          if binder then
            throw ⟨"`for<...>` is not allowed on associated type bounds", lo, false⟩
          if ← eatOp ":" then
            let bounds ← below.parseGenericBounds
            return some (.constraint ident genArgs (.bounds bounds))
          bump
          let eqSpan := (← prev).span
          let c ← below.parseAssocEqualityTerm eqSpan
          return some (.constraint ident genArgs c)
      if (← prev).kind.isIdent then
        let here := (← kind).isIdent
        let next ← lookAhead 1 Kind.isIdent
        if here || next then
          let _ ← checkOp ":"
          let _ ← checkOp "="
      return some (.arg arg lo)
  parseAssocEqualityTerm eqSpan := do
    match ← below.parseGenericArg with
    | some (.type t) => return .eqType t
    | some (.const e _) => return .eqConst e
    | some (.lifetime lt) =>
      emit "lifetimes are not permitted in this context" lt.span
      return .eqType .err
    | none => fail "missing type to the right of `=`" (eqSpan.after 1)
  parseGenericArg := do
    let start := (← token).span
    if ← checkLifetime then
      if ← lookAhead 1 (fun t => !t.isLikePlus) then
        return some (.lifetime (← expectLifetime))
    if ← checkConstArg then
      return some (.const (← below.parseConstArg) start)
    if ← checkType then
      let canExpr := (← kind).canBeginExpr
      let snap ← snapshot
      match ← attempt (below.parseTy) with
      | .ok ty =>
        if canExpr && ty.hasErrElement then
          if let some e ← below.recoverUnbracedConstArg snap then
            emit "invalid const generic expression" e.span
            return some (.const (errExpr start) start)
        return some (.type ty)
      | .error err =>
        if canExpr then
          if let some _ ← below.recoverUnbracedConstArg snap then
            emitDiag err
            return some (.const (errExpr start) start)
        return some (← below.recoverConstArg start err)
    if (← kind).isKeyword "const" then
      return some (← below.recoverConstParamDeclaration)
    let snap ← snapshot
    let attrs ← below.parseOuterAttributes
    match ← attempt (below.parseExprRes { constExpr := true } attrs) with
    | .ok e =>
      emit "invalid const generic expression" e.span
      return some (.const (errExpr e.span) e.span)
    | .error _ =>
      restore snap
      return none
  recoverConstParamDeclaration := do
    let start := (← token).span
    let snap ← snapshot
    let decl ← attempt (do
      bump
      let _ ← parseIdentCommon false
      expect (.op ":")
      let _ ← below.parseTy
      if ← eatOp "=" then
        let _ ← below.parseConstArg
      pure ())
    match decl with
    | .ok () =>
      emit "unexpected `const` parameter declaration" start
      return .const (errExpr start) start
    | .error _ =>
      restore snap
      bump
      let err : Diag := ⟨"expected lifetime, type, or constant, found keyword `const`", start, false⟩
      if ← checkConstArg then
        emitDiag err
        return .const (← below.parseConstArg) start
      below.recoverConstArg (← token).span err
  recoverUnbracedConstArg snap := do
    let here ← snapshot
    restore snap
    match ← attempt (below.parseExprRes { constExpr := true } []) with
    | .ok e =>
      let k ← kind
      if k == .op "," || k == .op ">" then return some e
      restore here
      return none
    | .error _ =>
      restore here
      return none
  parseConstArg := do
    if (← kind) == lbrace then
      let lo := (← token).span
      return ← below.parseExprBlock none lo false
    let attrs ← below.parseOuterAttributes
    let e ← below.parseExprRes { constExpr := true } attrs
    if !e.isValidConstArg then
      emit "expressions must be enclosed in braces to be used as const generic arguments" e.span
    return e
  recoverConstArg start err := do
    let k ← kind
    let isOpOrDot := match AssocOp.ofKind k with
      | some (.binary .gt) | some (.binary .lt) | some (.binary .shr) | some (.binary .ge)
      | some .assign | some (.assignOp _) => false
      | some _ => true
      | none => k == .op "."
    let pk := (← prev).kind
    let wasOp := pk == .op "+" || pk == .op ">>" || pk == .op ">"
    if !isOpOrDot && !wasOp then throw err
    let snap ← snapshot
    if isOpOrDot then bump
    let res ← attempt (do
      let attrs ← below.parseOuterAttributes
      below.parseExprRes { constExpr := true } attrs)
    match res with
    | .ok _ =>
      if snap.token.kind == .op "==" then
        emitDiag err
        return .const (errExpr start) start
      let after ← kind
      if after == .op "," || after.endsConstArg then
        emitDiag err
        return .const (errExpr start) start
    | .error _ => pure ()
    restore snap
    throw err

end LoxFront.Code
