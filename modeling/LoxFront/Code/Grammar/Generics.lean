import LoxFront.Code.Grammar.Parsers
/-!
Visibility, the generic parameters and `where` clause of an item, and the fields of structs.
-/
namespace LoxFront.Code

open LoxFront.Schema (Span Delimiter)
open Parse

/-- Visibility, the generic parameters and `where` clause of an item, and the fields of structs,
read with `below` for what they contain. -/
def Grammar.genericsParsers (below : Grammar) : GenericsParsers where
  parseVisibility typeMayFollow := do
    if !(← eatKw "pub") then return .inherited
    let lo := (← prev).span
    if ← check lparen then
      if ← lookAhead 1 (·.isKeyword "in") then
        bump
        bump
        let path ← below.parsePath .mod
        expect rparen
        return .restricted path false lo
      let short ← lookAhead 1 fun k =>
        k.isKeyword "crate" || k.isKeyword "super" || k.isKeyword "self"
      if short then
        if ← lookAhead 2 (· == rparen) then
          bump
          let path ← below.parsePath .mod
          expect rparen
          return .restricted path true lo
      if !typeMayFollow then
        bump
        let path ← below.parsePath .mod
        expect rparen
        emit "incorrect visibility restriction" path.span
    return .pub lo
  parseGenerics := do
    if (← kind) == .op "::" then
      bump
      emit "invalid path separator in function definition" (← prev).span
    if ← eatLt then
      let ps ← below.parseItemGenericParams []
      expectGt
      return ps
    return []
  parseItemGenericParams acc := do
    let attrs ← below.parseOuterAttributes
    if (← kind).isKeyword "Self" then
      bump
      emit "unexpected keyword `Self` in generic parameters" (← prev).span
      let _ ← eatOp ","
    let param ← do
      if ← checkLifetime then
        let name ← expectLifetime
        let bounds ← if ← eatOp ":" then parseLtParamBounds below.depth [] else pure []
        if (← kind) == .op "=" then
          if ← lookAhead 1 Kind.isLifetime then
            let eqSpan := (← token).span
            bump
            bump
            emit "unexpected default lifetime parameter" eqSpan
        pure (some (GenericParam.lifetime attrs name bounds))
      else if ← checkKw "const" then pure (some (← below.parseConstParam attrs))
      else if ← checkIdent then pure (some (← below.parseTyParam attrs))
      else if (← kind).canBeginType then
        let snap ← snapshot
        let lo := (← token).span
        match ← attempt (below.parseTyWherePredicate) with
        | .ok _ => emit "bounds on associated types do not belong here" lo
        | .error _ => restore snap
        pure none
      else
        if let some a := attrs.head? then
          if acc.isEmpty then emit "attribute without generic parameters" (attrSpan a)
          else emit "trailing attribute after generic parameter" (attrSpan a)
        pure none
    match param with
    | none => return acc.reverse
    | some p =>
      if ← eatOp "," then below.parseItemGenericParams (p :: acc)
      else return (p :: acc).reverse
  parseTyParam attrs := do
    let name ← parseIdent
    if name.name.map Char.toLower == "const" then
      if ← checkIdent then
        let constName ← parseIdent
        expect (.op ":")
        let ty ← below.parseTy
        let default ← if ← eatOp "=" then some <$> below.parseConstArg else pure none
        emit ("`const` keyword was mistyped as `" ++ name.name ++ "`") name.span
        return .const attrs constName ty default
    let bounds ← do
      if ← eatOp ":" then
        if (← kind).isKeyword "impl" then
          let implSpan := (← token).span
          let snap ← snapshot
          match ← attempt (below.parseTy) with
          | .ok (.implTrait ..) => fail "expected trait bound, found `impl Trait` type" implSpan
          | _ => restore snap
        below.parseGenericBounds
      else pure []
    let default ← if ← eatOp "=" then some <$> below.parseTy else pure none
    return .type attrs name bounds default
  parseConstParam attrs := do
    expectKw "const"
    let name ← parseIdent
    expect (.op ":")
    let ty ← below.parseTy
    let default ← if ← eatOp "=" then some <$> below.parseConstArg else pure none
    return .const attrs name ty default
  parseWhereClause := do
    if !(← eatKw "where") then return (false, [])
    if ← chooseGenericsOverQPath 0 then
      let lo := (← token).span
      let _ ← below.parseGenerics
      emit "generic parameters on `where` clauses are reserved for future use" lo
    return (true, ← below.parseWherePredicates [])
  parseWherePredicates acc := do
    let _ ← below.parseOuterAttributes
    let region ← do
      if ← checkLifetime then lookAhead 1 (fun t => !t.isLikePlus) else pure false
    let pred ← do
      if region then
        let lt ← expectLifetime
        expect (.op ":")
        pure (some (WherePredicate.region lt (← parseLtParamBounds below.depth [])))
      else if ← checkType then pure (some (← below.parseTyWherePredicate))
      else pure none
    match pred with
    | none => return acc.reverse
    | some p =>
      let ateComma ← eatOp ","
      if (← kind).isKeyword "where" then
        bump
        emit "cannot define duplicate `where` clauses on an item" (← token).span
        below.parseWherePredicates (p :: acc)
      else if ateComma then below.parseWherePredicates (p :: acc)
      else return (p :: acc).reverse
  parseTyWherePredicate := do
    let binder ← below.parseLateBoundLifetimes
    let lo := (← token).span
    let ty ← below.parseTyMode { recoverReturnSign := 1 }
    if ← eatOp ":" then return .bound binder ty (← below.parseGenericBounds)
    let eq ← do if ← eatOp "=" then pure true else eatOp "=="
    if eq then return .eq ty (← below.parseTy) lo
    unexpected
  parseRecordBody adt parsedWhere := do
    if ← eat lbrace then
      let fields ← below.parseRecordFields adt []
      expect rbrace
      return fields
    let t ← token
    let whereText := if parsedWhere then "" else "`where`, or "
    fail ("expected " ++ whereText ++ "`\x7b` after struct name, found " ++ t.kind.describe) t.span
  parseRecordFields adt acc := do
    let k ← kind
    if k == rbrace || k == .eof then return acc.reverse
    match ← attempt (below.parseRecordField adt) with
    | .ok f => below.parseRecordFields adt (f :: acc)
    | .error e =>
      consumeBlock lbrace rbrace false below.depth
      emitDiag e
      return acc.reverse
  parseRecordField adt := do
    let attrs ← below.parseOuterAttributes
    let lo := (← token).span
    let vis ← below.parseVisibility false
    let name ← below.parseFieldIdent adt lo
    match ← attempt (expect (.op ":")) with
    | .ok () => pure ()
    | .error err =>
      let k ← kind
      let typo ← if k == .op "=" || k == .op ";" then lookAhead 1 Kind.isPathStart else pure false
      if typo then
        bump
        emitDiag err
      else throw err
    let ty ← below.parseTy
    if (← kind) == .op ":" then
      emit "found single colon in a struct field type path" (← token).span
    let default ← do
      if (← kind) == .op "=" then
        bump
        pure (some (← below.parseExpr))
      else pure none
    let t ← token
    if t.kind == .op "," then bump
    else if t.kind != rbrace then
      let p ← prev
      let err : Diag := ⟨"expected `,`, or `\x7d`, found " ++ t.kind.describe,
        p.span.after p.kind.text.length, false⟩
      let attrNext ← if t.kind == .op "#" then lookAhead 1 (· == lbracket) else pure false
      if t.kind.isIdent || attrNext then emitDiag err else throw err
    return .mk attrs vis (some name) ty default
  parseFieldIdent adt lo := do
    let t ← token
    if !t.kind.isReservedIdent then return ← parseIdent
    let snap ← snapshot
    if ← checkFnFrontMatter then
      match ← attempt (below.parseFnItem true) with
      | .ok _ => fail ("functions are not allowed in " ++ adt ++ " definitions") lo
      | .error _ =>
        restore snap
        throw (expectedIdentFound t)
    if ← eatKw "struct" then
      match ← attempt (below.parseItemStruct) with
      | .ok _ => fail ("structs are not allowed in " ++ adt ++ " definitions") lo
      | .error _ =>
        restore snap
        throw (expectedIdentFound t)
    if t.kind.isKeyword "let" then
      bump
      match ← attempt (parseIdentCommon false) with
      | .ok i =>
        if (← kind) == .op ":" then
          emitDiag (expectedIdentFound t)
          return i
      | .error _ => pure ()
      restore snap
    throw (expectedIdentFound t)
  parseTupleBody := return (← parenSeq (below.parseTupleField) below.depth).1
  parseTupleField := do
    let attrs ← below.parseOuterAttributes
    let vis ← below.parseVisibility true
    let ty ← below.parseTy
    let mut default := none
    if (← kind) == .op "=" then
      let snap ← snapshot
      bump
      match ← attempt (below.parseExpr) with
      | .ok e => default := some e
      | .error _ => restore snap
    return .mk attrs vis none ty default

end LoxFront.Code
