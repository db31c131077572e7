import LoxFront.Code.Grammar.Parsers
/-!
Items: structs, unions, enums, traits, implementations, functions, constants, statics, type aliases
and modules.
-/
namespace LoxFront.Code

open LoxFront.Schema (Span Delimiter)
open Parse

/-- Items, read with `below` for what they contain. -/
def Grammar.itemParsers (below : Grammar) : ItemParsers where
  parseItemStruct := do
    let name ← parseIdent
    let params ← below.parseGenerics
    if (← kind).isKeyword "where" then
      let (hasWhere, preds) ← below.parseWhereClause
      let generics := Generics.mk params hasWhere preds
      if ← eatOp ";" then return .struct name generics .unit
      return .struct name generics (.record (← below.parseRecordBody "struct" hasWhere))
    let generics := Generics.mk params false []
    if ← eatOp ";" then return .struct name generics .unit
    if (← kind) == lbrace then
      return .struct name generics (.record (← below.parseRecordBody "struct" false))
    if (← kind) == lparen then
      let fields ← below.parseTupleBody
      let (hasWhere, preds) ← below.parseWhereClause
      expectSemi
      return .struct name (.mk params hasWhere preds) (.tuple fields)
    let t ← token
    fail ("expected `where`, `\x7b`, `(`, or `;` after struct name, found " ++ t.kind.describe)
      t.span
  parseItemUnion := do
    let name ← parseIdent
    let params ← below.parseGenerics
    if (← kind).isKeyword "where" then
      let (hasWhere, preds) ← below.parseWhereClause
      return .union name (.mk params hasWhere preds) (← below.parseRecordBody "union" hasWhere)
    if (← kind) == lbrace then
      return .union name (.mk params false []) (← below.parseRecordBody "union" false)
    let t ← token
    fail ("expected `where` or `\x7b` after union name, found " ++ t.kind.describe) t.span
  parseItemEnum := do
    if (← kind).isKeyword "struct" then
      let sp := (← prev).span
      if ← lookAhead 1 Kind.isIdent then
        bump
        emit "`enum` and `struct` are mutually exclusive" sp
      else fail "`enum` and `struct` are mutually exclusive" sp
    let name ← parseIdent
    let params ← below.parseGenerics
    let (hasWhere, preds) ← below.parseWhereClause
    let generics := Generics.mk params hasWhere preds
    if (← kind) == .op ";" then
      emit "expected `\x7b\x7d`, found `;`" (← token).span
      bump
      return .enum name generics []
    match ← attempt (do
        expect lbrace
        let (vs, _) ← commaSeq (below.parseEnumVariant) rbrace [] below.depth
        let _ ← eat rbrace
        pure vs) with
    | .ok vs => return .enum name generics vs.reduceOption
    | .error err =>
      eatToTokens [rbrace] below.depth
      bump
      throw err
  parseEnumVariant := do
    let attrs ← below.parseOuterAttributes
    let vlo := (← token).span
    let vis ← below.parseVisibility false
    let k ← kind
    if k.isKeyword "enum" || k.isKeyword "struct" || k.isKeyword "union" then
      if ← lookAhead 1 Kind.isIdent then
        let kw ← token
        let _ ← below.parseItem
        emit ("`" ++ kw.kind.text ++ "` definition cannot be nested inside `enum`") kw.span
        return none
    let name ← below.parseFieldIdent "enum" vlo
    if (← kind) == .op "!" then
      match ← attempt (unexpected : Parse Unit) with
      | .error e => emitDiag e
      | .ok () => pure ()
      bump
      let _ ← parseDelimArgs below.depth
      return none
    let data ← do
      if ← check lbrace then
        match ← attempt (below.parseRecordBody "struct" false) with
        | .ok fs => pure (VariantData.record fs)
        | .error err =>
          if (← kind) == .op ":" then throw err
          eatToTokens [rbrace] below.depth
          bump
          emitDiag err
          pure (.record [])
      else if ← check lparen then
        match ← attempt (below.parseTupleBody) with
        | .ok fs => pure (.tuple fs)
        | .error err =>
          if (← kind) == .op ":" then throw err
          eatToTokens [rparen] below.depth
          bump
          emitDiag err
          pure (.tuple [])
      else pure .unit
    let disc ← if ← eatOp "=" then some <$> below.parseExpr else pure none
    return some (.mk attrs vis name data disc)
  parseItemTrait lo := do
    let isUnsafe ← eatKw "unsafe"
    let isAuto ← eatKw "auto"
    expectKw "trait"
    let name ← parseIdent
    let params ← below.parseGenerics
    let hadColon ← eatOp ":"
    let colonSpan := (← prev).span
    let bounds ← if hadColon then below.parseGenericBounds else pure []
    if ← eatOp "=" then
      if hadColon then emit "bounds are not allowed on trait aliases" colonSpan
      let bounds ← below.parseGenericBounds
      let (hasWhere, preds) ← below.parseWhereClause
      expectSemi
      if isAuto then emit "trait aliases cannot be `auto`" lo
      if isUnsafe then emit "trait aliases cannot be `unsafe`" lo
      return .traitAlias name (.mk params hasWhere preds) bounds
    let (hasWhere, preds) ← below.parseWhereClause
    let items ← below.parseItemList .trait
    return .trait isUnsafe isAuto name (.mk params hasWhere preds) bounds items
  parseItemImpl := do
    let isUnsafe ← eatKw "unsafe"
    expectKw "impl"
    let params ← if ← chooseGenericsOverQPath 0 then below.parseGenerics else pure []
    if !(← checkConstClosure) then
      if !(← lookAhead 1 (· == lbrace)) then
        let _ ← eatKw "const"
    if (← kind).isKeyword "async" then
      bump
      emit "`async` trait implementations are unsupported" (← prev).span
    let negative ← do
      if ← checkOp "!" then
        if ← lookAhead 1 Kind.canBeginType then
          bump
          pure true
        else pure false
      else pure false
    if (← kind).isKeyword "for" then
      if !(← lookAhead 1 (· == .op "<")) then
        let p ← prev
        fail "missing trait in a trait impl" (p.span.after p.kind.text.length)
    let firstSpan := (← token).span
    let first ← below.parseTy
    let hasFor ← eatKw "for"
    let p ← prev
    let missingFor := p.span.after p.kind.text.length
    let secondSpan := (← token).span
    let second ← do
      if (← kind) == .op ".." then
        bump
        pure (some Ty.err)
      else if hasFor || (← kind).canBeginType then some <$> below.parseTy
      else pure none
    let (hasWhere, preds) ← below.parseWhereClause
    let items ← below.parseItemList .impl
    let generics := Generics.mk params hasWhere preds
    match second with
    | none => return .impl isUnsafe generics negative none first firstSpan items
    | some selfTy =>
      if !hasFor then emit "missing `for` in a trait impl" missingFor
      let path ← match first with
        | .path none path => pure path
        | .implTrait [.trait _ _ _ _ path _ _] sp =>
          emit "unexpected `impl` keyword" sp
          pure path
        | _ => fail "expected a trait, found type" firstSpan
      return .impl isUnsafe generics negative (some path) selfTy secondSpan items
  parseItemList place := do
    if (← kind) == .op ";" then
      emit "expected `\x7b\x7d`, found `;`" (← token).span
      bump
      return []
    expect lbrace
    let _ ← below.parseInnerAttributes
    below.parseItemListItems place []
  parseItemListItems place acc := do
    if ← eat rbrace then return acc.reverse
    match ← attempt (below.parseAssocItem place) with
    | .ok none =>
      let sp := (← token).span
      consumeBlock lbrace rbrace true below.depth
      emit "non-item in item list" sp
      return acc.reverse
    | .ok (some none) => below.parseItemListItems place acc
    | .ok (some (some i)) => below.parseItemListItems place (i :: acc)
    | .error e =>
      consumeBlock lbrace rbrace true below.depth
      emitDiag e
      return acc.reverse
  parseAssocItem place := do
    let attrs ← below.parseOuterAttributes
    match ← below.parseItemCommon attrs place with
    | none => return none
    | some (.mk a vis kind sp) =>
      match kind with
      | .fn .. | .const .. | .tyAlias .. => return some (some (.mk a vis kind sp))
      | .static _ _ name ty value =>
        emit "associated `static` items are not allowed" sp
        return some (some (.mk a vis (.const name (.mk [] false []) ty value) sp))
      | other =>
        emit (other.descr ++ " is not supported in `trait`s or `impl`s") sp
        return some none
  parseItem := do
    let attrs ← below.parseOuterAttributes
    below.parseItemCommon attrs .module
  parseModItems acc := do
    skipStraySemicolons below.depth
    match ← below.parseItem with
    | some i => below.parseModItems (i :: acc)
    | none =>
      if ← eat rbrace then return acc.reverse
      let t ← token
      fail ("expected item, found " ++ t.kind.describe) t.span
  parseItemCommon attrs place := do
    let lo := (← token).span
    let vis ← below.parseVisibility false
    let isPub := match vis with
      | .pub _ => true
      | _ => false
    match ← below.parseItemKind place lo isPub with
    | some kind => return some (.mk attrs vis kind lo)
    | none =>
      if let some sp := vis.span? then
        emit ("visibility `" ++ vis.text ++ "` is not followed by an item") sp
      if place != .block then
        if let some a := attrs.getLast? then fail "expected item after attributes" (attrSpan a)
      return none
  parseItemKind place lo isPub := do
    if ← checkItemFnFrontMatter then return some (← below.parseFnItem (place != .trait))
    let k ← kind
    if k.isKeyword "static" then
      let closure ← lookAhead 1 fun t =>
        t.isKeyword "move" || t.isKeyword "use" || t == .op "|" || t == .op "||"
      if !closure then
        bump
        let mutable ← eatKw "mut"
        return some (← below.parseStaticItem false mutable)
    if k.isKeyword "unsafe" || k.isKeyword "safe" then
      if ← lookAhead 1 (·.isKeyword "static") then
        bump
        bump
        let mutable ← eatKw "mut"
        return some (← below.parseStaticItem (k.isKeyword "unsafe") mutable)
    if ← checkTraitFrontMatter then return some (← below.parseItemTrait lo)
    if ← checkImplFrontMatter then return some (← below.parseItemImpl)
    if k.isKeyword "const" then
      if !(← checkConstClosure) then
        if !(← lookAhead 1 (· == lbrace)) then
          bump
          let constSpan := (← prev).span
          if ← eatKw "mut" then emit "const globals cannot be mutable" (← prev).span
          else if ← eatKw "let" then emit "`const` and `let` are mutually exclusive" constSpan
          below.recoverMissingKeyword false true
          return some (← below.parseConstItem)
    if ← eatKw "mod" then return some (← below.parseItemMod)
    if ← eatKw "type" then return some (← below.parseTypeAlias)
    if ← eatKw "enum" then return some (← below.parseItemEnum)
    if ← eatKw "struct" then return some (← below.parseItemStruct)
    if k.isKeyword "union" then
      if ← lookAhead 1 Kind.isPlainIdent then
        bump
        return some (← below.parseItemUnion)
    if isPub then
      if ← checkIdent then
        if ← lookAhead 1 (fun t => t != .op "!" && t != .op "::") then
          below.recoverMissingKeyword true false
    return none
  recoverMissingKeyword afterPub afterConst := do
    let identSpan := (← token).span
    let pubSpan := (← prev).span
    let span := if afterPub then pubSpan else identSpan
    let named ← do
      if !(← kind).isIdent then pure false
      else if afterConst then lookAhead 1 (· == lparen)
      else lookAhead 1 fun t => t == .op "<" || t == lbrace || t == lparen
    if !named then return
    let _ ← parseIdent
    let mut generics := false
    if ← checkOp "<" then
      generics := true
      eatToTokens [.op ">"] below.depth
      bump
    if ← check lbrace then
      let message ← do
        if ← lookAhead 1 (· == rbrace) then
          pure "missing `enum` or `struct` for enum or struct definition"
        else if (← lookAhead 2 (· == .op ":")) || (← lookAhead 3 (· == .op ":")) then
          pure "missing `struct` for struct definition"
        else pure "missing `enum` for enum definition"
      fail message span
    if ← check lparen then
      bump
      let snap ← snapshot
      let isMethod ← match ← attempt (do
          let _ ← below.parseOuterAttributes
          below.parseSelfParam) with
        | .ok (some _) => pure true
        | _ => pure false
      if !isMethod then restore snap
      consumeBlock lparen rparen true below.depth
      if (← checkOp "->") || (← check lbrace) then
        eatToTokens [lbrace] below.depth
        bump
        consumeBlock lbrace rbrace true below.depth
        if isMethod then fail "missing `fn` for method definition" span
        fail "missing `fn` for function definition" span
      if afterPub then
        if ← checkOp ";" then fail "missing `struct` for struct definition" span
      fail "missing `fn` or `struct` for function or struct definition" span
    if generics then fail "missing `fn` or `struct` for function or struct definition" span
  parseFnItem reqBody := do
    let fnSpan := (← token).span
    let header ← parseFnFrontMatter
    let name ← parseIdent
    let params ← below.parseGenerics
    let decl ← attempt (do
      let inputs ← below.parseFnParams true
      let output ← below.parseRetTy {}
      pure (inputs, output))
    let (inputs, output) ← match decl with
      | .ok d => pure d
      | .error e =>
        if (← kind).isKeyword "for" then
          fail "you might have meant to write `impl` instead of `fn`" fnSpan
        throw e
    let (hasWhere, preds) ← below.parseWhereClause
    let body ← below.parseFnBody reqBody
    return .fn header name (.mk params hasWhere preds) inputs output body
  parseFnBody reqBody := do
    let hasSemi ← if reqBody then pure ((← kind) == .op ";") else checkOp ";"
    if hasSemi then
      expectSemi
      return none
    if ← check lbrace then
      let (_, blk) ← below.parseBlockCommon (← token).span false
      return some blk
    if (← kind) == .op "=" then
      bump
      let eqSpan := (← prev).span
      let _ ← below.parseExpr
      expectSemi
      emit "function body cannot be `= expression;`" eqSpan
      return some (.mk [.expr (errExpr eqSpan)])
    let expected := if reqBody then [lbrace] else [.op ";", lbrace]
    match ← attempt (notFound [] expected : Parse Unit) with
    | .error err =>
      if (← kind) == rbrace then
        emitDiag err
        return none
      throw err
    | .ok () => return none
  parseConstItem := do
    let name ← do
      if (← kind) == .ident "_" false then
        bump
        pure (Ident.mk "_" false (← prev).span)
      else parseIdent
    let params ← below.parseGenerics
    let colon ← eatOp ":"
    let eqNext ← checkOp "="
    let semiNext ← checkOp ";"
    let ty ← do
      if colon && !eqNext && !semiNext then below.parseTy
      else
        let p ← prev
        stash "missing type for `const` item" (p.span.after p.kind.text.length)
        pure Ty.infer
    let (hasWhere, preds) ← below.parseWhereClause
    let value ← if ← eatOp "=" then some <$> below.parseExpr else pure none
    let (hasWhere', preds') ← below.parseWhereClause
    expectSemi
    return .const name (.mk params (hasWhere || hasWhere') (preds ++ preds')) ty value
  parseStaticItem isUnsafe mutable := do
    let name ← parseIdent
    if (← kind) == .op "<" then
      let lo := (← token).span
      let _ ← below.parseGenerics
      emit "static items may not have generic parameters" lo
    let colon ← eatOp ":"
    let eqNext ← checkOp "="
    let semiNext ← checkOp ";"
    let ty ← do
      if colon && !eqNext && !semiNext then below.parseTy
      else
        let p ← prev
        let what := if mutable then "static mut" else "static"
        stash ("missing type for `" ++ what ++ "` item") (p.span.after p.kind.text.length)
        pure Ty.infer
    let value ← if ← eatOp "=" then some <$> below.parseExpr else pure none
    expectSemi
    return .static isUnsafe mutable name ty value
  parseTypeAlias := do
    let name ← parseIdent
    let params ← below.parseGenerics
    let bounds ← if ← eatOp ":" then below.parseGenericBounds else pure []
    let (hasWhere, preds) ← below.parseWhereClause
    let ty ← if ← eatOp "=" then some <$> below.parseTy else pure none
    let (hasWhere', preds') ← below.parseWhereClause
    expectSemi
    return .tyAlias name (.mk params (hasWhere || hasWhere') (preds ++ preds')) bounds ty
  parseItemMod := do
    let name ← parseIdent
    if ← eatOp ";" then return .mod name none
    expect lbrace
    let _ ← below.parseInnerAttributes
    return .mod name (some (← below.parseModItems []))

end LoxFront.Code
