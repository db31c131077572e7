import LoxFront.Schema.Syntax.Readers
/-!
Types: paths and their arguments, bounds and trait objects, references, pointers, arrays, tuples and
function pointers.
-/
namespace LoxFront.Schema

/-- Types, read with `below` for what they contain. -/
def Readers.typeReaders (below : Readers) : TypeReaders where
  parseType plus s := do
    if keywordAt s.trees "for" then
      let (binder, s') ← below.parseBinder s
      let tried := afterBinderTried s'.trees
      if tried.length == 8 || keywordAt s'.trees "dyn" then s'.expected tried
      else below.parseTypeAfter plus s (some binder) s'
    else below.parseTypeAfter plus s none s
  parseTypeAfter plus begin binder s := do
    let t := s.trees
    if groupAt t .paren then below.parseParenType plus s
    else if keywordAt t "fn" || keywordAt t "unsafe" || keywordAt t "extern" then
      let (f, s) ← below.parseFnPointer s
      pure ({ trees := binder.getD [] ++ f }, s)
    else if pathStartAt t then
      if keywordAt t "dyn" then
        let (dynTree, s) ← s.tree
        if punctAt s.trees ['*'] then
          let s ← s.punct "*"
          let (_, s) ← below.parseBoundList plus dynTree.span s
          pure ({ trees := begin.treesUntil s }, s)
        else
          let (bounds, s) ← below.parseBoundList plus dynTree.span s
          pure ({ trees := dynTree :: bounds.1 }, s)
      else below.parsePathType plus binder s
    else if groupAt t .bracket then
      let (c, s) ← s.group .bracket
      let opening := groupEnds t
      let (elem, c) ← below.parseType true c
      if punctAt c.trees [';'] then
        let (semi, c) ← c.punctOut ";"
        let (len, c) ← below.parseExpr true c
        release c
        pure ({ trees := [regroup opening (elem.trees ++ semi ++ len.trees)] }, s)
      else
        release c
        pure ({ trees := [regroup opening elem.trees] }, s)
    else if punctAt t ['*'] then
      let (star, s) ← s.punctOut "*"
      let (kind, s) ← if keywordAt s.trees "const" || keywordAt s.trees "mut" then do
          let (k, s) ← s.tree
          pure ([k], s)
        else s.expected ["`const`", "`mut`"]
      let (elem, s) ← below.parseType false s
      pure ({ trees := star ++ kind ++ elem.trees }, s)
    else if punctAt t ['&'] then
      let (amp, s) ← s.punctOut "&"
      let (life, s) ← if lifetimeAt s.trees then s.lifetimeOut else pure ([], s)
      let (mutable, s) ← if keywordAt s.trees "mut" then do
          let (m, s) ← s.tree
          pure ([m], s)
        else pure ([], s)
      let (elem, s) ← below.parseType false s
      pure ({ trees := amp ++ life ++ mutable ++ elem.trees }, s)
    else if punctAt t ['!'] then
      let (bang, s) ← s.punctOut "!"
      pure ({ trees := bang }, s)
    else if keywordAt t "impl" then
      let (implTree, s) ← s.tree
      let (bounds, s) ← below.parseBoundListImpl plus implTree.span s
      pure ({ trees := implTree :: bounds }, s)
    else if keywordAt t "_" then
      let (u, s) ← s.tree
      pure ({ trees := [u] }, s)
    else if lifetimeAt t then
      let (bounds, s) ← below.parseBoundList true s.span s
      pure ({ trees := bounds.1, bound := bounds.2 }, s)
    else s.expected typeStarts
  parseParenType plus s := do
    let opening := groupEnds s.trees
    let (c, s) ← s.group .paren
    if c.isEmpty then
      pure ({ trees := [regroup opening []] }, s)
    else if lifetimeAt c.trees then
      let (bounds, c) ← below.parseBoundList true c.span c
      release c
      pure ({ trees := [regroup opening bounds.1] }, s)
    else if punctAt c.trees ['?'] then
      let (first, c) ← below.parseTraitBound c
      let (more, s) ← below.parseMoreBounds s
      release c
      pure ({ trees := regroup opening first :: more }, s)
    else
      let (first, c) ← below.parseType true c
      if punctAt c.trees [','] then
        let (comma, c) ← c.punctOut ","
        let (elems, c) ← below.parseTupleRest c
        release c
        pure ({ trees := [regroup opening (first.trees ++ comma ++ elems)] }, s)
      else if plus && punctAt s.trees ['+'] && first.bound then
        let (more, s) ← below.parseMoreBounds s
        release c
        pure ({ trees := regroup opening first.trees :: more }, s)
      else
        release c
        pure ({ trees := [regroup opening first.trees] }, s)
  parseTupleRest s := do
    if s.isEmpty then pure ([], s)
    else
      let (elem, s) ← below.parseType true s
      if s.isEmpty then pure (elem.trees, s)
      else
        let (comma, s) ← s.punctOut ","
        let (rest, s) ← below.parseTupleRest s
        pure (elem.trees ++ comma ++ rest, s)
  parseMoreBounds s := do
    if punctAt s.trees ['+'] then
      let (plusTree, s) ← s.punctOut "+"
      let (b, s) ← below.parseBound s
      let (rest, s) ← below.parseMoreBounds s
      pure (plusTree ++ b.1 ++ rest, s)
    else pure ([], s)
  parsePathType plus binder s := do
    let (p, s) ← below.parseTypePath s
    if p.qualified then pure ({ trees := p.trees }, s)
    else if punctAt s.trees ['!'] && !punctAt s.trees ['!', '='] && !p.anyArgs then
      let (bang, s) ← s.punctOut "!"
      let (t, s) ← s.tree
      match t with
      | .group .. => pure ({ trees := p.trees ++ bang ++ [resurround t] }, s)
      | _ => s.fail "expected delimiter"
    else if binder.isSome || plus && punctAt s.trees ['+'] then
      let first := binder.getD [] ++ p.trees
      if plus then
        let (more, s) ← below.parsePlusBounds s
        pure ({ trees := first ++ more.1, bound := more.2 }, s)
      else pure ({ trees := first, bound := true }, s)
    else pure ({ trees := p.trees, bound := true, angleSegment := p.angleSegment, path := true }, s)
  parsePlusBounds s := do
    if punctAt s.trees ['+'] then
      let (plusTree, s) ← s.punctOut "+"
      if !boundFollows s.trees then pure ((plusTree, false), s)
      else
        let (b, s) ← below.parseBound s
        let (rest, s) ← below.parsePlusBounds s
        pure ((plusTree ++ b.1 ++ rest.1, false), s)
    else pure (([], true), s)
  parseBoundList plus start s := do
    let (items, s) ← below.parseBoundItems plus s
    if !(items.1.any (·.2)) then
      throw ⟨"at least one trait is required for an object type", start⟩
    else
      let single := items.1.length == 1 && !items.2
      pure ((items.1.flatMap (·.1), single), s)
  parseBoundListImpl plus start s := do
    let (items, s) ← below.parseBoundItems plus s
    if !(items.1.any (·.2)) then throw ⟨"at least one trait must be specified", start⟩
    else pure (items.1.flatMap (·.1), s)
  parseBoundItems plus s := do
    let (b, s) ← below.parseBound s
    if !(plus && punctAt s.trees ['+']) then pure (([b], false), s)
    else
      let (plusTree, s) ← s.punctOut "+"
      if !boundFollows s.trees then pure (([(b.1 ++ plusTree, b.2)], true), s)
      else
        let (rest, s) ← below.parseBoundItems plus s
        pure (((b.1 ++ plusTree, b.2) :: rest.1, rest.2), s)
  parseBound s := do
    if lifetimeAt s.trees then
      let (l, s) ← s.lifetimeOut
      pure ((l, false), s)
    else if groupAt s.trees .paren then
      let opening := groupEnds s.trees
      let (c, s) ← s.group .paren
      let (b, c) ← below.parseTraitBound c
      release c
      pure (([regroup opening b], true), s)
    else
      let (b, s) ← below.parseTraitBound s
      pure ((b, true), s)
  parseTraitBound s := do
    let (tilde, s) ← if punctAt s.trees ['~'] && peekAfter 1 (keywordAt · "const") s.trees then do
        let (tildeTree, s) ← s.punctOut "~"
        let (constTree, s) ← s.tree
        pure (tildeTree ++ [constTree], s)
      else pure ([], s)
    let (maybe, s) ← if punctAt s.trees ['?'] then s.punctOut "?" else pure ([], s)
    let (binder, s) ← if keywordAt s.trees "for" then below.parseBinder s else pure ([], s)
    let (p, s) ← below.parsePath false s
    let (args, s) ← below.parseParenArgsAfter p.lastArgs s
    pure (tilde ++ maybe ++ binder ++ p.trees ++ args, s)
  parseParenArgsAfter lastArgs s := do
    if !lastArgs && (groupAt s.trees .paren ||
        punctAt s.trees [':', ':'] && peekAfter 2 (groupAt · .paren) s.trees) then
      let s ← if punctAt s.trees [':', ':'] then s.punct "::" else pure s
      below.parseParenArgs s
    else pure ([], s)
  parseParenArgs s := do
    let opening := groupEnds s.trees
    let (c, s) ← s.group .paren
    let (inputs, c) ← below.parseTypeTerminated c
    let (out, s) ← below.parseReturn s
    release c
    pure (regroup opening inputs :: out, s)
  parseTypeTerminated s := do
    if s.isEmpty then pure ([], s)
    else
      let (t, s) ← below.parseType true s
      if s.isEmpty then pure (t.trees, s)
      else
        let (comma, s) ← s.punctOut ","
        let (rest, s) ← below.parseTypeTerminated s
        pure (t.trees ++ comma ++ rest, s)
  parseReturn s := do
    if punctAt s.trees ['-', '>'] then
      let (arrow, s) ← s.punctOut "->"
      let (t, s) ← below.parseType false s
      pure (arrow ++ t.trees, s)
    else pure ([], s)
  parseTypePath s := do
    let (p, s) ← if punctAt s.trees ['<'] then below.parseQualified false s
      else below.parsePath false s
    let (args, s) ← below.parseParenArgsAfter p.lastArgs s
    if args.isEmpty then pure (p, s)
    else pure ({ p with trees := p.trees ++ args, lastArgs := true, anyArgs := true }, s)
  parseQualified exprStyle s := do
    let (lt, s) ← s.punctOut "<"
    let (selfType, s) ← below.parseType true s
    let (trait, s) ← if keywordAt s.trees "as" then do
        let (asTree, s) ← s.tree
        let (p, s) ← below.parsePath false s
        pure (asTree :: p.trees, s)
      else pure ([], s)
    let (gt, s) ← s.punctOut ">"
    let (sep, s) ← s.punctOut "::"
    let (rest, s) ← below.parseSegments exprStyle s
    pure ({ trees := lt ++ selfType.trees ++ trait ++ gt ++ sep ++ rest.trees,
            lastArgs := rest.lastArgs, anyArgs := rest.anyArgs, qualified := true }, s)
  parseSegments exprStyle s := do
    let (seg, s) ← below.parseSegment exprStyle s
    if punctAt s.trees [':', ':'] then
      let (sep, s) ← s.punctOut "::"
      let (rest, s) ← below.parseSegments exprStyle s
      pure ({ trees := seg.trees ++ sep ++ rest.trees, lastArgs := rest.lastArgs,
              anyArgs := seg.anyArgs || rest.anyArgs }, s)
    else pure (seg, s)
  parsePath exprStyle s := do
    let (lead, s) ← if punctAt s.trees [':', ':'] then s.punctOut "::" else pure ([], s)
    let (seg, s) ← below.parseSegment exprStyle s
    let (rest, s) ← below.parsePathRest exprStyle s
    pure ({ trees := lead ++ seg.trees ++ rest.trees,
            lastArgs := if rest.trees.isEmpty then seg.lastArgs else rest.lastArgs,
            anyArgs := seg.anyArgs || rest.anyArgs,
            angleSegment := lead.isEmpty && rest.trees.isEmpty && seg.lastArgs }, s)
  parsePathRest exprStyle s := do
    if punctAt s.trees [':', ':'] && !peekAfter 2 (groupAt · .paren) s.trees then
      let (sep, s) ← s.punctOut "::"
      let (seg, s) ← below.parseSegment exprStyle s
      let (rest, s) ← below.parsePathRest exprStyle s
      pure ({ trees := sep ++ seg.trees ++ rest.trees,
              lastArgs := if rest.trees.isEmpty then seg.lastArgs else rest.lastArgs,
              anyArgs := seg.anyArgs || rest.anyArgs }, s)
    else pure ({ trees := [] }, s)
  parseSegment exprStyle s := do
    if segmentKeywordAt s.trees then
      let (n, s) ← s.tree
      pure ({ trees := [n] }, s)
    else
      let (n, s) ← if keywordAt s.trees "Self" then s.tree else do
        let (_, s') ← s.ident
        let (n, _) ← s.tree
        pure (n, s')
      if !exprStyle && punctAt s.trees ['<'] && !punctAt s.trees ['<', '='] ||
          punctAt s.trees [':', ':'] && peekAfter 2 (punctAt · ['<']) s.trees then
        let (args, s) ← below.parseAngleArgs s
        pure ({ trees := n :: args, lastArgs := true, anyArgs := true }, s)
      else pure ({ trees := [n] }, s)
  parseAngleArgs s := do
    let (sep, s) ← if punctAt s.trees [':', ':'] then s.punctOut "::" else pure ([], s)
    let (lt, s) ← s.punctOut "<"
    let (args, s) ← below.parseArgList s
    let (gt, s) ← s.punctOut ">"
    pure (angleOut (sep ++ lt) gt args, s)
  parseArgList s := do
    if punctAt s.trees ['>'] then pure ([], s)
    else
      let (arg, s) ← below.parseGenericArg s
      if punctAt s.trees ['>'] then pure ([{ arg with comma := [] }], s)
      else
        let (comma, s) ← s.punctOut ","
        let (rest, s) ← below.parseArgList s
        pure ({ arg with comma := comma } :: rest, s)
  parseGenericArg s := do
    let t := s.trees
    if lifetimeAt t && !peekAfter 1 (punctAt · ['+']) t then
      let (l, s) ← s.lifetimeOut
      pure ({ trees := l, lifetime := true, comma := [] }, s)
    else if identAt t && peekAfter 1 (punctAt · ['=']) t then
      let (n, s) ← s.tree
      let (eq, s) ← s.punctOut "="
      let (value, s) ← if literalOutAt s.trees then do
          let (_, s') ← s.literalOut
          pure (s.treesUntil s', s')
        else if groupAt s.trees .brace then do
          let (_, s') ← below.parseBlockExpr s
          pure (s.treesUntil s', s')
        else do
          let (ty, s) ← below.parseType true s
          pure (ty.trees, s)
      pure ({ trees := n :: eq ++ value, lifetime := false, comma := [] }, s)
    else if identAt t && peekAfter 1 (punctAt · [':']) t && !peekAfter 1 (punctAt · [':', ':']) t then
      let (n, s) ← s.tree
      let (colon, s) ← s.punctOut ":"
      let (bounds, s) ← below.parseConstraintBounds s
      pure ({ trees := n :: colon ++ bounds, lifetime := false, comma := [] }, s)
    else if literalOutAt t then
      let (l, s) ← s.literalOut
      pure ({ trees := l, lifetime := false, comma := [] }, s)
    else if groupAt t .brace then
      let (b, s) ← below.parseBlockExpr s
      pure ({ trees := b.trees, lifetime := false, comma := [] }, s)
    else
      let begin := s
      let (ty, s) ← below.parseType true s
      if ty.angleSegment && punctAt s.trees ['='] then
        let s ← s.punct "="
        let (_, s) ← below.parseType true s
        pure ({ trees := begin.treesUntil s, lifetime := false, comma := [] }, s)
      else if ty.angleSegment && punctAt s.trees [':'] then
        let s ← s.punct ":"
        let (_, s) ← below.parseConstraintBounds s
        pure ({ trees := begin.treesUntil s, lifetime := false, comma := [] }, s)
      else pure ({ trees := ty.trees, lifetime := false, comma := [] }, s)
  parseConstraintBounds s := do
    if punctAt s.trees [','] || punctAt s.trees ['>'] then pure ([], s)
    else
      let (b, s) ← below.parseBound s
      if !punctAt s.trees ['+'] then pure (b.1, s)
      else
        let (plusTree, s) ← s.punctOut "+"
        let (rest, s) ← below.parseConstraintBounds s
        pure (b.1 ++ plusTree ++ rest, s)
  parseBinder s := do
    let (forTree, s) ← s.keywordOut "for"
    let (lt, s) ← s.punctOut "<"
    let (defs, s) ← below.parseLifetimeDefs s
    let (gt, s) ← s.punctOut ">"
    pure (forTree ++ lt ++ defs ++ gt, s)
  parseLifetimeDefs s := do
    if punctAt s.trees ['>'] then pure ([], s)
    else
      let (attrs, s) ← below.parseAttributes s
      let (l, s) ← s.lifetimeOut
      let (bounds, s) ← if punctAt s.trees [':'] then do
          let (colon, s) ← s.punctOut ":"
          let (b, s) ← below.parseLifetimeBounds s
          pure (colon ++ b, s)
        else pure ([], s)
      let def_ := attrs ++ l ++ bounds
      if punctAt s.trees ['>'] then pure (def_, s)
      else
        let (comma, s) ← s.punctOut ","
        let (rest, s) ← below.parseLifetimeDefs s
        pure (def_ ++ comma ++ rest, s)
  parseLifetimeBounds s := do
    if punctAt s.trees [','] || punctAt s.trees ['>'] then pure ([], s)
    else
      let (l, s) ← s.lifetimeOut
      if !punctAt s.trees ['+'] then pure (l, s)
      else
        let (plusTree, s) ← s.punctOut "+"
        let (rest, s) ← below.parseLifetimeBounds s
        pure (l ++ plusTree ++ rest, s)
  parseAttributes s := do
    if punctAt s.trees ['#'] then
      let start := s
      let s ← s.punct "#"
      let (c, s) ← s.group .bracket
      let _ ← below.parseModPath c
      let (rest, s) ← below.parseAttributes s
      pure (start.treesUntil s ++ rest, s)
    else pure ([], s)
  parseModPath s := do
    let s ← if punctAt s.trees [':', ':'] then s.punct "::" else pure s
    if !(identAt s.trees || keywordAt s.trees "super" || keywordAt s.trees "self" ||
        keywordAt s.trees "Self" || keywordAt s.trees "crate") then s.fail "expected path"
    else
      let (_, s) ← s.anyIdent
      if punctAt s.trees [':', ':'] then
        let s ← s.punct "::"
        if !(identAt s.trees || keywordAt s.trees "super" || keywordAt s.trees "self" ||
            keywordAt s.trees "Self" || keywordAt s.trees "crate") then
          s.fail "expected path segment"
        else below.parseModPath s
      else pure ((), s)
  parseFnPointer s := do
    let (unsafety, s) ← if keywordAt s.trees "unsafe" then s.keywordOut "unsafe"
      else pure ([], s)
    let (abi, s) ← if keywordAt s.trees "extern" then do
        let (e, s) ← s.keywordOut "extern"
        if stringAt s.trees then
          let (lit, s) ← s.tree
          pure (e ++ [lit], s)
        else pure (e, s)
      else pure ([], s)
    let (fnTree, s) ← s.keywordOut "fn"
    let opening := groupEnds s.trees
    let (c, s) ← s.group .paren
    let (params, c) ← below.parseParams true c
    let (out, s) ← below.parseReturn s
    release c
    pure (unsafety ++ abi ++ fnTree ++ regroup opening params :: out, s)
  parseParams first s := do
    if s.isEmpty then pure ([], s)
    else
      let (attrs, s) ← below.parseAttributes s
      if punctAt s.trees ['.', '.', '.'] then
        let (dots, s) ← s.punctOut "..."
        pure (attrs ++ dots, s)
      else
        let t := s.trees
        let (name, s) ← if (identAt t || keywordAt t "_" || first && keywordAt t "self") &&
            peekAfter 1 (punctAt · [':']) t && !peekAfter 1 (punctAt · [':', ':']) t then do
            let (n, s) ← s.tree
            let (colon, s) ← s.punctOut ":"
            pure (n :: colon, s)
          else pure ([], s)
        let (ty, s) ← below.parseType true s
        let param := attrs ++ name ++ ty.trees
        if s.isEmpty then pure (param, s)
        else
          let (comma, s) ← s.punctOut ","
          let (rest, s) ← below.parseParams false s
          pure (param ++ comma ++ rest, s)

end LoxFront.Schema
