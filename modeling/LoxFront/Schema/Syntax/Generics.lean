import LoxFront.Schema.Syntax.Readers
/-!
Visibility, generic parameters, `where` clauses, and the fields and variants of structs and enums.
-/
namespace LoxFront.Schema

/-- Visibility, generic parameters, `where` clauses, and the fields and variants of structs and
enums, read with `below` for what they contain. -/
def Readers.genericsReaders (below : Readers) : GenericsReaders where
  parseVisibility s := do
    if keywordAt s.trees "crate" && !peekAfter 1 (punctAt · [':', ':']) s.trees then
      let (c, s) ← s.tree
      pure ([c], s)
    else if !keywordAt s.trees "pub" then pure ([], s)
    else
      let (p, s) ← s.tree
      match s.trees with
      | .group .paren inner opening close :: rest =>
        let after : Stream := ⟨rest, s.scope⟩
        if inner.length == 1 &&
            (keywordAt inner "crate" || keywordAt inner "self" || keywordAt inner "super") then
          pure ([p, regroup (.paren, opening) inner], after)
        else if keywordAt inner "in" then
          let c : Stream := ⟨inner, close⟩
          let (inTree, c) ← c.tree
          let (_, c') ← below.parseModPath c
          release c'
          pure ([p, regroup (.paren, opening) (inTree :: c.treesUntil c')], after)
        else pure ([p], s)
      | _ => pure ([p], s)
  parseGenerics s := do
    if !punctAt s.trees ['<'] then pure ([], s)
    else
      let (lt, s) ← s.punctOut "<"
      let (params, s) ← below.parseGenericParams s
      let (gt, s) ← s.punctOut ">"
      if params.isEmpty then pure ([], s) else pure (angleOut lt gt params, s)
  parseGenericParams s := do
    if punctAt s.trees ['>'] then pure ([], s)
    else
      let (attrs, s) ← below.parseAttributes s
      let t := s.trees
      let (param, s) ← if lifetimeAt t then do
          let (l, s) ← s.lifetimeOut
          let (bounds, s) ← if punctAt s.trees [':'] then do
              let (colon, s) ← s.punctOut ":"
              let (b, s) ← below.parseLifetimeBounds s
              pure (if b.isEmpty then [] else colon ++ b, s)
            else pure ([], s)
          pure ({ trees := attrs ++ l ++ bounds, lifetime := true, comma := [] }, s)
        else if identAt t then do
          let (p, s) ← below.parseTypeParam s
          pure ({ trees := attrs ++ p, lifetime := false, comma := [] }, s)
        else if keywordAt t "const" then do
          let (p, s) ← below.parseConstParam s
          pure ({ trees := attrs ++ p, lifetime := false, comma := [] }, s)
        else if keywordAt t "_" then do
          let (u, s) ← s.tree
          pure ({ trees := attrs ++ [u], lifetime := false, comma := [] }, s)
        else s.expected ["lifetime", "identifier", "`const`"]
      if punctAt s.trees ['>'] then pure ([param], s)
      else
        let (comma, s) ← s.punctOut ","
        let (rest, s) ← below.parseGenericParams s
        pure ({ param with comma := comma } :: rest, s)
  parseTypeParam s := do
    let (n, s) ← s.tree
    if !punctAt s.trees [':'] then
      let (d, s) ← below.parseTypeDefault s
      pure (n :: d, s)
    else
      let (colon, s) ← s.punctOut ":"
      let begin := s
      let ((bounds, maybeConst), s) ← below.parseParamBounds s
      let (d, s) ← below.parseTypeDefault s
      if maybeConst then pure (n :: colon ++ begin.treesUntil s, s)
      else pure (n :: (if bounds.isEmpty then [] else colon ++ bounds) ++ d, s)
  parseTypeDefault s := do
    if !punctAt s.trees ['='] then pure ([], s)
    else
      let (eq, s) ← s.punctOut "="
      let (t, s) ← below.parseType true s
      pure (eq ++ t.trees, s)
  parseParamBounds s := do
    let t := s.trees
    if punctAt t [','] || punctAt t ['>'] || punctAt t ['='] then pure (([], false), s)
    else
      let (maybeConst, s) ← if punctAt t ['~'] && peekAfter 1 (keywordAt · "const") t then do
          let s ← s.punct "~"
          let s ← s.keyword "const"
          pure (true, s)
        else pure (false, s)
      let (b, s) ← below.parseBound s
      if !punctAt s.trees ['+'] then pure ((b.1, maybeConst), s)
      else
        let (plusTree, s) ← s.punctOut "+"
        let ((rest, more), s) ← below.parseParamBounds s
        pure ((b.1 ++ plusTree ++ rest, maybeConst || more), s)
  parseConstParam s := do
    let (c, s) ← s.keywordOut "const"
    let (_, s') ← s.ident
    let (n, _) ← s.tree
    let s := s'
    let (colon, s) ← s.punctOut ":"
    let (ty, s) ← below.parseType true s
    if !punctAt s.trees ['='] then pure (c ++ n :: colon ++ ty.trees, s)
    else
      let (eq, s) ← s.punctOut "="
      let (d, s) ← if literalOutAt s.trees then s.literalOut
        else if identAt s.trees then do
          let (i, s) ← s.tree
          pure ([i], s)
        else if groupAt s.trees .brace then do
          let (b, s) ← below.parseBlockExpr s
          pure (b.trees, s)
        else s.expected []
      pure (c ++ n :: colon ++ ty.trees ++ eq ++ d, s)
  parseWhere s := do
    if !keywordAt s.trees "where" then pure ([], s)
    else
      let (w, s) ← s.tree
      let (preds, s) ← below.parseWherePredicates s
      if preds.isEmpty then pure ([], s) else pure (w :: preds, s)
  parseWherePredicates s := do
    let t := s.trees
    if s.isEmpty || groupAt t .brace || punctAt t [','] || punctAt t [';'] ||
        punctAt t [':'] && !punctAt t [':', ':'] || punctAt t ['='] then pure ([], s)
    else
      let (p, s) ← below.parseWherePredicate s
      if !punctAt s.trees [','] then pure (p, s)
      else
        let (comma, s) ← s.punctOut ","
        let (rest, s) ← below.parseWherePredicates s
        pure (p ++ comma ++ rest, s)
  parseWherePredicate s := do
    let t := s.trees
    if lifetimeAt t && peekAfter 1 (punctAt · [':']) t then
      let (l, s) ← s.lifetimeOut
      let (colon, s) ← s.punctOut ":"
      let (bounds, s) ← below.parseWhereLifetimes s
      pure (l ++ colon ++ bounds, s)
    else
      let (binder, s) ← if keywordAt t "for" then below.parseBinder s else pure ([], s)
      let (ty, s) ← below.parseType true s
      let (colon, s) ← s.punctOut ":"
      let (bounds, s) ← below.parseWhereBounds s
      pure (binder ++ ty.trees ++ colon ++ bounds, s)
  parseWhereLifetimes s := do
    let t := s.trees
    if s.isEmpty || groupAt t .brace || punctAt t [','] || punctAt t [';'] || punctAt t [':'] ||
        punctAt t ['='] then pure ([], s)
    else
      let (l, s) ← s.lifetimeOut
      if !punctAt s.trees ['+'] then pure (l, s)
      else
        let (plusTree, s) ← s.punctOut "+"
        let (rest, s) ← below.parseWhereLifetimes s
        pure (l ++ plusTree ++ rest, s)
  parseWhereBounds s := do
    let t := s.trees
    if s.isEmpty || groupAt t .brace || punctAt t [','] || punctAt t [';'] ||
        punctAt t [':'] && !punctAt t [':', ':'] || punctAt t ['='] then pure ([], s)
    else
      let (b, s) ← below.parseBound s
      if !punctAt s.trees ['+'] then pure (b.1, s)
      else
        let (plusTree, s) ← s.punctOut "+"
        let (rest, s) ← below.parseWhereBounds s
        pure (b.1 ++ plusTree ++ rest, s)
  parseBoundsUntil stop s := do
    if stop s.trees then pure ([], s)
    else
      let (b, s) ← below.parseBound s
      if stop s.trees then pure (b.1, s)
      else
        let (plusTree, s) ← s.punctOut "+"
        let (rest, s) ← below.parseBoundsUntil stop s
        pure (b.1 ++ plusTree ++ rest, s)
  parseFieldList named s := do
    if s.isEmpty then pure ([], s)
    else
      let (attrs, s) ← below.parseAttributes s
      let (vis, s) ← below.parseVisibility s
      let (name, s) ← if named then do
          let (n, s) ← if keywordAt s.trees "_" then s.tree else do
            let (_, s') ← s.ident
            let (n, _) ← s.tree
            pure (n, s')
          let (colon, s) ← s.punctOut ":"
          pure (n :: colon, s)
        else pure ([], s)
      let (ty, s) ← below.parseType true s
      let field := attrs ++ vis ++ name ++ ty.trees
      if s.isEmpty then pure (field, s)
      else
        let (comma, s) ← s.punctOut ","
        let (rest, s) ← below.parseFieldList named s
        pure (field ++ comma ++ rest, s)
  parseFields named s := do
    let opening := groupEnds s.trees
    let (c, s) ← s.group (if named then .brace else .paren)
    let (fields, c) ← below.parseFieldList named c
    release c
    pure ([regroup opening fields], s)
  parseStructBody s := do
    if keywordAt s.trees "where" then
      let (w, s) ← below.parseWhere s
      if groupAt s.trees .brace then
        let (fields, s) ← below.parseFields true s
        pure (w ++ fields, s)
      else if punctAt s.trees [';'] then
        let (semi, s) ← s.punctOut ";"
        pure (w ++ semi, s)
      else s.expected ["curly braces", "`;`"]
    else if groupAt s.trees .paren then
      let (fields, s) ← below.parseFields false s
      if keywordAt s.trees "where" then
        let (w, s) ← below.parseWhere s
        if punctAt s.trees [';'] then
          let (semi, s) ← s.punctOut ";"
          pure (fields ++ w ++ semi, s)
        else s.expected ["`;`"]
      else if punctAt s.trees [';'] then
        let (semi, s) ← s.punctOut ";"
        pure (fields ++ semi, s)
      else s.expected ["`where`", "`;`"]
    else if groupAt s.trees .brace then below.parseFields true s
    else if punctAt s.trees [';'] then s.punctOut ";"
    else s.expected ["`where`", "parentheses", "curly braces", "`;`"]
  parseVariants s := do
    if s.isEmpty then pure ([], s)
    else
      let (attrs, s) ← below.parseAttributes s
      let (_, s) ← below.parseVisibility s
      let (_, s') ← s.ident
      let (n, _) ← s.tree
      let s := s'
      let (fields, s) ← if groupAt s.trees .brace then below.parseFields true s
        else if groupAt s.trees .paren then below.parseFields false s
        else pure ([], s)
      let (disc, s) ← if punctAt s.trees ['='] then do
          let (eq, s) ← s.punctOut "="
          let (e, s) ← below.parseExpr true s
          pure (eq ++ e.trees, s)
        else pure ([], s)
      let variant := attrs ++ n :: fields ++ disc
      if s.isEmpty then pure (variant, s)
      else
        let (comma, s) ← s.punctOut ","
        let (rest, s) ← below.parseVariants s
        pure (variant ++ comma ++ rest, s)

end LoxFront.Schema
