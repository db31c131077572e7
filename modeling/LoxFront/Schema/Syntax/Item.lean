import LoxFront.Schema.Syntax.Readers
/-!
Items: functions, type aliases, traits and their items, implementations and their items, and
modules.
-/
namespace LoxFront.Schema

/-- Items, read with `below` for what they contain. -/
def Readers.itemReaders (below : Readers) : ItemReaders where
  parseSignature s := do
    let (c, s) ← if keywordAt s.trees "const" then s.keywordOut "const" else pure ([], s)
    let (a, s) ← if keywordAt s.trees "async" then s.keywordOut "async" else pure ([], s)
    let (u, s) ← if keywordAt s.trees "unsafe" then s.keywordOut "unsafe" else pure ([], s)
    let (abi, s) ← if keywordAt s.trees "extern" then do
        let (e, s) ← s.keywordOut "extern"
        if stringAt s.trees then
          let (lit, s) ← s.tree
          pure (e ++ [lit], s)
        else pure (e, s)
      else pure ([], s)
    let (f, s) ← s.keywordOut "fn"
    let (_, s') ← s.ident
    let (n, _) ← s.tree
    let s := s'
    let (g, s) ← below.parseGenerics s
    let opening := groupEnds s.trees
    let (p, s) ← s.group .paren
    let (params, p) ← below.parseFnArgs 0 false p
    release p
    let (out, s) ← if punctAt s.trees ['-', '>'] then do
        let (arrow, s) ← s.punctOut "->"
        let (t, s) ← below.parseType true s
        pure (arrow ++ t.trees, s)
      else pure ([], s)
    let (w, s) ← below.parseWhere s
    pure (c ++ a ++ u ++ abi ++ f ++ [n] ++ g ++ [regroup opening params] ++ out ++ w, s)
  parseFnArgs index receiver s := do
    if s.isEmpty then pure ([], s)
    else
      let (attrs, s) ← below.parseAttributes s
      let ((arg, isReceiver), s) ← if punctAt s.trees ['.', '.', '.'] then do
          let (dots, s) ← s.punctOut "..."
          pure ((dots, false), s)
        else match receiverRest s.trees with
          | some (rest, selfSpan) =>
            if punctAt rest [':'] then do
              let (a, s) ← below.parseTypedArg s
              pure ((a, false), s)
            else if receiver then throw ⟨"unexpected second method receiver", selfSpan⟩
            else if index > 0 then throw ⟨"unexpected method receiver", selfSpan⟩
            else
              let after : Stream := ⟨rest, s.scope⟩
              pure ((receiverOut (s.treesUntil after), true), after)
          | none => do
            let (a, s) ← below.parseTypedArg s
            pure ((a, false), s)
      let own := attrs ++ arg
      if s.isEmpty then pure (own, s)
      else
        let (comma, s) ← s.punctOut ","
        let (rest, s) ← below.parseFnArgs (index + 1) (receiver || isReceiver) s
        pure (own ++ comma ++ rest, s)
  parseTypedArg s := do
    match s.trees with
    | .ident name raw sp :: _ =>
      if isPlainIdent name raw && peekAfter 1 (punctAt · ['<']) s.trees then
        let (t, s) ← below.parseType true s
        pure ([.ident "_" false sp, .punct ':' false sp] ++ t.trees, s)
      else below.parseTypedArgPattern s
    | _ => below.parseTypedArgPattern s
  parseTypedArgPattern s := do
    let (p, s) ← below.parsePat s
    let (more, s) ← below.parseMorePats s
    let (colon, s) ← s.punctOut ":"
    let (ty, s) ← if punctAt s.trees ['.', '.', '.'] then s.punctOut "..." else do
      let (t, s) ← below.parseType true s
      pure (t.trees, s)
    pure (p ++ more ++ colon ++ ty, s)
  parseAlias whereFirst s := do
    let (ty, s) ← s.keywordOut "type"
    let (_, s') ← s.ident
    let (n, _) ← s.tree
    let s := s'
    let (g, s) ← below.parseGenerics s
    let (colon, bounds, s) ← if punctAt s.trees [':'] then do
        let (colon, s) ← s.punctOut ":"
        let (bounds, s) ← below.parseBoundsUntil
          (fun u => keywordAt u "where" || punctAt u ['='] || punctAt u [';']) s
        pure (some colon, bounds, s)
      else pure (none, [], s)
    let (w, s) ← if whereFirst then below.parseWhere s else pure ([], s)
    let (definition, s) ← if punctAt s.trees ['='] then do
        let (eq, s) ← s.punctOut "="
        let (t, s) ← below.parseType true s
        pure (some (eq ++ t.trees), s)
      else pure (none, s)
    let (w, s) ← if whereFirst then pure (w, s) else below.parseWhere s
    let (semi, s) ← s.punctOut ";"
    pure ({ head := ty ++ [n] ++ g, colon, bounds, whereClause := w, definition, semi }, s)
  parseTraitRest s := do
    let (colon, s) ← if punctAt s.trees [':'] then s.punctOut ":" else pure ([], s)
    let (supers, s) ← if colon.isEmpty then pure ([], s)
      else below.parseBoundsUntil (fun u => keywordAt u "where" || groupAt u .brace) s
    let (w, s) ← below.parseWhere s
    let opening := groupEnds s.trees
    let (c, s) ← s.group .brace
    let (inner, c) ← below.parseInnerAttributes c
    let (items, c) ← below.parseTraitItems c
    release c
    pure ((if supers.isEmpty then [] else colon ++ supers) ++ w ++ [regroup opening (inner ++ items)],
      s)
  parseTrait s := do
    let (vis, s) ← below.parseVisibility s
    let (uns, s) ← if keywordAt s.trees "unsafe" then s.keywordOut "unsafe" else pure ([], s)
    let (auto, s) ← if keywordAt s.trees "auto" then s.keywordOut "auto" else pure ([], s)
    let (tr, s) ← s.keywordOut "trait"
    let (_, s') ← s.ident
    let (n, _) ← s.tree
    let s := s'
    let (g, s) ← below.parseGenerics s
    let head := vis ++ uns ++ auto ++ tr ++ [n] ++ g
    let t := s.trees
    if !uns.isEmpty || !auto.isEmpty || groupAt t .brace || punctAt t [':'] ||
        keywordAt t "where" then
      let (rest, s) ← below.parseTraitRest s
      pure (head ++ rest, s)
    else if punctAt t ['='] then
      let (eq, s) ← s.punctOut "="
      let (bounds, s) ← below.parseBoundsUntil (fun u => keywordAt u "where" || punctAt u [';']) s
      let (w, s) ← below.parseWhere s
      let (semi, s) ← s.punctOut ";"
      pure (head ++ eq ++ bounds ++ w ++ semi, s)
    else s.expected ["curly braces", "`:`", "`where`", "`=`"]
  parseTraitItems s := do
    if s.isEmpty then pure ([], s)
    else
      let (i, s) ← below.parseTraitItem s
      let (rest, s) ← below.parseTraitItems s
      pure (i ++ rest, s)
  parseTraitItem s := do
    let begin := s
    let (attrs, s) ← below.parseAttributes s
    let (vis, s) ← below.parseVisibility s
    let (dflt, s) ← if keywordAt s.trees "default" then s.keywordOut "default" else pure ([], s)
    let plain := vis.isEmpty && dflt.isEmpty
    let finish := fun (item : Trees) (e : Stream) =>
      pure (if plain then attrs ++ item else begin.treesUntil e, e)
    let t := s.trees
    let afterConst := s.advance 1
    if keywordAt t "fn" || signatureAt t || keywordAt t "const" &&
        (keywordAt afterConst.trees "async" || keywordAt afterConst.trees "unsafe" ||
          keywordAt afterConst.trees "extern" || keywordAt afterConst.trees "fn") then
      let (sig, s) ← below.parseSignature s
      if groupAt s.trees .brace then
        let (b, s) ← below.parseBlock true s
        finish (sig ++ b) s
      else if punctAt s.trees [';'] then
        let (semi, s) ← s.punctOut ";"
        finish (sig ++ semi) s
      else s.expected ["curly braces", "`;`"]
    else if keywordAt t "const" then
      if identAt afterConst.trees || keywordAt afterConst.trees "_" then
        let (c, s) ← s.keywordOut "const"
        let (n, s) ← s.tree
        let (colon, s) ← s.punctOut ":"
        let (ty, s) ← below.parseType true s
        let (d, s) ← if punctAt s.trees ['='] then do
            let (eq, s) ← s.punctOut "="
            let (e, s) ← below.parseExpr true s
            pure (eq ++ e.trees, s)
          else pure ([], s)
        let (semi, s) ← s.punctOut ";"
        finish (c ++ [n] ++ colon ++ ty.trees ++ d ++ semi) s
      else afterConst.expected ["identifier", "`_`", "`async`", "`unsafe`", "`extern`", "`fn`"]
    else if keywordAt t "type" then
      let (a, s) ← below.parseAlias false s
      finish (a.head ++ (if a.bounds.isEmpty then [] else a.colon.getD [] ++ a.bounds) ++
        a.definition.getD [] ++ a.whereClause ++ a.semi) s
    else if identAt t || keywordAt t "self" || keywordAt t "super" || keywordAt t "crate" ||
        punctAt t [':', ':'] then s.fail "expected expression"
    else s.expected (traitItemStarts t true)
  parseImplItems s := do
    if s.isEmpty then pure ([], s)
    else
      let (i, s) ← below.parseImplItem s
      let (rest, s) ← below.parseImplItems s
      pure (i ++ rest, s)
  parseImplItem s := do
    let begin := s
    let (attrs, s) ← below.parseAttributes s
    let (vis, s) ← below.parseVisibility s
    let t := s.trees
    let (dflt, s) ← if keywordAt t "default" && !peekAfter 1 (punctAt · ['!']) t then
        s.keywordOut "default" else pure ([], s)
    let front := attrs ++ vis ++ dflt
    let t := s.trees
    if keywordAt t "fn" || signatureAt t then
      let (sig, s) ← below.parseSignature s
      if punctAt s.trees [';'] then
        let (semi, s) ← s.punctOut ";"
        pure (front ++ sig ++ semi, s)
      else
        let (b, s) ← below.parseBlock true s
        pure (front ++ sig ++ b, s)
    else if keywordAt t "const" then
      let afterConst := s.advance 1
      if identAt afterConst.trees || keywordAt afterConst.trees "_" then
        let (c, s) ← s.keywordOut "const"
        let (n, s) ← s.tree
        let (colon, s) ← s.punctOut ":"
        let (ty, s) ← below.parseType true s
        if punctAt s.trees ['='] then
          let (eq, s) ← s.punctOut "="
          let (e, s) ← below.parseExpr true s
          let (semi, s) ← s.punctOut ";"
          pure (front ++ c ++ [n] ++ colon ++ ty.trees ++ eq ++ e.trees ++ semi, s)
        else
          let s ← s.punct ";"
          pure (begin.treesUntil s, s)
      else afterConst.expected ["identifier", "`_`"]
    else if keywordAt t "type" then
      let (a, s) ← below.parseAlias false s
      match a.colon, a.definition with
      | none, some d => pure (front ++ a.head ++ d ++ a.whereClause ++ a.semi, s)
      | _, _ => pure (begin.treesUntil s, s)
    else
      let plain := vis.isEmpty && dflt.isEmpty
      if plain && (identAt t || keywordAt t "self" || keywordAt t "super" ||
          keywordAt t "crate" || punctAt t [':', ':']) then s.fail "expected expression"
      else
        let dfltWord := if !dflt.isEmpty || keywordAt t "default" then [] else ["`default`"]
        s.expected (dfltWord ++ traitItemStarts t plain)
  parseImpl s := do
    let (vis, s) ← below.parseVisibility s
    let (dflt, s) ← if keywordAt s.trees "default" then s.keywordOut "default" else pure ([], s)
    let (uns, s) ← if keywordAt s.trees "unsafe" then s.keywordOut "unsafe" else pure ([], s)
    let (im, s) ← s.keywordOut "impl"
    let (g, s) ← if genericsFirstAt s.trees then below.parseGenerics s else pure ([], s)
    let isConst := keywordAt s.trees "const" ||
      punctAt s.trees ['?'] && peekAfter 1 (keywordAt · "const") s.trees
    let s ← if isConst then do
        let s ← if punctAt s.trees ['?'] then s.punct "?" else pure s
        s.keyword "const"
      else pure s
    let begin := s
    let (neg, s) ← if punctAt s.trees ['!'] && !peekAfter 1 (groupAt · .brace) s.trees then
        s.punctOut "!" else pure ([], s)
    let (first, s) ← below.parseType true s
    let ((head, keep), s) ← if keywordAt s.trees "for" then do
        let (forTree, s) ← s.keywordOut "for"
        let (selfTy, s) ← below.parseType true s
        pure ((neg ++ first.trees ++ forTree ++ selfTy.trees, !first.path), s)
      else pure (((if neg.isEmpty then first.trees else begin.treesUntil s), false), s)
    let (w, s) ← below.parseWhere s
    let opening := groupEnds s.trees
    let (c, s) ← s.group .brace
    let (inner, c) ← below.parseInnerAttributes c
    let (items, c) ← below.parseImplItems c
    release c
    pure ((dflt ++ uns ++ im ++ g ++ head ++ w ++ [regroup opening (inner ++ items)],
      !vis.isEmpty || isConst || keep), s)
  parseModItems s := do
    if s.isEmpty then pure ([], s)
    else
      let (i, s) ← below.parseItem s
      let (rest, s) ← below.parseModItems s
      pure (i.1 ++ rest, s)
  parseMod s := do
    let (vis, s) ← below.parseVisibility s
    let (m, s) ← s.keywordOut "mod"
    let (_, s') ← s.ident
    let (n, _) ← s.tree
    let s := s'
    if punctAt s.trees [';'] then
      let (semi, s) ← s.punctOut ";"
      pure (vis ++ m ++ [n] ++ semi, s)
    else if groupAt s.trees .brace then
      let opening := groupEnds s.trees
      let (c, s) ← s.group .brace
      let (inner, c) ← below.parseInnerAttributes c
      let (items, c) ← below.parseModItems c
      release c
      pure (vis ++ m ++ [n] ++ [regroup opening (inner ++ items)], s)
    else s.expected ["`;`", "curly braces"]
  parseItem s := do
    let begin := s
    let (attrs, s) ← below.parseAttributes s
    let (vis, ahead) ← below.parseVisibility s
    let t := ahead.trees
    let kept := fun (e : Stream) => pure ((begin.treesUntil e, true), e)
    let written := fun (item : Trees) (e : Stream) => pure ((attrs ++ item, false), e)
    if keywordAt t "fn" || signatureAt t then
      let (sig, s) ← below.parseSignature ahead
      if punctAt s.trees [';'] then
        let s ← s.punct ";"
        kept s
      else
        let (b, s) ← below.parseBlock true s
        written (vis ++ sig ++ b) s
    else if unmodelledItemAt t then s.fail "expected expression"
    else if keywordAt t "static" then
      let (st, s) ← ahead.keywordOut "static"
      let (m, s) ← if keywordAt s.trees "mut" then s.keywordOut "mut" else pure ([], s)
      let (_, s') ← s.ident
      let (n, _) ← s.tree
      let s := s'
      if punctAt s.trees ['='] then
        let s ← s.punct "="
        let (_, s) ← below.parseExpr true s
        let s ← s.punct ";"
        kept s
      else
        let (colon, s) ← s.punctOut ":"
        let (ty, s) ← below.parseType true s
        if punctAt s.trees [';'] then
          let s ← s.punct ";"
          kept s
        else
          let (eq, s) ← s.punctOut "="
          let (e, s) ← below.parseExpr true s
          let (semi, s) ← s.punctOut ";"
          written (vis ++ st ++ m ++ [n] ++ colon ++ ty.trees ++ eq ++ e.trees ++ semi) s
    else if keywordAt t "const" then
      let afterConst := ahead.advance 1
      if identAt afterConst.trees || keywordAt afterConst.trees "_" then
        let (c, s) ← ahead.keywordOut "const"
        let (n, s) ← s.tree
        let (colon, s) ← s.punctOut ":"
        let (ty, s) ← below.parseType true s
        if punctAt s.trees [';'] then
          let s ← s.punct ";"
          kept s
        else
          let (eq, s) ← s.punctOut "="
          let (e, s) ← below.parseExpr true s
          let (semi, s) ← s.punctOut ";"
          written (vis ++ c ++ [n] ++ colon ++ ty.trees ++ eq ++ e.trees ++ semi) s
      else afterConst.expected ["identifier", "`_`"]
    else if keywordAt t "unsafe" then
      let u := ahead.advance 1
      if keywordAt u.trees "trait" ||
          keywordAt u.trees "auto" && peekAfter 1 (keywordAt · "trait") u.trees then
        let (tr, s) ← below.parseTrait s
        written tr s
      else if keywordAt u.trees "impl" then
        let ((im, keep), s) ← below.parseImpl s
        if keep then kept s else written im s
      else if keywordAt u.trees "mod" then
        let (_, s) ← below.parseVisibility s
        let s ← s.keyword "unsafe"
        let (_, s) ← below.parseMod s
        kept s
      else u.expected ["`trait`", "`auto`", "`impl`", "`extern`", "`mod`"]
    else if keywordAt t "mod" then
      let (m, s) ← below.parseMod s
      written m s
    else if keywordAt t "type" then
      let (a, s) ← below.parseAlias true ahead
      match a.colon, a.definition with
      | none, some d => written (vis ++ a.head ++ a.whereClause ++ d ++ a.semi) s
      | _, _ => kept s
    else if keywordAt t "struct" then
      let (st, s) ← ahead.keywordOut "struct"
      let (_, s') ← s.ident
      let (n, _) ← s.tree
      let s := s'
      let (g, s) ← below.parseGenerics s
      let (body, s) ← below.parseStructBody s
      written (vis ++ st ++ [n] ++ g ++ body) s
    else if keywordAt t "enum" then
      let (en, s) ← ahead.keywordOut "enum"
      let (_, s') ← s.ident
      let (n, _) ← s.tree
      let s := s'
      let (g, s) ← below.parseGenerics s
      let (w, s) ← below.parseWhere s
      let opening := groupEnds s.trees
      let (c, s) ← s.group .brace
      let (variants, c) ← below.parseVariants c
      release c
      written (vis ++ en ++ [n] ++ g ++ w ++ [regroup opening variants]) s
    else if keywordAt t "union" && peekAfter 1 identAt t then
      let (un, s) ← ahead.tree
      let (n, s) ← s.tree
      let (g, s) ← below.parseGenerics s
      let (w, s) ← below.parseWhere s
      let (fields, s) ← below.parseFields true s
      written (vis ++ [un, n] ++ g ++ w ++ fields) s
    else if keywordAt t "trait" || keywordAt t "auto" && peekAfter 1 (keywordAt · "trait") t then
      let (tr, s) ← below.parseTrait s
      written tr s
    else if keywordAt t "impl" ||
        keywordAt t "default" && !peekAfter 1 (punctAt · ['!']) t then
      let ((im, keep), s) ← below.parseImpl s
      if keep then kept s else written im s
    else if vis.isEmpty && (identAt t || keywordAt t "self" || keywordAt t "super" ||
        keywordAt t "crate" || punctAt t [':', ':']) then s.fail "expected expression"
    else ahead.expected (itemStarts t vis.isEmpty)

end LoxFront.Schema
