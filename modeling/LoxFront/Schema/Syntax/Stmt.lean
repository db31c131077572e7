import LoxFront.Schema.Syntax.Readers
/-!
Blocks and statements, conditionals, loops, `match` and its arms, and patterns.
-/
namespace LoxFront.Schema

/-- Blocks and statements, conditionals, loops, `match` and its arms, and patterns, read with
`below` for what they contain. -/
def Readers.stmtReaders (below : Readers) : StmtReaders where
  parseInnerAttributes s := do
    if punctAt s.trees ['#'] && peekAfter 1 (punctAt · ['!']) s.trees then
      let start := s
      let s ← s.punct "#"
      let s ← s.punct "!"
      let (c, s) ← s.group .bracket
      let _ ← below.parseModPath c
      let (rest, s) ← below.parseInnerAttributes s
      pure (start.treesUntil s ++ rest, s)
    else pure ([], s)
  parseStmts s := do
    if punctAt s.trees [';'] then
      let (semi, s) ← s.punctOut ";"
      let (rest, s) ← below.parseStmts s
      pure (semi ++ rest, s)
    else if s.isEmpty then pure ([], s)
    else
      let (stmt, s) ← below.parseStmt s
      if s.isEmpty then pure (stmt.1, s)
      else if stmt.2 then s.fail "unexpected token"
      else
        let (rest, s) ← below.parseStmts s
        pure (stmt.1 ++ rest, s)
  parseStmt s := do
    let begin := s
    let (attrs, s) ← below.parseAttributes s
    if keywordAt s.trees "let" then
      let (l, s) ← s.tree
      let (pat, s) ← below.parseMultiPat s
      let (ty, s) ← if punctAt s.trees [':'] then do
          let (colon, s) ← s.punctOut ":"
          let (ty, s) ← below.parseType true s
          pure (colon ++ ty.trees, s)
        else pure ([], s)
      if punctAt s.trees ['='] then
        let (eq, s) ← s.punctOut "="
        let (e, s) ← below.parseExpr true s
        if keywordAt s.trees "else" then
          let s ← s.keyword "else"
          let (_, s) ← below.parseBlock false s
          let kept := begin.treesUntil s
          let (semi, s) ← s.punctOut ";"
          pure ((kept ++ semi, false), s)
        else
          let (semi, s) ← s.punctOut ";"
          pure ((attrs ++ l :: pat ++ ty ++ eq ++ e.trees ++ semi, false), s)
      else
        let (semi, s) ← s.punctOut ";"
        pure ((attrs ++ l :: pat ++ ty ++ semi, false), s)
    else if itemStartAt s.trees then
      if unmodelledItemAt s.trees then s.fail "expected expression"
      else
        let (item, s) ← below.parseItem s
        pure (((if item.2 then item.1 else attrs ++ item.1), false), s)
    else
      let (e, s) ← below.parseEarly s
      if punctAt s.trees [';'] then
        let (semi, s) ← s.punctOut ";"
        pure ((attrs ++ e.trees ++ semi, false), s)
      else pure ((attrs ++ e.trees, !e.blockLike), s)
  parseEarly s := do
    let (attrs, s) ← below.parseAttributes s
    if earlyKeywordAt s.trees then
      let (e, s) ← below.parseAtom true s
      if punctAt s.trees ['.'] && !punctAt s.trees ['.', '.'] || punctAt s.trees ['?'] then
        let (e, s) ← below.parseTrailers e s
        let (e, s) ← below.parseBinary true 0 e s
        pure ({ e with trees := attrs ++ e.trees }, s)
      else pure ({ e with trees := attrs ++ e.trees }, s)
    else
      let (e, s) ← below.parseUnary true s
      let (e, s) ← below.parseBinary true 0 e s
      pure ({ e with trees := attrs ++ e.trees }, s)
  parseIf s := do
    let (k, s) ← s.keywordOut "if"
    let (cond, s) ← below.parseExpr false s
    let (b, s) ← below.parseBlock false s
    if keywordAt s.trees "else" then
      let (e, s) ← s.keywordOut "else"
      if keywordAt s.trees "if" then
        let (rest, s) ← below.parseIf s
        pure ({ trees := k ++ cond.trees ++ b ++ e ++ rest.trees, blockLike := true }, s)
      else if groupAt s.trees .brace then
        let (eb, s) ← below.parseBlock false s
        pure ({ trees := k ++ cond.trees ++ b ++ e ++ eb, blockLike := true }, s)
      else s.expected []
    else pure ({ trees := k ++ cond.trees ++ b, blockLike := true }, s)
  parseLoop label s := do
    if keywordAt s.trees "while" then
      let (k, s) ← s.tree
      let (cond, s) ← below.parseExpr false s
      let (b, s) ← below.parseBlock true s
      pure ({ trees := label ++ k :: cond.trees ++ b, blockLike := true }, s)
    else if keywordAt s.trees "for" then
      let (k, s) ← s.tree
      let (pat, s) ← below.parseMultiPat s
      let (inTree, s) ← s.keywordOut "in"
      let (e, s) ← below.parseExpr false s
      let (b, s) ← below.parseBlock true s
      pure ({ trees := label ++ k :: pat ++ inTree ++ e.trees ++ b, blockLike := true }, s)
    else
      let (k, s) ← s.keywordOut "loop"
      let (b, s) ← below.parseBlock true s
      pure ({ trees := label ++ k ++ b, blockLike := true }, s)
  parseMatch s := do
    let (k, s) ← s.keywordOut "match"
    let (e, s) ← below.parseExpr false s
    let opening := groupEnds s.trees
    let (c, s) ← s.group .brace
    let (attrs, c) ← below.parseInnerAttributes c
    let (arms, c) ← below.parseArms c
    release c
    pure ({ trees := k ++ e.trees ++ [regroup opening (attrs ++ arms)], blockLike := true }, s)
  parseArms s := do
    if s.isEmpty then pure ([], s)
    else
      let (attrs, s) ← below.parseAttributes s
      let (pat, s) ← below.parseMultiPat s
      let (guard, s) ← if keywordAt s.trees "if" then do
          let (k, s) ← s.tree
          let (g, s) ← below.parseExpr true s
          pure (k :: g.trees, s)
        else pure ([], s)
      let (arrow, s) ← s.punctOut "=>"
      let (body, s) ← below.parseEarly s
      let (comma, s) ← if !body.blockLike && !s.isEmpty then s.punctOut ","
        else if punctAt s.trees [','] then s.punctOut ","
        else pure ([], s)
      let (rest, s) ← below.parseArms s
      pure (attrs ++ pat ++ guard ++ arrow ++ body.trees ++ comma ++ rest, s)
  parseMultiPat s := do
    let (lead, s) ← if punctAt s.trees ['|'] then s.punctOut "|" else pure ([], s)
    let (p, s) ← below.parsePat s
    let (rest, s) ← below.parseMorePats s
    pure (lead ++ p ++ rest, s)
  parseMorePats s := do
    if punctAt s.trees ['|'] && !punctAt s.trees ['|', '|'] && !punctAt s.trees ['|', '='] then
      let (bar, s) ← s.punctOut "|"
      let (p, s) ← below.parsePat s
      let (rest, s) ← below.parseMorePats s
      pure (bar ++ p ++ rest, s)
    else pure ([], s)
  parsePat s := do
    let t := s.trees
    let identThen := identAt t && (peekAfter 1 (punctAt · [':', ':']) t ||
      peekAfter 1 (punctAt · ['!']) t || peekAfter 1 (groupAt · .brace) t ||
      peekAfter 1 (groupAt · .paren) t ||
      peekAfter 1 (punctAt · ['.', '.']) t && !(peekAfter 3 (fun u => u.isEmpty) t ||
        peekAfter 3 (punctAt · [',']) t))
    if identThen || keywordAt t "self" && peekAfter 1 (punctAt · [':', ':']) t ||
        punctAt t [':', ':'] || punctAt t ['<'] || keywordAt t "Self" || keywordAt t "super" ||
        keywordAt t "crate" then
      let begin := s
      let (p, s) ← if punctAt s.trees ['<'] then below.parseQualified true s
        else below.parsePath true s
      if !p.qualified && punctAt s.trees ['!'] && !punctAt s.trees ['!', '='] && !p.anyArgs then
        let (bang, s) ← s.punctOut "!"
        let (body, s) ← s.tree
        match body with
        | .group .. => pure (p.trees ++ bang ++ [resurround body], s)
        | _ => s.fail "expected delimiter"
      else if groupAt s.trees .brace || groupAt s.trees .paren then
        let d := if groupAt s.trees .brace then Delimiter.brace else .paren
        let opening := groupEnds s.trees
        let (c, s) ← s.group d
        let (elems, c) ← if d == .brace then below.parseFieldPats c else below.parsePatList c
        release c
        if p.qualified then pure (begin.treesUntil s, s)
        else pure (p.trees ++ [regroup opening elems], s)
      else if punctAt s.trees ['.', '.'] then
        let (limits, s) ← s.rangeLimitsOut
        let (hi, s) ← below.parsePatRangeEnd s
        pure (p.trees ++ limits ++ hi, s)
      else pure (p.trees, s)
    else if keywordAt t "_" then
      let (u, s) ← s.tree
      pure ([u], s)
    else if keywordAt t "box" then
      let (b, s) ← s.keywordOut "box"
      let (p, s) ← below.parsePat s
      pure (b ++ p, s)
    else if punctAt t ['-'] || literalOutAt t || keywordAt t "const" then
      let (lo, s) ← below.parsePatRangeEnd s
      if punctAt s.trees ['.', '.'] then
        let (limits, s) ← s.rangeLimitsOut
        let (hi, s) ← below.parsePatRangeEnd s
        pure (lo ++ limits ++ hi, s)
      else pure (lo, s)
    else if keywordAt t "ref" || keywordAt t "mut" || keywordAt t "self" || identAt t then
      let (r, s) ← if keywordAt s.trees "ref" then s.keywordOut "ref" else pure ([], s)
      let (m, s) ← if keywordAt s.trees "mut" then s.keywordOut "mut" else pure ([], s)
      let (_, s') ← s.anyIdent
      let (n, _) ← s.tree
      let s := s'
      if punctAt s.trees ['@'] then
        let (binding, s) ← s.punctOut "@"
        let (sub, s) ← below.parsePat s
        pure (r ++ m ++ n :: binding ++ sub, s)
      else pure (r ++ m ++ [n], s)
    else if punctAt t ['&'] then
      let (amp, s) ← s.punctOut "&"
      let (m, s) ← if keywordAt s.trees "mut" then s.keywordOut "mut" else pure ([], s)
      let (p, s) ← below.parsePat s
      pure (amp ++ m ++ p, s)
    else if groupAt t .paren || groupAt t .bracket then
      let opening := groupEnds t
      let (c, s) ← s.group opening.1
      let (elems, c) ← below.parsePatList c
      release c
      pure ([regroup opening elems], s)
    else if punctAt t ['.', '.'] && !punctAt t ['.', '.', '.'] then
      let (limits, s) ← s.rangeLimitsOut
      let (hi, s) ← below.parsePatRangeEnd s
      pure (limits ++ hi, s)
    else s.expected ["`::`", "`<`", "`_`", "literal", "`const`", "`ref`", "`mut`", "`&`",
      "parentheses", "square brackets", "`..`", "`const`"]
  parseFieldPats s := do
    if s.isEmpty then pure ([], s)
    else
      let (attrs, s) ← below.parseAttributes s
      if punctAt s.trees ['.', '.'] then
        let (dots, s) ← s.punctOut ".."
        pure (attrs ++ dots, s)
      else
        let (field, s) ← if (identAt s.trees || plainIntAt s.trees) &&
            peekAfter 1 (punctAt · [':']) s.trees then do
            let (n, s) ← s.tree
            let (colon, s) ← s.punctOut ":"
            let (p, s) ← below.parseMultiPat s
            pure (n :: colon ++ p, s)
          else do
            let (b, s) ← if keywordAt s.trees "box" then s.keywordOut "box" else pure ([], s)
            let (r, s) ← if keywordAt s.trees "ref" then s.keywordOut "ref" else pure ([], s)
            let (m, s) ← if keywordAt s.trees "mut" then s.keywordOut "mut" else pure ([], s)
            let (_, s') ← s.ident
            let (n, _) ← s.tree
            pure (b ++ r ++ m ++ [n], s')
        if s.isEmpty then pure (attrs ++ field, s)
        else
          let (comma, s) ← s.punctOut ","
          let (rest, s) ← below.parseFieldPats s
          pure (attrs ++ field ++ comma ++ rest, s)
  parsePatRangeEnd s := do
    let t := s.trees
    if s.isEmpty || punctAt t ['|'] || punctAt t ['='] || punctAt t [':'] && !punctAt t [':', ':'] ||
        punctAt t [','] || punctAt t [';'] then pure ([], s)
    else
      let (neg, s) ← if punctAt s.trees ['-'] then s.punctOut "-" else pure ([], s)
      let u := s.trees
      if literalOutAt u then
        let (l, s) ← s.literalOut
        pure (neg ++ l, s)
      else if pathStartAt u then
        let (p, s) ← if punctAt u ['<'] then below.parseQualified true s
          else below.parsePath true s
        pure (neg ++ p.trees, s)
      else if keywordAt u "const" then
        let begin := s
        let s ← s.keyword "const"
        let (_, s) ← below.parseBlock true s
        pure (neg ++ begin.treesUntil s, s)
      else s.expected ["literal", "identifier", "`::`", "`<`", "`self`", "`Self`", "`super`",
        "`crate`", "`const`"]
  parsePatList s := do
    if s.isEmpty then pure ([], s)
    else
      let (p, s) ← below.parseMultiPat s
      if s.isEmpty then pure (p, s)
      else
        let (comma, s) ← s.punctOut ","
        let (rest, s) ← below.parsePatList s
        pure (p ++ comma ++ rest, s)

end LoxFront.Schema
