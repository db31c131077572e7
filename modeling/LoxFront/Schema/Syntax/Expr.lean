import LoxFront.Schema.Syntax.Readers
/-!
Expressions: operators by precedence, unary operators, calls, fields and indexing, and what they
start from.
-/
namespace LoxFront.Schema

/-- Expressions, read with `below` for what they contain. -/
def Readers.exprReaders (below : Readers) : ExprReaders where
  parseExpr allowStruct s := do
    let (lhs, s) ← below.parseUnary allowStruct s
    below.parseBinary allowStruct 0 lhs s
  parseBinary allowStruct base lhs s := do
    let t := s.trees
    match binaryAt t with
    | some (op, prec) =>
      if prec ≥ base then
        let (opTrees, s) ← s.punctOut op
        let (rhs, s) ← below.parseUnary allowStruct s
        let (rhs, s) ← below.parseRight allowStruct prec (prec == assignLevel) rhs s
        below.parseBinary allowStruct base { trees := lhs.trees ++ opTrees ++ rhs.trees } s
      else pure (lhs, s)
    | none =>
      if assignLevel ≥ base && punctAt t ['='] && !punctAt t ['=', '='] &&
          !punctAt t ['=', '>'] then
        let (eq, s) ← s.punctOut "="
        let (rhs, s) ← below.parseUnary allowStruct s
        let (rhs, s) ← below.parseRight allowStruct assignLevel true rhs s
        below.parseBinary allowStruct base { trees := lhs.trees ++ eq ++ rhs.trees } s
      else if rangeLevel ≥ base && punctAt t ['.', '.'] then
        let (limits, s) ← s.rangeLimitsOut
        if rangeEndsAt allowStruct s then
          below.parseBinary allowStruct base { trees := lhs.trees ++ limits, isRange := true } s
        else
          let (rhs, s) ← below.parseUnary allowStruct s
          let (rhs, s) ← below.parseRight allowStruct rangeLevel false rhs s
          below.parseBinary allowStruct base
            { trees := lhs.trees ++ limits ++ rhs.trees, isRange := true } s
      else if castLevel ≥ base && keywordAt t "as" then
        let (asTree, s) ← s.keywordOut "as"
        let (ty, s) ← below.parseType false s
        checkCast s
        below.parseBinary allowStruct base { trees := lhs.trees ++ asTree ++ ty.trees } s
      else if castLevel ≥ base && punctAt t [':'] && !punctAt t [':', ':'] then
        let (colon, s) ← s.punctOut ":"
        let (ty, s) ← below.parseType false s
        checkCast s
        below.parseBinary allowStruct base { trees := lhs.trees ++ colon ++ ty.trees } s
      else pure (lhs, s)
  parseRight allowStruct prec atLeast rhs s := do
    let next := nextLevel s.trees
    if next > prec || atLeast && next == prec && next != 0 then
      let (rhs, s) ← below.parseBinary allowStruct next rhs s
      below.parseRight allowStruct prec atLeast rhs s
    else pure (rhs, s)
  parseUnary allowStruct s := do
    let (attrs, s) ← below.parseAttributes s
    let t := s.trees
    if punctAt t ['&'] then
      let (amp, s) ← s.punctOut "&"
      let isRaw := match s.trees with
        | .ident "raw" false _ :: rest => keywordAt rest "mut" || keywordAt rest "const"
        | _ => false
      let (raw, s) ← if isRaw then do
          let (r, s) ← s.tree
          pure ([r], s)
        else pure ([], s)
      let (mutable, s) ← if keywordAt s.trees "mut" then s.keywordOut "mut" else pure ([], s)
      let (constant, s) ← if isRaw && mutable.isEmpty then s.keywordOut "const"
        else pure ([], s)
      let (e, s) ← below.parseUnary allowStruct s
      pure ({ trees := attrs ++ amp ++ raw ++ mutable ++ constant ++ e.trees }, s)
    else if keywordAt t "box" then
      let (b, s) ← s.keywordOut "box"
      let (e, s) ← below.parseUnary allowStruct s
      pure ({ trees := attrs ++ b ++ e.trees }, s)
    else if punctAt t ['*'] || punctAt t ['!'] || punctAt t ['-'] then
      let (op, s) ← s.tree
      let opTree := match op with
        | .punct c _ sp => TokenTree.punct c false sp
        | other => other
      let (e, s) ← below.parseUnary allowStruct s
      pure ({ trees := attrs ++ opTree :: e.trees }, s)
    else
      let (e, s) ← below.parseAtom allowStruct s
      let (e, s) ← below.parseTrailers e s
      pure ({ e with trees := attrs ++ e.trees }, s)
  parseTrailers e s := do
    let t := s.trees
    if groupAt t .paren then
      let opening := groupEnds t
      let (c, s) ← s.group .paren
      let (args, c) ← below.parseExprList c
      release c
      below.parseTrailers { trees := e.trees ++ [regroup opening args] } s
    else if punctAt t ['.'] && !punctAt t ['.', '.'] && !e.isRange then
      let (dot, s) ← s.punctOut "."
      if keywordAt s.trees "await" then
        let (a, s) ← s.tree
        below.parseTrailers { trees := e.trees ++ dot ++ [a] } s
      else if let .literal text sp :: _ := s.trees then
        match memberTrees text sp with
        | some member =>
          let (_, s) ← s.tree
          below.parseTrailers { trees := e.trees ++ dot ++ member } s
        | none => s.fail "expected unsuffixed integer"
      else if identAt s.trees then
        let (m, s) ← s.tree
        let (turbofish, s) ← if punctAt s.trees [':', ':'] then below.parseAngleArgs s
          else pure ([], s)
        if !turbofish.isEmpty || groupAt s.trees .paren then
          let opening := groupEnds s.trees
          let (c, s) ← s.group .paren
          let (args, c) ← below.parseExprList c
          release c
          below.parseTrailers
            { trees := e.trees ++ dot ++ m :: turbofish ++ [regroup opening args] } s
        else below.parseTrailers { trees := e.trees ++ dot ++ [m] } s
      else s.fail "expected identifier or integer"
    else if groupAt t .bracket then
      let opening := groupEnds t
      let (c, s) ← s.group .bracket
      let (index, c) ← below.parseExpr true c
      release c
      below.parseTrailers { trees := e.trees ++ [regroup opening index.trees] } s
    else if punctAt t ['?'] then
      let (q, s) ← s.punctOut "?"
      below.parseTrailers { trees := e.trees ++ q } s
    else pure (e, s)
  parseExprList s := do
    if s.isEmpty then pure ([], s)
    else
      let (e, s) ← below.parseExpr true s
      if s.isEmpty then pure (e.trees, s)
      else
        let (comma, s) ← s.punctOut ","
        let (rest, s) ← below.parseExprList s
        pure (e.trees ++ comma ++ rest, s)
  parseAtom allowStruct s := do
    let t := s.trees
    if literalOutAt t && !punctAt t ['-'] then
      let (l, s) ← s.literalOut
      pure ({ trees := l }, s)
    else if keywordAt t "async" && (peekAfter 1 (groupAt · .brace) t ||
        peekAfter 1 (keywordAt · "move") t && peekAfter 2 (groupAt · .brace) t) then
      let (a, s) ← s.tree
      let (m, s) ← if keywordAt s.trees "move" then s.keywordOut "move" else pure ([], s)
      let (b, s) ← below.parseBlock false s
      pure ({ trees := a :: m ++ b, blockLike := true }, s)
    else if keywordAt t "try" && peekAfter 1 (groupAt · .brace) t then
      let (k, s) ← s.tree
      let (b, s) ← below.parseBlock false s
      pure ({ trees := k :: b, blockLike := true }, s)
    else if punctAt t ['|'] || keywordAt t "async" && (peekAfter 1 (punctAt · ['|']) t ||
        peekAfter 1 (keywordAt · "move") t) || keywordAt t "static" || keywordAt t "move" then
      below.parseClosure allowStruct s
    else if keywordAt t "for" && peekAfter 1 (punctAt · ['<']) t &&
        (peekAfter 2 lifetimeAt t || peekAfter 2 (punctAt · ['>']) t) then
      let begin := s
      let (_, s) ← below.parseBinder s
      let (_, s) ← below.parseClosure allowStruct s
      pure ({ trees := begin.treesUntil s }, s)
    else if pathStartAt t then below.parsePathExpr allowStruct s
    else if groupAt t .paren then
      let opening := groupEnds t
      let (c, s) ← s.group .paren
      let (inner, c) ← below.parseExprList c
      release c
      pure ({ trees := [regroup opening inner] }, s)
    else if keywordAt t "break" then
      let (b, s) ← s.tree
      let (label, s) ← if lifetimeAt s.trees then s.lifetimeOut else pure ([], s)
      let u := s.trees
      if s.isEmpty || punctAt u [','] || punctAt u [';'] || !allowStruct && groupAt u .brace then
        pure ({ trees := b :: label }, s)
      else
        let (e, s) ← below.parseExpr allowStruct s
        pure ({ trees := b :: label ++ e.trees }, s)
    else if keywordAt t "continue" then
      let (c, s) ← s.tree
      let (label, s) ← if lifetimeAt s.trees then s.lifetimeOut else pure ([], s)
      pure ({ trees := c :: label }, s)
    else if keywordAt t "return" || keywordAt t "yield" then
      let (r, s) ← s.tree
      let u := s.trees
      if s.isEmpty || punctAt u [','] || punctAt u [';'] then pure ({ trees := [r] }, s)
      else
        let (e, s) ← below.parseExpr allowStruct s
        pure ({ trees := r :: e.trees }, s)
    else if groupAt t .bracket then
      let opening := groupEnds t
      let (c, s) ← s.group .bracket
      if c.isEmpty then pure ({ trees := [regroup opening []] }, s)
      else
        let (first, c) ← below.parseExpr true c
        if c.isEmpty || punctAt c.trees [','] then
          let (rest, c) ← if c.isEmpty then pure ([], c) else do
            let (comma, c) ← c.punctOut ","
            let (more, c) ← below.parseExprList c
            pure (comma ++ more, c)
          release c
          pure ({ trees := [regroup opening (first.trees ++ rest)] }, s)
        else if punctAt c.trees [';'] then
          let (semi, c) ← c.punctOut ";"
          let (len, c) ← below.parseExpr true c
          release c
          pure ({ trees := [regroup opening (first.trees ++ semi ++ len.trees)] }, s)
        else c.fail "expected `,` or `;`"
    else if keywordAt t "let" then
      let (l, s) ← s.tree
      let (pat, s) ← below.parseMultiPat s
      let (eq, s) ← s.punctOut "="
      let (e, s) ← below.parseUnary false s
      let (e, s) ← below.parseBinary false compareLevel e s
      pure ({ trees := l :: pat ++ eq ++ e.trees }, s)
    else if keywordAt t "if" then below.parseIf s
    else if keywordAt t "while" || keywordAt t "for" || keywordAt t "loop" then
      below.parseLoop [] s
    else if keywordAt t "match" then below.parseMatch s
    else if keywordAt t "unsafe" then
      let (u, s) ← s.tree
      let (b, s) ← below.parseBlock true s
      pure ({ trees := u :: b, blockLike := true }, s)
    else if keywordAt t "const" then
      let begin := s
      let s ← s.keyword "const"
      let (_, s) ← below.parseBlock true s
      pure ({ trees := begin.treesUntil s }, s)
    else if groupAt t .brace then below.parseBlockExpr s
    else if punctAt t ['.', '.'] then
      let (limits, s) ← s.rangeLimitsOut
      if rangeEndsAt allowStruct s then pure ({ trees := limits, isRange := true }, s)
      else
        let (rhs, s) ← below.parseUnary allowStruct s
        let (rhs, s) ← below.parseRight allowStruct rangeLevel false rhs s
        pure ({ trees := limits ++ rhs.trees, isRange := true }, s)
    else if keywordAt t "_" then
      let (u, s) ← s.tree
      pure ({ trees := [u] }, s)
    else if lifetimeAt t then
      let (label, s) ← s.lifetimeOut
      let (colon, s) ← s.punctOut ":"
      let u := s.trees
      if keywordAt u "while" || keywordAt u "for" || keywordAt u "loop" then
        below.parseLoop (label ++ colon) s
      else if groupAt u .brace then
        let (b, s) ← below.parseBlockExpr s
        pure ({ b with trees := label ++ colon ++ b.trees }, s)
      else s.fail "expected loop or block expression"
    else s.fail "expected expression"
  parsePathExpr allowStruct s := do
    let begin := s
    let (p, s) ← if punctAt s.trees ['<'] then below.parseQualified true s
      else below.parsePath true s
    if !p.qualified && punctAt s.trees ['!'] && !punctAt s.trees ['!', '='] && !p.anyArgs then
      let (bang, s) ← s.punctOut "!"
      let (body, s) ← s.tree
      match body with
      | .group .. => pure ({ trees := p.trees ++ bang ++ [resurround body] }, s)
      | _ => s.fail "expected delimiter"
    else if allowStruct && groupAt s.trees .brace then
      let opening := groupEnds s.trees
      let (c, s) ← s.group .brace
      let (fields, c) ← below.parseFieldValues c
      release c
      if p.qualified then pure ({ trees := begin.treesUntil s }, s)
      else pure ({ trees := p.trees ++ [regroup opening fields] }, s)
    else pure ({ trees := p.trees }, s)
  parseFieldValues s := do
    if s.isEmpty then pure ([], s)
    else if punctAt s.trees ['.', '.'] then
      let (dots, s) ← s.punctOut ".."
      if s.isEmpty then pure (dots, s)
      else
        let (e, s) ← below.parseExpr true s
        pure (dots ++ e.trees, s)
    else
      let (attrs, s) ← below.parseAttributes s
      let named := identAt s.trees
      let (member, s) ← if named then do
          let (n, s) ← s.tree
          pure ([n], s)
        else match s.trees with
          | .literal text sp :: _ =>
            match (if text.toList.contains '.' then none else memberTrees text sp) with
            | some m => do
              let (_, s) ← s.tree
              pure (m, s)
            | none => s.fail "expected identifier or integer"
          | _ => s.fail "expected identifier or integer"
      let (value, s) ← if punctAt s.trees [':'] || !named then do
          let (colon, s) ← s.punctOut ":"
          let (e, s) ← below.parseExpr true s
          pure (colon ++ e.trees, s)
        else pure ([], s)
      let field := attrs ++ member ++ value
      if s.isEmpty then pure (field, s)
      else
        let (comma, s) ← s.punctOut ","
        let (rest, s) ← below.parseFieldValues s
        pure (field ++ comma ++ rest, s)
  parseClosure allowStruct s := do
    let (st, s) ← if keywordAt s.trees "static" then s.keywordOut "static" else pure ([], s)
    let (asy, s) ← if keywordAt s.trees "async" then s.keywordOut "async" else pure ([], s)
    let (mv, s) ← if keywordAt s.trees "move" then s.keywordOut "move" else pure ([], s)
    let (bar, s) ← s.punctOut "|"
    let (params, s) ← below.parseClosureParams s
    let (bar2, s) ← s.punctOut "|"
    if punctAt s.trees ['-', '>'] then
      let (arrow, s) ← s.punctOut "->"
      let (ty, s) ← below.parseType true s
      let (b, s) ← below.parseBlock false s
      pure ({ trees := st ++ asy ++ mv ++ bar ++ params ++ bar2 ++ arrow ++ ty.trees ++ b }, s)
    else
      let (body, s) ← below.parseExpr allowStruct s
      pure ({ trees := st ++ asy ++ mv ++ bar ++ params ++ bar2 ++ body.trees }, s)
  parseClosureParams s := do
    if punctAt s.trees ['|'] then pure ([], s)
    else
      let (attrs, s) ← below.parseAttributes s
      let (pat, s) ← below.parsePat s
      let (ty, s) ← if punctAt s.trees [':'] then do
          let (colon, s) ← s.punctOut ":"
          let (ty, s) ← below.parseType true s
          pure (colon ++ ty.trees, s)
        else pure ([], s)
      if punctAt s.trees ['|'] then pure (attrs ++ pat ++ ty, s)
      else
        let (comma, s) ← s.punctOut ","
        let (rest, s) ← below.parseClosureParams s
        pure (attrs ++ pat ++ ty ++ comma ++ rest, s)
  parseBlockExpr s := do
    let (b, s) ← below.parseBlock true s
    pure ({ trees := b, blockLike := true }, s)
  parseBlock inner s := do
    let opening := groupEnds s.trees
    let (c, s) ← s.group .brace
    let (attrs, c) ← if inner then below.parseInnerAttributes c else pure ([], c)
    let (stmts, c) ← below.parseStmts c
    release c
    pure ([regroup opening (attrs ++ stmts)], s)

end LoxFront.Schema
