import LoxFront.Code.Grammar.Parsers
/-!
Expressions by precedence: binary operators, casts, ranges, and prefix operators.
-/
namespace LoxFront.Code

open LoxFront.Schema (Span Delimiter)
open Parse

/-- Expressions by precedence, read with `below` for what they contain. -/
def Grammar.operatorParsers (below : Grammar) : OperatorParsers where
  parseExpr := do
    let attrs ← below.parseOuterAttributes
    below.parseExprRes {} attrs
  parseExprRes r attrs := withRes r (below.parseExprAssocWith 0 attrs)
  parseExprAssocWith minPrec attrs := do
    if (← kind).isRangeSeparator then return ← below.parseExprPrefixRange attrs
    let lhs ← below.parseExprPrefix attrs
    below.parseExprAssocRest minPrec lhs
  parseExprAssocRest minPrec lhs := do
    if !(← shouldContinueAssoc lhs) then return lhs
    addExpected "an operator"
    below.parseAssocLoop minPrec lhs
  parseAssocLoop minPrec lhs := do
    let some (op, opSpan) ← checkAssocOp | return lhs
    let r ← restrictions
    let res : Restrictions := match op with
      | .assign | .assignOp _ => { noStructLiteral := r.noStructLiteral }
      | _ => r
    let prec := op.prec
    if prec < minPrec then return lhs
    let t ← token
    if t.kind == .op "..." then emit "unexpected token: `...`" t.span
    if t.kind == .op "<-" then emit "unexpected token: `<-`" t.span
    bump
    if let .binary bop := op then
      if bop.isComparison then
        if let some e := (← below.checkNoChainedComparison lhs bop) then return e
      let cur ← token
      let pv ← prev
      if (bop == .eq || bop == .ne) && cur.kind == .op "=" && adjacent pv cur then
        emit ("invalid comparison operator `" ++ bop.text ++ "=`") opSpan
        bump
      if bop == .lt && cur.kind == .op ">" && adjacent pv cur then
        emit "invalid comparison operator `<>`" opSpan
        bump
      if bop == .le && cur.kind == .op ">" && adjacent pv cur then
        emit "invalid comparison operator `<=>`" opSpan
        bump
    let pv ← prev
    let cur ← token
    if pv.kind == .op "+" && cur.kind == .op "+" && adjacent pv cur then
      bump
      throw ⟨"Rust has no postfix increment operator", pv.span, false⟩
    if pv.kind == .op "-" && cur.kind == .op "-" && adjacent pv cur then
      if !(← lookAhead 1 Kind.canBeginExpr) then
        bump
        throw ⟨"Rust has no postfix decrement operator", pv.span, false⟩
    match op with
    | .cast =>
      let lhs' ← below.parseAssocOpCast lhs
      below.parseAssocLoop minPrec lhs'
    | .range limits => below.parseExprRange prec lhs limits
    | _ =>
      let minPrec' := if op.rightAssoc then prec else prec + 1
      let rhs ← withRes { res with stmtExpr := false } (do
        let attrs ← below.parseOuterAttributes
        below.parseExprAssocWith minPrec' attrs)
      let kind : ExprKind := match op with
        | .binary b => .binary b opSpan lhs rhs
        | .assign => .assign lhs rhs
        | .assignOp b => .assignOp b lhs rhs
        | _ => .err
      below.parseAssocLoop minPrec (.mk [] kind lhs.span)
  checkNoChainedComparison inner outer := do
    match inner.kind with
    | .binary op innerOpSpan l1 r1 =>
      if !op.isComparison then return none
      let err : Diag := ⟨"comparison operators cannot be chained", innerOpSpan, false⟩
      if (op == .lt && outer == .lt) || outer == .gt then
        if outer == .lt then
          let snap ← snapshot
          bump
          consumeTts angleWeight below.depth 1
          let k ← kind
          if !(k == lparen || k == .op "::") then restore snap
        let k ← kind
        if k == .op "::" then
          let snap ← snapshot
          bump
          match ← attempt (below.parseExpr) with
          | .ok _ =>
            emitDiag err
            return some (errExpr inner.span)
          | .error _ =>
            restore snap
            throw err
        if k == lparen then
          if ← consumeFnArgs below.depth then
            emitDiag err
            return some (errExpr inner.span)
          throw err
        if ← below.attemptChainedComparisonSuggestion op l1 r1 outer then
          emitDiag err
          return some (errExpr inner.span)
        throw err
      let recovered ← below.attemptChainedComparisonSuggestion op l1 r1 outer
      emitDiag err
      if recovered then return some (errExpr inner.span)
      return none
    | _ => return none
  attemptChainedComparisonSuggestion op l1 r1 outer := do
    if let .field _ ident := l1.kind then
      let isLit := match r1.kind with
        | .lit _ => true
        | _ => false
      if !(ident.name.all Char.isDigit) && !isLit then return false
    let mixed := (op == .eq && (outer == .lt || outer == .le || outer == .gt || outer == .ge)) ||
      ((op == .lt || op == .le || op == .gt || op == .ge) && outer == .eq)
    if !mixed then return false
    let snap ← snapshot
    match ← attempt (below.parseExpr) with
    | .ok _ => return true
    | .error _ =>
      restore snap
      return false
  parseAssocOpCast lhs := do
    let before ← snapshot
    let castExpr ← match ← attempt (below.parseTyMode { allowPlus := false, recoverQuestion := false }) with
      | .ok ty => pure (Expr.mk [] (.cast lhs ty) lhs.span)
      | .error typeErr => do
        let after ← snapshot
        restore before
        match ← attempt (below.parsePath .expr) with
        | .ok path =>
          let k ← kind
          if k == .op "<" then
            emit ("`<` is interpreted as a start of generic arguments for `" ++ path.plainText ++
              "`, not a comparison") (← token).span
          else if k == .op "<<" then
            emit ("`<<` is interpreted as a start of generic arguments for `" ++ path.plainText ++
              "`, not a shift") (← token).span
          else
            restore after
            throw typeErr
          pure (Expr.mk [] (.cast lhs (.path none path)) lhs.span)
        | .error _ =>
          restore after
          throw typeErr
    let withPostfix ← below.parseExprDotOrCallWith [] castExpr
    match withPostfix.kind with
    | .cast .. | .err => return withPostfix
    | k =>
      let what := match k with
        | .index .. => "indexing"
        | .tryOp _ => "`?`"
        | .field .. => "a field access"
        | .methodCall .. => "a method call"
        | .call .. => "a function call"
        | .await _ => "`.await`"
        | _ => "a postfix expression"
      emit ("cast cannot be followed by " ++ what) castExpr.span
      return withPostfix
  parseExprRange prec lhs limits := do
    let stop ← if ← isAtStartOfRangeRhs then do
        let attrs ← below.parseOuterAttributes
        pure (some (← below.parseExprAssocWith (prec + 1) attrs))
      else pure none
    mkRange (some lhs) stop limits lhs.span
  parseExprPrefixRange attrs := do
    let t ← token
    if !attrs.isEmpty then
      emit "attributes are not allowed on range expressions starting with `..`" t.span
    if t.kind == .op "..." then emit "unexpected token: `...`" t.span
    let limits := if t.kind == .op ".." then RangeLimits.halfOpen else .closed
    let attrs2 ← below.parseOuterAttributes
    let lo := (← token).span
    bump
    let stop ← if ← isAtStartOfRangeRhs then do
        let a ← below.parseOuterAttributes
        pure (some (← below.parseExprAssocWith (Prec.range + 1) a))
      else pure none
    let e ← mkRange none stop limits lo
    return e.withAttrs attrs2
  parseExprPrefix attrs := do
    let t ← token
    let lo := t.span
    match t.kind with
    | .op "!" => return .mk attrs (.unary .not (← below.parseExprPrefixCommon)) lo
    | .op "~" =>
      let operand ← below.parseExprPrefixCommon
      emit "`~` cannot be used as a unary operator" lo
      return .mk attrs (.unary .not operand) lo
    | .op "-" => return .mk attrs (.unary .neg (← below.parseExprPrefixCommon)) lo
    | .op "*" => return .mk attrs (.unary .deref (← below.parseExprPrefixCommon)) lo
    | .op "&" | .op "&&" => below.parseExprBorrow lo attrs
    | .op "+" =>
      if ← lookAhead 1 Kind.isNumericLit then
        emit "leading `+` is not supported" lo
        bump
        let a ← below.parseOuterAttributes
        return ← below.parseExprPrefix a
      if ← lookAhead 1 (· == .op "+") then
        bump
        bump
        let _ ← below.parseExprDotOrCall attrs
        throw ⟨"Rust has no prefix increment operator", lo, false⟩
      below.parseExprDotOrCall attrs
    | .ident "box" false =>
      let _ ← below.parseExprPrefixCommon
      emit "`box_syntax` has been removed" lo
      return .mk attrs .err lo
    | .ident "not" false =>
      let next ← tokenAhead 1
      let mistaken := match next.kind with
        | .ident name raw => Kind.identCanBeginExpr name raw
        | .literal _ => true
        | .op "#" => true
        | _ => false
      if mistaken then
        let operand ← below.parseExprPrefixCommon
        emit ("unexpected " ++ next.kind.describe ++ " after identifier") next.span
        return .mk attrs (.unary .not operand) lo
      below.parseExprDotOrCall attrs
    | _ => below.parseExprDotOrCall attrs
  parseExprPrefixCommon := do
    bump
    let attrs ← below.parseOuterAttributes
    if (← kind).isRangeSeparator then below.parseExprPrefixRange attrs else below.parseExprPrefix attrs
  parseExprBorrow lo attrs := do
    expectAnd
    let hasLifetime ← do
      if (← kind).isLifetime then lookAhead 1 (· != .op ":") else pure false
    let lifetime ← if hasLifetime then some <$> expectLifetime else pure none
    let isRaw ← do
      if ← checkKw "raw" then lookAhead 1 Kind.isMutability else pure false
    let (raw, mutable) ← do
      if isRaw then
        bump
        let m ← eatKw "mut"
        if !m then
          let _ ← eatKw "const"
        pure (true, m)
      else pure (false, ← parseMutability)
    let attrs2 ← below.parseOuterAttributes
    let operand ← if (← kind).isRangeSeparator then below.parseExprPrefixRange attrs2
      else below.parseExprPrefix attrs2
    if lifetime.isSome then emit "borrow expressions cannot be annotated with lifetimes" lo
    if !raw && !mutable then
      if let .path none p := operand.kind then
        if p.plainText == "raw" then
          addExpected "`mut`"
          addExpected "`const`"
    return .mk attrs (.addrOf raw mutable operand) lo

end LoxFront.Code
