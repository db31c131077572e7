import LoxFront.Code.Grammar
import LoxFront.Code.Layout
/-!
Syntax trees of generated code printed back as the compiler prints them after expansion.

The printer writes each node in one canonical form: commas are followed by a break, binary
operators stand between blanks, trailing commas are dropped except in one-element tuples and in
struct literals that spread over lines, and parentheses are added where reading the text back
would otherwise group it differently. Macro calls that expanded to nothing print as their
placeholders: `()` for a type, `_` for a pattern, and the error expression `(/*ERROR*/)`.

Printed code is a list of pieces with the boxes and breaks the compiler's printer uses, so that
lines break where it breaks them (`LoxFront.Code.Layout`): each expression is an inconsistent
box indented by four, each type one indented by zero, a block is a consistent box holding its
statements, and lists are inconsistent boxes whose items a comma and a break part.

Parentheses follow binding strengths (`Expr.prec`) and a small context (`Fixup`) that knows
whether the expression starts a statement or a match arm, and whether an operator follows it.
-/
namespace LoxFront.Code

def canBeRaw (name : String) : Bool :=
  !(name == "_" || name.isEmpty || pathSegmentKeywords.contains name)

/-- A name as the printer writes it: with the raw prefix exactly when it is a reserved word that
may be written raw, however it was written. -/
def Ident.printed (i : Ident) : String :=
  if canBeRaw i.name && Schema.reservedWords.contains i.name then "r#" ++ i.name else i.name

def Ident.lifetimeText (i : Ident) : String :=
  if i.raw && canBeRaw i.name && Schema.reservedWords.contains i.name then "'r#" ++ i.name
  else "'" ++ i.name

def Ident.isNumeric (i : Ident) : Bool := !i.name.isEmpty && i.name.all Char.isDigit

/-- An attribute from its tokens: `#[`, its path and arguments, and `]`; an `=` and a comma are
followed by a break, and an `=` stands after one. -/
def printAttr (toks : List Token) : Pieces :=
  let inner := (toks.drop 2).dropLast
  [.text "#["] ++ Pieces.ibox 0 (inner.flatMap fun t => match t.kind with
    | .op "=" => [.space, .text "=", .space]
    | .op "," => [.text ",", .space]
    | k => [.text k.text]) ++ [.text "]"]

def printAttrsInline (attrs : List (List Token)) : Pieces :=
  attrs.flatMap fun attr => printAttr attr ++ [.nbsp]

def printAttrsOuter (attrs : List (List Token)) : Pieces :=
  if attrs.isEmpty then [] else attrs.flatMap (fun attr => .softHard :: printAttr attr) ++ [.softHard]

def LifetimeParam.print (p : LifetimeParam) : Pieces :=
  printAttrsInline p.attrs ++ [.text p.name.lifetimeText] ++
    if p.bounds.isEmpty then [] else [.text ":", .nbsp] ++
      ((p.bounds.map fun b => [.text b.lifetimeText]).intersperse [.nbsp, .text "+", .nbsp]).flatten

def printBinder (ps : List LifetimeParam) : Pieces :=
  if ps.isEmpty then [] else
    [.text "for", .text "<"] ++ Pieces.commaSep (ps.map LifetimeParam.print) ++ [.text ">", .nbsp]

def UnOp.text : UnOp → String
  | .deref => "*"
  | .not => "!"
  | .neg => "-"

/-- Whether an operator after the left operand could also begin an expression: `-`, `*`, `&&`,
`||`, `&`, `|`, `<<` and `<`. -/
def BinOp.canBeginExpr : BinOp → Bool
  | .sub | .mul | .and | .or | .bitAnd | .bitOr | .shl | .lt => true
  | _ => false

/-- Where an expression stands, as far as parentheses are concerned: whether it is a statement
or starts one, whether it is a match arm's body or starts one, whether struct literals at its
top need parentheses (in conditions), and whether the operator that follows it could begin or
continue an expression. -/
structure Fixup where
  stmt : Bool := false
  leftmostInStmt : Bool := false
  matchArm : Bool := false
  leftmostInMatchArm : Bool := false
  exteriorStructLit : Bool := false
  nextCanBegin : Bool := false
  nextCanContinue : Bool := false

namespace Fixup

def stmtStart : Fixup := { stmt := true }

def armStart : Fixup := { matchArm := true }

def condition : Fixup := { exteriorStructLit := true }

def leftmost (f : Fixup) : Fixup :=
  { f with stmt := false, leftmostInStmt := f.stmt || f.leftmostInStmt, matchArm := false,
           leftmostInMatchArm := f.matchArm || f.leftmostInMatchArm, nextCanBegin := false,
           nextCanContinue := true }

def leftmostWithOp (f : Fixup) (canBegin : Bool) : Fixup :=
  { f.leftmost with nextCanBegin := canBegin }

def leftmostWithDot (f : Fixup) : Fixup :=
  { f with stmt := f.stmt || f.leftmostInStmt, leftmostInStmt := false,
           matchArm := f.matchArm || f.leftmostInMatchArm, leftmostInMatchArm := false,
           nextCanBegin := false, nextCanContinue := true }

def rightmost (f : Fixup) : Fixup :=
  { f with stmt := false, leftmostInStmt := false, matchArm := false,
           leftmostInMatchArm := false }

/-- The binding strength of an expression in this context: jumps without a value bind weakest
before an operator that could begin their value, and expressions that extend to the end bind
like prefix operators where nothing can continue them. -/
def prec (f : Fixup) (e : Expr) : Nat :=
  let isJump := match e.kind with
    | .breakExpr .. | .ret _ | .yieldExpr _ => true
    | _ => false
  let reaches := match e.kind with
    | .breakExpr .. | .closure .. | .ret _ | .yieldExpr _ | .range .. => true
    | _ => false
  if f.nextCanBegin && isJump then Prec.jump
  else if !f.nextCanContinue && reaches then Prec.prefixOp
  else e.prec

/-- Whether the expression would end the statement or match arm it starts, so that what
follows it would be read apart. -/
def wouldEndStatement (f : Fixup) (e : Expr) : Bool :=
  (f.leftmostInStmt || f.leftmostInMatchArm) && e.isBlockLike

end Fixup

def Expr.containsStructLit : Nat → Expr → Bool
  | 0, _ => false
  | n + 1, e => match e.kind with
    | .structLit .. => true
    | .assign l r | .assignOp _ l r | .binary _ _ l r =>
      Expr.containsStructLit n l || Expr.containsStructLit n r
    | .await x | .unary _ x | .cast x _ | .field x _ | .index x _ | .methodCall x _ _ _ =>
      Expr.containsStructLit n x
    | _ => false

def Expr.leadingLabeled : Nat → Expr → Bool
  | 0, _ => false
  | n + 1, e => match e.kind with
    | .block _ l | .forLoop _ _ _ l | .loopExpr _ l | .whileExpr _ _ l => l.isSome
    | .assign x _ | .assignOp _ x _ | .await x | .binary _ _ x _ | .call x _ | .cast x _
    | .field x _ | .index x _ | .range (some x) _ _ | .tryOp x | .methodCall x _ _ _ =>
      Expr.leadingLabeled n x
    | _ => false

/-- Whether a condition needs parentheses as a whole: jumps and closures would take the block
that follows, and a struct literal would read as the block. -/
def Expr.condNeedsParens (fuel : Nat) (e : Expr) : Bool :=
  match e.kind with
  | .breakExpr .. | .closure .. | .ret _ => true
  | _ => e.containsStructLit fuel

def printLabel : Option Ident → Pieces
  | none => []
  | some l => [.text l.lifetimeText, .text ":", .space]

/-- Whether an expression with attributes needs parentheses so that the attributes cover all of
it: operations, casts, assignments and ranges. -/
def Expr.attrsNeedParens (e : Expr) : Bool :=
  !e.attrs.isEmpty && match e.kind with
    | .binary .. | .cast .. | .assign .. | .assignOp .. | .range .. => true
    | _ => false

def errorPieces : Pieces := [.text "(", .text "/*ERROR*/", .text ")"]

def Pieces.withLastOffset (offset : Int) (ps : Pieces) : Pieces :=
  let step := fun (acc : Pieces × Bool) (p : Piece) =>
    match p, acc.2 with
    | .brk b _ c soft, false => (.brk b offset c soft :: acc.1, true)
    | _, _ => (p :: acc.1, acc.2)
  (ps.reverse.foldl step ([], false)).1

/-- The start of a block-like expression: a consistent box around it all, and an inconsistent
one around its head, which the block's `{` closes. -/
def blockHead : Pieces := [.begin true 0, .begin false 0]

def itemHead : Pieces := [.begin true 4, .begin false 0]

def printFnHeader (h : FnHeader) : Pieces :=
  (if h.isConst then [.text "const", .nbsp] else []) ++
    (if h.isAsync then [.text "async", .nbsp] else []) ++ (match h.safety with
      | some s => [.text s, .nbsp]
      | none => []) ++ match h.abi with
      | some (some abi) => [.text "extern", .nbsp, .text abi, .nbsp]
      | some none => [.text "extern", .nbsp]
      | none => []

mutual

def printTy : Nat → Ty → Pieces
  | 0, _ => []
  | n + 1, t => Pieces.ibox 0 <| match t with
    | .slice elem => [.text "["] ++ printTy n elem ++ [.text "]"]
    | .array elem len =>
      [.text "["] ++ printTy n elem ++ [.text ";", .nbsp] ++ printExpr n {} len ++ [.text "]"]
    | .ptr m elem => [.text "*", .text (if m then "mut" else "const"), .nbsp] ++ printTy n elem
    | .ref lt m elem _ =>
      [.text "&"] ++ (match lt with
        | some l => [.text l.lifetimeText, .nbsp]
        | none => []) ++ (if m then [.text "mut", .nbsp] else []) ++ printTy n elem
    | .fnPtr binder safety abi params output =>
      Pieces.ibox 4 <| printBinder binder ++ (match safety with
        | some s => [.text s, .nbsp]
        | none => []) ++ (match abi with
        | some (some s) => [.text "extern", .nbsp, .text s, .nbsp]
        | some none => [.text "extern", .nbsp]
        | none => []) ++ [.text "fn", .text "("] ++
        Pieces.commaSep (params.map (printParam n false)) ++ [.text ")"] ++ printRet n output
    | .never => [.text "!"]
    | .tuple elems =>
      [.text "("] ++ Pieces.commaSep (elems.map (printTy n)) ++
        (if elems.length == 1 then [.text ","] else []) ++ [.text ")"]
    | .paren inner _ => [.text "("] ++ printTy n inner ++ [.text ")"]
    | .path none p => printPath n false p
    | .path (some q) p => printQPath n false q p
    | .traitObject d bounds => (if d then [.text "dyn", .nbsp] else []) ++ printBounds n bounds
    | .implTrait bounds _ => [.text "impl", .nbsp] ++ printBounds n bounds
    | .infer => [.text "_"]
    | .cVarArgs => [.text "..."]
    | .macCall _ _ => [.text "(", .text ")"]
    | .err => errorPieces
termination_by structural fuel => fuel

def printRet : Nat → Option Ty → Pieces
  | 0, _ => []
  | _, none => []
  | n + 1, some t => .softSpace :: Pieces.ibox 4 ([.text "->", .space] ++ printTy n t)
termination_by structural fuel => fuel

def printPath : Nat → Bool → Path → Pieces
  | 0, _, _ => []
  | n + 1, colons, p =>
    (if p.global then [.text "::"] else []) ++
      ((p.segments.map (printSegment n colons)).intersperse [.text "::"]).flatten
termination_by structural fuel => fuel

def printSegment : Nat → Bool → Segment → Pieces
  | 0, _, _ => []
  | n + 1, colons, s =>
    .text s.ident.printed :: match s.args with
      | some a => printArgs n colons a
      | none => []
termination_by structural fuel => fuel

def printQPath : Nat → Bool → QSelf → Path → Pieces
  | 0, _, _, _ => []
  | n + 1, colons, .mk ty position, p =>
    let traitPart := if position == 0 then [] else
      [Piece.space, .text "as", .space] ++ (if p.global then [.text "::"] else []) ++
        (((p.segments.take position).map (printSegment n false)).intersperse [.text "::"]).flatten
    [.text "<"] ++ printTy n ty ++ traitPart ++ [.text ">"] ++
      (p.segments.drop position).flatMap fun s => .text "::" :: printSegment n colons s
termination_by structural fuel => fuel

def printArgs : Nat → Bool → GenericArgs → Pieces
  | 0, _, _ => []
  | n + 1, colons, a =>
    (if colons then [.text "::"] else []) ++ match a with
      | .angle args _ => [.text "<"] ++ Pieces.commaSep (args.map (printAngleArg n)) ++ [.text ">"]
      | .paren inputs output _ =>
        [.text "("] ++ Pieces.commaSep (inputs.map (printTy n)) ++ [.text ")"] ++ printRet n output
termination_by structural fuel => fuel

def printAngleArg : Nat → AngleArg → Pieces
  | 0, _ => []
  | _ + 1, .arg (.lifetime l) _ => [.text l.lifetimeText]
  | n + 1, .arg (.type t) _ => printTy n t
  | n + 1, .arg (.const e _) _ => printExpr n {} e
  | n + 1, .constraint ident args kind =>
    [.text ident.printed] ++ (match args with
      | some a => printArgs n false a
      | none => []) ++ [.space] ++ match kind with
      | .eqType t => [.text "=", .space] ++ printTy n t
      | .eqConst e => [.text "=", .space] ++ Pieces.ibox 4 ([.text "const", .nbsp] ++ printExpr n {} e)
      | .bounds bs => if bs.isEmpty then [] else [.text ":", .nbsp] ++ printBounds n bs
termination_by structural fuel => fuel

def printBounds : Nat → List Bound → Pieces
  | 0, _ => []
  | n + 1, bs => ((bs.map (printBound n)).intersperse [.nbsp, .text "+", .space]).flatten
termination_by structural fuel => fuel

def printBound : Nat → Bound → Pieces
  | 0, _ => []
  | _, .outlives l _ => [.text l.lifetimeText]
  | n + 1, .trait binder constness async polarity path parens _ =>
    let inner := printBinder binder ++ (match constness with
      | .never => []
      | .always => [.text "const", .space]
      | .maybe _ => [.text "[const]", .space]) ++ (if async then [.text "async", .space] else []) ++
      (match polarity with
        | .positive => []
        | .maybe => [.text "?"]
        | .negative => [.text "!"]) ++ printPath n false path
    if parens then [.text "("] ++ inner ++ [.text ")"] else inner
termination_by structural fuel => fuel

def printParam : Nat → Bool → Param → Pieces
  | 0, _, _ => []
  | n + 1, closure, .mk attrs pat ty _ =>
    Pieces.ibox 4 <| printAttrsInline attrs ++ match pat, ty with
      | some p, none => printPat n p
      | some p, some .infer =>
        if closure then printPat n p else printPat n p ++ [.text ":", .space] ++ printTy n .infer
      | some p, some t => printPat n p ++ [.text ":", .space] ++ printTy n t
      | none, some t => printTy n t
      | none, none => []
  | n + 1, _, .selfParam attrs kind _ =>
    Pieces.ibox 4 <| printAttrsInline attrs ++ match kind with
      | .value m => (if m then [.text "mut", .nbsp] else []) ++ [.text "self"]
      | .region lt m =>
        [.text "&"] ++ (match lt with
          | some l => [.text l.lifetimeText, .nbsp]
          | none => []) ++ (if m then [.text "mut", .nbsp] else []) ++ [.text "self"]
      | .explicit t m =>
        (if m then [.text "mut", .nbsp] else []) ++ [.text "self", .text ":", .space] ++ printTy n t
termination_by structural fuel => fuel

/-- An expression in its context, in its box, with parentheses where its context needs them and
its attributes on the same line. -/
def printExpr : Nat → Fixup → Expr → Pieces
  | 0, _, _ => []
  | n + 1, fixup, e =>
    let needsParens := fixup.wouldEndStatement e || e.attrsNeedParens
    let fixup := if needsParens then {} else fixup
    let body := printExprKind n fixup e
    printAttrsInline e.attrs ++
      Pieces.ibox 4 (if needsParens then [.text "("] ++ body ++ [.text ")"] else body)
termination_by structural fuel => fuel

def printExprStmt : Nat → Expr → Pieces
  | 0, _ => []
  | n + 1, e =>
    let fixup := Fixup.stmtStart
    let needsParens := fixup.wouldEndStatement e || e.attrsNeedParens
    let fixup := if needsParens then {} else fixup
    let body := printExprKind n fixup e
    printAttrsOuter e.attrs ++
      Pieces.ibox 4 (if needsParens then [.text "("] ++ body ++ [.text ")"] else body)
termination_by structural fuel => fuel

def printExprParen : Nat → Fixup → Bool → Expr → Pieces
  | 0, _, _, _ => []
  | n + 1, fixup, parens, e =>
    if parens then [.text "("] ++ printExpr n {} e ++ [.text ")"] else printExpr n fixup e
termination_by structural fuel => fuel

def printCond : Nat → Expr → Pieces
  | 0, _ => []
  | n + 1, e => printExprParen n Fixup.condition (e.condNeedsParens n) e
termination_by structural fuel => fuel

def printExprKind : Nat → Fixup → Expr → Pieces
  | 0, _, _ => []
  | n + 1, fixup, e => match e.kind with
    | .array elems =>
      Pieces.ibox 4 ([.text "["] ++ Pieces.commaSepSoft false (elems.map (printExpr n {})) ++
        [.text "]"])
    | .repeat elem count =>
      Pieces.ibox 4 ([.text "["] ++ printExpr n {} elem ++ [.text ";", .space] ++
        printExpr n {} count ++ [.text "]"])
    | .tuple elems =>
      [.text "("] ++ Pieces.commaSepSoft false (elems.map (printExpr n {})) ++
        (if elems.length == 1 then [.text ","] else []) ++ [.text ")"]
    | .paren inner => [.text "("] ++ printExpr n {} inner ++ [.text ")"]
    | .call f args =>
      let parens := match f.kind with
        | .field _ name => !name.isNumeric
        | _ => f.prec < Prec.unambiguous
      printExprParen n (fixup.leftmostWithOp true) parens f ++ [.text "("] ++
        Pieces.commaSepSoft false (args.map (printExpr n {})) ++ [.text ")"]
    | .methodCall recv name turbofish args =>
      printExprParen n fixup.leftmostWithDot (recv.prec < Prec.unambiguous) recv ++
        [.text ".", .text name.printed] ++ (match turbofish with
          | some a => printArgs n true a
          | none => []) ++ [.text "("] ++ Pieces.commaSepSoft false (args.map (printExpr n {})) ++
        [.text ")"]
    | .binary op _ lhs rhs =>
      let leftFixup := fixup.leftmostWithOp op.canBeginExpr
      let p := op.prec
      let leftPrec := leftFixup.prec lhs
      let rightPrec := fixup.prec rhs
      let leftParens : Bool := if op.isComparison then leftPrec ≤ p else leftPrec < p
      let rightParens : Bool := rightPrec ≤ p
      let leftParens := match lhs.kind with
        | .cast .. => leftParens || op == .lt || op == .shl
        | .letExpr .. => leftParens || p > Prec.lAnd
        | _ => leftParens
      printExprParen n leftFixup leftParens lhs ++ [.space, .text op.text, .space] ++
        printExprParen n fixup.rightmost rightParens rhs
    | .unary op x =>
      .text op.text :: printExprParen n fixup.rightmost (fixup.prec x < Prec.prefixOp) x
    | .lit text => [.text text]
    | .cast x ty =>
      printExprParen n fixup.leftmost (x.prec < Prec.cast) x ++ [.space, .text "as", .space] ++
        printTy n ty
    | .letExpr pat scrutinee _ =>
      let parens := (fixup.exteriorStructLit && scrutinee.containsStructLit n) ||
        fixup.prec scrutinee ≤ Prec.lAnd
      [.text "let", .space] ++ printPat n pat ++ [.space, .text "=", .space] ++
        printExprParen n {} parens scrutinee
    | .ifExpr cond thenBlock elseBranch =>
      blockHead ++ [.text "if", .nbsp] ++ printCond n cond ++ [.space] ++
        printBlockOpen n true thenBlock ++ printElse n elseBranch
    | .whileExpr cond body label =>
      printLabel label ++ blockHead ++ [.text "while", .nbsp] ++ printCond n cond ++ [.space] ++
        printBlockOpen n true body
    | .forLoop pat iter body label =>
      printLabel label ++ blockHead ++ [.text "for", .nbsp] ++ printPat n pat ++
        [.space, .text "in", .space] ++ printCond n iter ++ [.space] ++ printBlockOpen n true body
    | .loopExpr body label =>
      blockHead ++ printLabel label ++ [.text "loop", .nbsp] ++ printBlockOpen n true body
    | .matchExpr scrutinee arms =>
      blockHead ++ [.text "match", .nbsp] ++ printCond n scrutinee ++ [.space, .text "\x7b", .close] ++
        arms.flatMap (printArm n) ++
        (if arms.isEmpty && e.attrs.isEmpty then [] else [.brk 1 (-4) false true]) ++
        [.text "\x7d", .close]
    | .closure binder isConst isStatic isAsync isMove params output body =>
      (match binder with
        | some ps => [.text "for", .text "<"] ++ Pieces.commaSep (ps.map LifetimeParam.print) ++
          [.text ">", .nbsp]
        | none => []) ++ (if isConst then [.text "const", .nbsp] else []) ++
        (if isStatic then [.text "static", .space] else []) ++
        (if isAsync then [.text "async", .nbsp] else []) ++
        (if isMove then [.text "move", .space] else []) ++ [.text "|"] ++
        Pieces.commaSep (params.map (printParam n true)) ++ [.text "|"] ++ printRet n output ++
        [.space] ++ printExpr n {} body
    | .block body label => printLabel label ++ blockHead ++ printBlockOpen n true body
    | .asyncBlock isMove body =>
      [.text "async", .nbsp] ++ (if isMove then [.text "move", .space] else []) ++ blockHead ++
        printBlockOpen n true body
    | .tryBlock body => blockHead ++ [.text "try", .nbsp] ++ printBlockOpen n true body
    | .unsafeBlock body => blockHead ++ [.text "unsafe", .space] ++ printBlockOpen n true body
    | .constBlock body =>
      Pieces.ibox 4 ([.text "const", .nbsp] ++ blockHead ++ printBlockOpen n true body)
    | .await base =>
      printExprParen n fixup.leftmostWithDot (base.prec < Prec.unambiguous) base ++
        [.text ".await"]
    | .assign lhs rhs =>
      printExprParen n fixup.leftmost (lhs.prec ≤ Prec.assign) lhs ++
        [.space, .text "=", .space] ++
        printExprParen n fixup.rightmost (fixup.prec rhs < Prec.assign) rhs
    | .assignOp op lhs rhs =>
      printExprParen n fixup.leftmost (lhs.prec ≤ Prec.assign) lhs ++
        [.space, .text (op.text ++ "="), .space] ++
        printExprParen n fixup.rightmost (fixup.prec rhs < Prec.assign) rhs
    | .field base name =>
      printExprParen n fixup.leftmostWithDot (base.prec < Prec.unambiguous) base ++
        [.text ".", .text name.printed]
    | .index base idx =>
      printExprParen n fixup.leftmostWithDot (base.prec < Prec.unambiguous) base ++ [.text "["] ++
        printExpr n {} idx ++ [.text "]"]
    | .range start stop limits =>
      (match start with
        | some s => printExprParen n fixup.leftmost (s.prec < Prec.lOr) s
        | none => []) ++ [.text (if limits == .closed then "..=" else "..")] ++ (match stop with
        | some s => printExprParen n fixup.rightmost (fixup.prec s < Prec.lOr) s
        | none => [])
    | .underscore => [.text "_"]
    | .path none p => printPath n true p
    | .path (some q) p => printQPath n true q p
    | .addrOf raw m x =>
      [.text "&"] ++ (if raw then [.text "raw", .nbsp, .text (if m then "mut" else "const"), .nbsp]
        else if m then [.text "mut", .nbsp] else []) ++
        printExprParen n fixup.rightmost (fixup.prec x < Prec.prefixOp) x
    | .breakExpr label value =>
      [.text "break"] ++ (match label with
        | some l => [.space, .text l.lifetimeText]
        | none => []) ++ (match value with
        | some v => .space ::
          printExprParen n fixup.rightmost (label.isNone && v.leadingLabeled n) v
        | none => [])
    | .continueExpr label =>
      .text "continue" :: match label with
        | some l => [.space, .text l.lifetimeText]
        | none => []
    | .ret value =>
      .text "return" :: match value with
        | some v => .nbsp :: printExpr n fixup.rightmost v
        | none => []
    | .yieldExpr value =>
      .text "yield" :: match value with
        | some v => .space :: printExpr n fixup.rightmost v
        | none => []
    | .macCall _ => errorPieces
    | .boxExpr x => [.text "box", .nbsp] ++ printExpr n fixup.rightmost x
    | .structLit q p fields tail =>
      (match q with
        | some qs => printQPath n true qs p
        | none => printPath n true p) ++ [.nbsp, .text "\x7b"] ++ printStructBody n fields tail
    | .tryOp x =>
      printExprParen n fixup.leftmostWithDot (x.prec < Prec.unambiguous) x ++ [.text "?"]
    | .err => errorPieces
termination_by structural fuel => fuel

/-- The fields of a struct literal after its `{`, and the `}`. When the literal spreads over
lines, its last field ends in a comma. -/
def printStructBody : Nat → List FieldValue → StructRest → Pieces
  | 0, _, _ => []
  | n + 1, fields, tail =>
    let hasRest := match tail with
      | .none => false
      | _ => true
    if fields.isEmpty && !hasRest then [.text "\x7d"] else
    let count := fields.length
    let fieldPieces := fields.zipIdx.flatMap fun (f, i) => match f with
      | .mk attrs name value shorthand =>
        printAttrsOuter attrs ++ (if i == 0 then [.softSpace] else []) ++
          (if shorthand then [] else [.text name.printed, .text ":", .nbsp]) ++
          printExpr n {} value ++
          (if i + 1 < count || hasRest then [.text ",", .space] else [.brk 1 0 true false])
    let restPieces := if !hasRest then [] else
      (if fields.isEmpty then [Piece.space] else []) ++ [.text ".."] ++ (match tail with
        | .base b => printExpr n {} b
        | _ => []) ++ [.space]
    Pieces.cbox 0 (Pieces.withLastOffset (-4) (fieldPieces ++ restPieces)) ++ [.text "\x7d"]
termination_by structural fuel => fuel

def printElse : Nat → Option Expr → Pieces
  | 0, _ => []
  | _, none => []
  | n + 1, some e => match e.kind with
    | .ifExpr cond thenBlock elseBranch =>
      blockHead ++ [.nbsp, .text "else", .nbsp, .text "if", .nbsp] ++ printCond n cond ++
        [.space] ++ printBlockOpen n true thenBlock ++ printElse n elseBranch
    | .block blk none => blockHead ++ [.nbsp, .text "else", .nbsp] ++ printBlockOpen n true blk
    | _ => [.nbsp, .text "else", .nbsp] ++ printExpr n {} e
termination_by structural fuel => fuel

def printArm : Nat → Arm → Pieces
  | 0, _ => []
  | n + 1, .mk attrs pat guard body =>
    (if attrs.isEmpty then [Piece.space] else []) ++ [.begin true 4, .begin false 0] ++
      printAttrsOuter attrs ++ printPat n pat ++ [.space] ++ (match guard with
      | some g => [.text "if", .space] ++ printExpr n {} g ++ [.space]
      | none => []) ++ match body with
      | some b => [.text "=>", .space] ++ match b.kind with
        | .block blk label => printLabel label ++ printBlockOpen n false blk ++ [.close]
        | .unsafeBlock blk =>
          [.text "unsafe", .space] ++ printBlockOpen n false blk ++ [.text ",", .close]
        | _ => [.close] ++ printExpr n Fixup.armStart b ++ [.text ",", .close]
      | none => [.close, .text ",", .close]
termination_by structural fuel => fuel

/-- A block after its head: `{`, which closes the head's box, the statements, and `}`, which
closes the box around it all when `closing`. -/
def printBlockOpen : Nat → Bool → Block → Pieces
  | 0, _, _ => []
  | n + 1, closing, .mk stmts =>
    let count := stmts.length
    [.text "\x7b", .close] ++ (stmts.zipIdx.flatMap fun (s, i) => printStmt n (i + 1 == count) s) ++
      (if stmts.isEmpty then [] else [.brk 1 (-4) false true]) ++ [.text "\x7d"] ++
      if closing then [.close] else []
termination_by structural fuel => fuel

/-- A statement; the last expression of a block has no `;`. Macro calls that expanded to
nothing stand as the error expression. -/
def printStmt : Nat → Bool → Stmt → Pieces
  | 0, _, _ => []
  | n + 1, last, s => match s with
    | .letStmt attrs pat ty init elseBlock =>
      printAttrsOuter attrs ++ [.softSpace] ++ Pieces.ibox 4 ([.text "let", .nbsp] ++
        Pieces.ibox 4 (printPat n pat ++ (match ty with
          | some t => [.text ":", .space] ++ printTy n t
          | none => [])) ++ (match init with
        | some e => [.nbsp, .text "=", .space] ++
          printExprParen n {} (elseBlock.isSome && e.trailingBrace n) e ++ (match elseBlock with
          | some b => [.begin true 4, .begin false 4, .nbsp, .text "else", .nbsp] ++
            printBlockOpen n true b
          | none => [])
        | none => []) ++ [.text ";"])
    | .expr e =>
      .softSpace :: printExprStmt n e ++ if !last && e.requiresSemi then [.text ";"] else []
    | .semi e => .softSpace :: printExprStmt n e ++ [.text ";"]
    | .mac _ semi => .softSpace :: errorPieces ++ if semi || !last then [.text ";"] else []
    | .empty _ => [.softSpace, .text ";"]
    | .item i => printItem n i
termination_by structural fuel => fuel

def printPat : Nat → Pat → Pieces
  | 0, _ => []
  | n + 1, p => match p with
    | .wild => [.text "_"]
    | .ident byRef m name sub =>
      (if m then [.text "mut", .nbsp] else []) ++ (match byRef with
        | some true => [.text "ref", .nbsp, .text "mut", .nbsp]
        | some false => [.text "ref", .nbsp]
        | none => []) ++ [.text name.printed] ++ match sub with
        | some s => [.space, .text "@", .space] ++ printPat n s
        | none => []
    | .structPat q path fields hasRest =>
      let head := match q with
        | some qs => printQPath n true qs path
        | none => printPath n true path
      let empty := fields.isEmpty && !hasRest
      let fieldPieces := fields.map fun
        | .mk name fp shorthand =>
          Pieces.cbox 4 ((if shorthand then [] else [.text name.printed, .text ":", .nbsp]) ++
            printPat n fp)
      head ++ [.nbsp, .text "\x7b"] ++ (if empty then [] else [.space]) ++
        Pieces.commaSepSoft true fieldPieces ++
        (if hasRest then (if fields.isEmpty then [] else [.text ",", .space]) ++ [.text ".."]
          else []) ++
        (if empty then [] else [.space]) ++ [.text "\x7d"]
    | .tupleStruct q path elems =>
      (match q with
        | some qs => printQPath n true qs path
        | none => printPath n true path) ++ [.text "("] ++
        Pieces.commaSep (elems.map (printPat n)) ++ [.text ")"]
    | .orPat cases =>
      Pieces.ibox 0 ((cases.map (printPat n)).intersperse [.space, .text "|", .space]).flatten
    | .path none path => printPath n true path
    | .path (some q) path => printQPath n false q path
    | .tuple elems =>
      [.text "("] ++ Pieces.commaSep (elems.map (printPat n)) ++
        (if elems.length == 1 then [.text ","] else []) ++ [.text ")"]
    | .boxPat inner => [.text "box", .nbsp] ++ printPat n inner
    | .ref m inner _ =>
      let mutIdent := match inner with
        | .ident none true _ _ => true
        | _ => false
      [.text "&"] ++ (if m then [.text "mut", .nbsp] else []) ++
        if mutIdent then [.text "("] ++ printPat n inner ++ [.text ")"] else printPat n inner
    | .lit value => printExpr n {} value
    | .range start stop limits _ =>
      (match start with
        | some s => printExpr n {} s
        | none => []) ++ [.text (match limits with
          | .excluded => ".."
          | .included => "..="
          | .includedDots => "...")] ++ (match stop with
        | some s => printExpr n {} s
        | none => [])
    | .slice elems => [.text "["] ++ Pieces.commaSep (elems.map (printPat n)) ++ [.text "]"]
    | .rest => [.text ".."]
    | .never => [.text "!"]
    | .paren inner _ => [.text "("] ++ printPat n inner ++ [.text ")"]
    | .macCall _ => [.text "_"]
    | .guard inner cond =>
      [.text "("] ++ printPat n inner ++ [.space, .text "if", .space] ++ printExpr n {} cond ++
        [.text ")"]
    | .err => errorPieces
termination_by structural fuel => fuel

def printVis : Nat → Visibility → Pieces
  | 0, _ => []
  | _, .inherited => []
  | _, .pub _ => [.text "pub", .nbsp]
  | n + 1, .restricted p short _ =>
    [.text "pub", .text "("] ++ (if short then [] else [.text "in", .nbsp]) ++ printPath n false p ++
      [.text ")", .nbsp]
termination_by structural fuel => fuel

def printGenericParams : Nat → List GenericParam → Pieces
  | 0, _ => []
  | _, [] => []
  | n + 1, ps => [.text "<"] ++ Pieces.commaSep (ps.map (printGenericParam n)) ++ [.text ">"]
termination_by structural fuel => fuel

def printGenericParam : Nat → GenericParam → Pieces
  | 0, _ => []
  | _ + 1, .lifetime attrs name bounds => LifetimeParam.print { attrs, name, bounds }
  | n + 1, .type attrs name bounds default =>
    printAttrsInline attrs ++ [.text name.printed] ++
      (if bounds.isEmpty then [] else [.text ":", .nbsp] ++ printBounds n bounds) ++
      match default with
      | some t => [.space, .text "=", .space] ++ printTy n t
      | none => []
  | n + 1, .const attrs name ty default =>
    printAttrsInline attrs ++ [.text "const", .space, .text name.printed, .space, .text ":", .space] ++
      printTy n ty ++ match default with
      | some e => [.space, .text "=", .space] ++ printExpr n {} e
      | none => []
termination_by structural fuel => fuel

def printWhere : Nat → Bool → List WherePredicate → Pieces
  | 0, _, _ => []
  | n + 1, hasWhere, preds =>
    if preds.isEmpty && !hasWhere then []
    else [.space, .text "where", .space] ++
      ((preds.map (printWherePredicate n)).intersperse [.text ",", .space]).flatten
termination_by structural fuel => fuel

def printWherePredicate : Nat → WherePredicate → Pieces
  | 0, _ => []
  | n + 1, .bound binder ty bounds =>
    printBinder binder ++ printTy n ty ++ [.text ":"] ++
      if bounds.isEmpty then [] else .nbsp :: printBounds n bounds
  | _ + 1, .region l bounds =>
    [.text l.lifetimeText, .text ":"] ++ if bounds.isEmpty then [] else
      .nbsp :: ((bounds.map fun b => [Piece.text b.lifetimeText]).intersperse
        [.nbsp, .text "+", .nbsp]).flatten
  | n + 1, .eq lhs rhs _ => printTy n lhs ++ [.space, .text "=", .space] ++ printTy n rhs
termination_by structural fuel => fuel

def printRecordField : Nat → ItemField → Pieces
  | 0, _ => []
  | n + 1, .mk attrs vis name ty default =>
    .softHard :: printAttrsOuter attrs ++ printVis n vis ++
      (match name with
        | some i => [.text i.printed, .text ":", .nbsp]
        | none => []) ++ printTy n ty ++ (match default with
        | some e => [.space, .text "=", .space] ++ printExpr n {} e
        | none => []) ++ [.text ","]
termination_by structural fuel => fuel

def printTupleField : Nat → ItemField → Pieces
  | 0, _ => []
  | n + 1, .mk attrs vis _ ty default =>
    printAttrsOuter attrs ++ printVis n vis ++ printTy n ty ++ match default with
      | some e => [.space, .text "=", .space] ++ printExpr n {} e
      | none => []
termination_by structural fuel => fuel

def printStructData : Nat → Ident → Generics → VariantData → Bool → Pieces
  | 0, _, _, _, _ => []
  | n + 1, name, .mk params hasWhere preds, data, finalizer =>
    [.text name.printed] ++ printGenericParams n params ++ match data with
    | .record fields =>
      printWhere n hasWhere preds ++ [.nbsp, .text "\x7b", .close] ++
        fields.flatMap (printRecordField n) ++
        (if fields.isEmpty then [] else [.brk 1 (-4) false true]) ++ [.text "\x7d", .close]
    | .tuple fields =>
      [.text "("] ++ Pieces.commaSep (fields.map (printTupleField n)) ++ [.text ")"] ++
        printWhere n hasWhere preds ++ (if finalizer then [.text ";"] else []) ++ [.close, .close]
    | .unit => printWhere n hasWhere preds ++ (if finalizer then [.text ";"] else []) ++ [.close, .close]
termination_by structural fuel => fuel

def printVariant : Nat → Variant → Pieces
  | 0, _ => []
  | n + 1, .mk attrs vis name data disc =>
    .softSpace :: printAttrsOuter attrs ++ Pieces.ibox 0 (itemHead ++ printVis n vis ++
      printStructData n name (.mk [] false []) data false ++ (match disc with
        | some e => [.space, .text "=", .space] ++ printExpr n {} e
        | none => []) ++ [.text ","])
termination_by structural fuel => fuel

/-- The items of a trait, an `impl` or a module in braces, after the head; the break before `}`
stands unless there is nothing inside and nothing before. -/
def printItemBody : Nat → Bool → List Item → Pieces
  | 0, _, _ => []
  | n + 1, bare, items =>
    [.text "\x7b", .close] ++ items.flatMap (printItem n) ++
      (if bare && items.isEmpty then [] else [.brk 1 (-4) false true]) ++ [.text "\x7d", .close]
termination_by structural fuel => fuel

def printItem : Nat → Item → Pieces
  | 0, _ => []
  | n + 1, .mk attrs vis kind _ => .softHard :: printAttrsOuter attrs ++ printItemKind n attrs.isEmpty vis kind
termination_by structural fuel => fuel

def printItemKind : Nat → Bool → Visibility → ItemKind → Pieces
  | 0, _, _, _ => []
  | n + 1, bare, vis, kind =>
    let v := printVis n vis
    match kind with
    | .struct name generics data =>
      itemHead ++ v ++ [.text "struct", .nbsp] ++ printStructData n name generics data true
    | .union name generics fields =>
      itemHead ++ v ++ [.text "union", .nbsp] ++ printStructData n name generics (.record fields) true
    | .enum name (.mk params hasWhere preds) variants =>
      itemHead ++ v ++ [.text "enum", .nbsp, .text name.printed] ++ printGenericParams n params ++
        printWhere n hasWhere preds ++ [.space, .text "\x7b", .close] ++
        variants.flatMap (printVariant n) ++
        (if variants.isEmpty then [] else [.brk 1 (-4) false true]) ++ [.text "\x7d", .close]
    | .trait isUnsafe isAuto name (.mk params hasWhere preds) bounds items =>
      itemHead ++ v ++ (if isUnsafe then [.text "unsafe", .nbsp] else []) ++
        (if isAuto then [.text "auto", .nbsp] else []) ++ [.text "trait", .nbsp, .text name.printed] ++
        printGenericParams n params ++
        (if bounds.isEmpty then [] else [.text ":", .nbsp] ++ printBounds n bounds) ++
        printWhere n hasWhere preds ++ [.nbsp] ++ printItemBody n bare items
    | .traitAlias name (.mk params hasWhere preds) bounds =>
      itemHead ++ v ++ [.text "trait", .nbsp, .text name.printed] ++ printGenericParams n params ++
        [.nbsp] ++ (if bounds.isEmpty then [] else [.text "=", .nbsp] ++ printBounds n bounds) ++
        printWhere n hasWhere preds ++ [.text ";", .close, .close]
    | .tyAlias name (.mk params hasWhere preds) bounds ty =>
      itemHead ++ v ++ [.text "type", .space, .text name.printed] ++ printGenericParams n params ++
        (if bounds.isEmpty then [] else [.text ":", .nbsp] ++ printBounds n bounds) ++
        printWhere n hasWhere preds ++ (match ty with
          | some t => [.space, .text "=", .space] ++ printTy n t
          | none => []) ++ [.text ";", .close, .close]
    | .fn header name (.mk params hasWhere preds) inputs output body =>
      let signature := v ++ printFnHeader header ++ [.text "fn", .nbsp, .text name.printed] ++
        printGenericParams n params ++ [.text "("] ++
        Pieces.commaSep (inputs.map (printParam n false)) ++ [.text ")"] ++ printRet n output ++
        printWhere n hasWhere preds
      match body with
      | some b => itemHead ++ signature ++ [.nbsp] ++ printBlockOpen n true b
      | none => signature ++ [.text ";"]
    | .const name (.mk params hasWhere preds) ty value =>
      itemHead ++ v ++ [.text "const", .space, .text name.printed] ++ printGenericParams n params ++
        [.text ":", .space] ++ printTy n ty ++ (if value.isSome then [.space] else []) ++ [.close] ++
        (match value with
          | some e => [.text "=", .space] ++ printExpr n {} e
          | none => []) ++ printWhere n hasWhere preds ++ [.text ";", .close]
    | .static isUnsafe mutable name ty value =>
      (if isUnsafe then [.text "unsafe", .nbsp] else []) ++ itemHead ++ v ++
        [.text (if mutable then "static mut" else "static"), .space, .text name.printed,
          .text ":", .space] ++ printTy n ty ++ (if value.isSome then [.space] else []) ++ [.close] ++
        (match value with
          | some e => [.text "=", .space] ++ printExpr n {} e
          | none => []) ++ [.text ";", .close]
    | .impl isUnsafe (.mk params hasWhere preds) negative traitRef selfTy _ items =>
      itemHead ++ v ++ (if isUnsafe then [.text "unsafe", .nbsp] else []) ++ [.text "impl"] ++
        (if params.isEmpty then [.nbsp] else printGenericParams n params ++ [.space]) ++
        (if negative then [.text "!"] else []) ++ (match traitRef with
          | some p => printPath n false p ++ [.space, .text "for", .space]
          | none => []) ++ printTy n selfTy ++ printWhere n hasWhere preds ++ [.space] ++
        printItemBody n bare items
    | .mod name items =>
      itemHead ++ v ++ (if v.isEmpty then [] else [.nbsp]) ++ [.text "mod", .nbsp, .text name.printed] ++
        match items with
        | some is => [.nbsp] ++ printItemBody n bare is
        | none => [.text ";", .close, .close]
termination_by structural fuel => fuel

end

def printFuel : Nat := 100000

def Ty.print (t : Ty) : Pieces := printTy printFuel t

def Param.print (p : Param) : Pieces := printParam printFuel false p

end LoxFront.Code
