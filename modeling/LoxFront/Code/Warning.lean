import LoxFront.Code.Wellformed
import LoxFront.Text.Case
/-!
The warnings the compiler gives about generated code. They matter to what the compiler prints
after an error: a reader who takes the last place printed before the next error takes a
warning's place when the error is the last one before the warnings. A warning says what it is
about and where it points, and two that say the same at the same place are printed once.

* Parentheses around a type are not needed, except around a trait object or an `impl` type where
  bounds may not follow freely: right after `&` or `*` (unless it has a single bound), and as the
  output of a parenthesized trait bound that more bounds follow.
* Parentheses around a trait bound of a trait object or an `impl` type are not needed, except
  around a bound with a parenthesized output type that more bounds follow.
* Parentheses are not needed around an argument of a call, an assigned or indexing value, a
  returned or broken-out value, the body of a closure without a return type, the expression
  ending a block, the value of a `let`, the body of a match arm, an array length, or the head of
  an `if`, `while`, `for` or `match`; except where the expression starts with a block-like
  expression, takes a raw address, or (in a head) would let the block that follows take a struct
  literal or a trailing `return`, `break` or range.
* Braces around a single expression are not needed in the same slots, but for closure bodies,
  the values of `let`, match arms and the heads of `if let`, `while let` and `match`; they are
  not needed around the length of an array, and in a constant argument only around a literal.
* Parentheses around a pattern are not needed, except around a range, around alternatives right
  under a binding, `box` or `&`, and around a `mut` binding right under `&`.
* A label that no `break` or `continue` reaches is unused, `while true` is better written as
  `loop`, a run of empty statements is redundant, a doc attribute on an expression, a `let`, a
  match arm or a binder's lifetime documents nothing, two minus signs in a row negate twice, and
  a `...` range pattern is deprecated (under `&`, the warning points at the `&`).
* Types, traits, variants, associated types and type parameters should be named in upper camel
  case, unless the item asks for the layout of C. Parentheses and braces around the value of a
  constant or static are not needed, nor braces around a literal discriminant, and a doc
  attribute on a generic parameter documents nothing.

Warnings come in the order of a walk that visits every part before the parts inside it, left to
right. At an expression, the warnings about delimiters come first, then those about `while true`,
doc attributes and double negation, then an unused label.
-/
namespace LoxFront.Code

open LoxFront.Schema (Span)

def warning (message : String) (span : Span) : Diag := ⟨message, span, false⟩

/-- What may follow a type where it stands, as far as a trait object's bounds go: bounds
freely; a single bound at most (right after `&` or `*`); or none at all (the output of a
parenthesized trait bound that more bounds follow). -/
inductive Room where
  | free
  | single
  | closed

def ExprKind.blockLike : ExprKind → Bool
  | .ifExpr .. | .matchExpr .. | .block .. | .whileExpr .. | .loopExpr .. | .forLoop ..
  | .tryBlock _ | .constBlock _ | .unsafeBlock _ => true
  | _ => false

def Expr.leftBlockLike : Nat → Expr → Bool
  | 0, _ => false
  | n + 1, e =>
    let next := match e.kind with
      | .binary _ _ l _ | .call l _ | .cast l _ | .index l _ => some l
      | _ => none
    match next with
    | some l => l.kind.blockLike || Expr.leftBlockLike n l
    | none => false

def Expr.delimited (e : Expr) : Bool :=
  match e.kind with
  | .addrOf true _ _ => true
  | _ => Expr.leftBlockLike wellformedFuel e

def Expr.unparen : Nat → Expr → Expr
  | 0, e => e
  | n + 1, e => match e.kind with
    | .paren inner => Expr.unparen n inner
    | _ => e

/-- Where an expression in delimiters stands, as far as the delimiters may be needed: before
the block of an `if`, `while`, `for` or `match`; as the scrutinee of a `let` in such a head; as
the value of a `let` with an `else`; as the value of `return` or `break`; or elsewhere. -/
inductive Slot where
  | head
  | scrutinee
  | letElse
  | returned
  | plain
  deriving DecidableEq

def Expr.exteriorStruct : Nat → Expr → Bool
  | 0, _ => false
  | n + 1, e =>
    match e.kind with
    | .structLit .. => true
    | .assign l r | .assignOp _ l r | .binary _ _ l r =>
      Expr.exteriorStruct n l || Expr.exteriorStruct n r
    | .await x | .unary _ x | .cast x _ | .field x _ | .index x _ => Expr.exteriorStruct n x
    | .methodCall r _ _ _ => Expr.exteriorStruct n r
    | _ => false

def Expr.rightNeedsParens (whole : Expr) : Nat → Expr → Bool
  | 0, _ => false
  | n + 1, e =>
    match e.kind with
    | .unary _ x | .binary _ _ _ x | .assignOp _ _ x | .assign _ x => Expr.rightNeedsParens whole n x
    | .ret _ | .yieldExpr _ => true
    | .breakExpr _ none => false
    | .breakExpr _ (some x) => match x.kind with
      | .block .. => true
      | _ => false
    | .range _ (some x) _ => match x.kind with
      | .block .. => true
      | _ => false
    | _ => Expr.exteriorStruct wellformedFuel whole

def Expr.peelRefs : Nat → Expr → Expr
  | 0, e => e
  | n + 1, e => match e.kind with
    | .addrOf _ _ x => Expr.peelRefs n x
    | _ => e

def Expr.parensNeeded (slot : Slot) (e : Expr) : Bool :=
  let lazy := match e.kind with
    | .binary .and .. | .binary .or .. => true
    | _ => false
  let range := match e.kind with
    | .range .. => true
    | _ => false
  (slot == .letElse && (lazy || e.trailingBrace wellformedFuel)) ||
    (slot == .scrutinee && range) || e.delimited ||
    ((slot == .head || slot == .scrutinee) &&
      (Expr.exteriorStruct wellformedFuel (Expr.peelRefs wellformedFuel e) ||
        Expr.rightNeedsParens e wellformedFuel e))

/-- The warning about parentheses around an expression standing in a slot, which `what` names,
when they are not needed. Parentheses around `&&` or `||` as a scrutinee are left alone, as are
those around an assignment that is returned. -/
def parenCheck (slot : Slot) (what : String) (value : Expr) : List Diag :=
  match value with
  | .mk [] (.paren inner) sp =>
    let lazy := match inner.kind with
      | .binary .and .. | .binary .or .. => true
      | _ => false
    let assigned := match inner.kind with
      | .assign .. => true
      | _ => false
    if inner.parensNeeded slot || (slot == .scrutinee && lazy) || (slot == .returned && assigned)
    then [] else [warning ("unnecessary parentheses around " ++ what) sp]
  | _ => []

def parenWarning (slot : Slot) (what : String) (value : Expr) : List Diag :=
  match value.kind with
  | .letExpr _ scrutinee _ => parenCheck .scrutinee "`let` scrutinee expression" scrutinee
  | _ => parenCheck slot what value

/-- The warning about braces around an expression standing in a slot, which `what` names, when
they are not needed: a plain block of a single expression that needs no delimiters there (and
is a literal, when `literalOnly`). -/
def braceCheck (slot : Slot) (what : String) (literalOnly : Bool) (value : Expr) : List Diag :=
  match value with
  | .mk [] (.block (.mk [.expr inner]) none) sp =>
    let literal := match inner.kind with
      | .lit _ => true
      | _ => false
    if inner.parensNeeded slot || (literalOnly && !literal) then []
    else [warning ("unnecessary braces around " ++ what) sp]
  | _ => []

def braceWarning (slot : Slot) (what : String) (literalOnly : Bool) (value : Expr) : List Diag :=
  match value.kind with
  | .letExpr _ scrutinee _ => braceCheck .scrutinee "`let` scrutinee expression" literalOnly scrutinee
  | _ => braceCheck slot what literalOnly value

def delimWarning (braces : Bool) (slot : Slot) (what : String) (value : Expr) : List Diag :=
  if braces then braceWarning slot what false value else parenWarning slot what value

/-- The expressions an expression holds in slots where delimiters around them may not be
needed, each with its slot and the words a warning uses for it. With `braces`, the heads of an
`if let`, a `while let` and a `match`, and the body of a closure, are left out. -/
def Expr.slots (braces : Bool) (e : Expr) : List (Slot × String × Expr) :=
  let isLet (c : Expr) : Bool := match c.kind with
    | .letExpr .. => true
    | _ => false
  match e.kind with
  | .ifExpr c _ _ => if braces && isLet c then [] else [(.head, "`if` condition", c)]
  | .whileExpr c _ _ => if braces && isLet c then [] else [(.head, "`while` condition", c)]
  | .forLoop _ it _ _ => [(.head, "`for` iterator expression", it)]
  | .matchExpr s _ => if braces then [] else [(.head, "`match` scrutinee expression", s)]
  | .ret (some v) => [(.returned, "`return` value", v)]
  | .breakExpr _ (some v) => [(.returned, "`break` value", v)]
  | .index _ i => [(.plain, "index expression", i)]
  | .assign _ v | .assignOp _ _ v => [(.plain, "assigned value", v)]
  | .call _ args => args.map fun a => (.plain, "function argument", a)
  | .methodCall _ _ _ args => args.map fun a => (.plain, "method argument", a)
  | .closure _ _ _ _ _ _ none body => if braces then [] else [(.plain, "closure body", body)]
  | _ => []

def Expr.delimWarnings (braces : Bool) (e : Expr) : List Diag :=
  (e.slots braces).flatMap fun (slot, what, v) => delimWarning braces slot what v

def Stmt.delimWarnings (braces : Bool) : Stmt → List Diag
  | .letStmt _ _ _ (some init) els =>
    if braces then [] else parenWarning (if els.isSome then .letElse else .plain) "assigned value" init
  | .expr e => delimWarning braces .plain "block return value" e
  | _ => []

def patParenWarning (avoidOr avoidMut : Bool) : Pat → List Diag
  | .paren inner sp =>
    let keep := match inner with
      | .range .. => true
      | .orPat _ => avoidOr
      | .ident none true _ _ => avoidMut
      | _ => false
    if keep then [] else [warning "unnecessary parentheses around pattern" sp]
  | _ => []

def isDocAttr (toks : List Token) : Bool :=
  let afterPath : List Kind → Bool := fun
    | .op "::" :: _ => false
    | _ => true
  let kinds : List Kind := toks.map (·.kind)
  match kinds with
  | .op "#" :: .opening .bracket :: .ident "doc" _ :: rest => afterPath rest
  | .op "#" :: .opening .bracket :: .ident "unsafe" false :: .opening .paren :: .ident "doc" _ ::
      rest => afterPath rest
  | _ => false

def docWarnings (attrs : List (List Token)) : List Diag :=
  attrs.filterMap fun toks =>
    if isDocAttr toks then toks.head?.map fun t => warning "unused doc comment" t.span else none

def redundantSemicolons (stmts : List Stmt) : List Diag :=
  let close : Option (Span × Nat) → List Diag := fun
    | some (sp, 1) => [warning "unnecessary trailing semicolon" sp]
    | some (sp, _) => [warning "unnecessary trailing semicolons" sp]
    | none => []
  let step := fun (acc : List Diag × Option (Span × Nat)) (st : Stmt) =>
    match st, acc.2 with
    | .empty sp, none => (acc.1, some (sp, 1))
    | .empty _, some (sp, k) => (acc.1, some (sp, k + 1))
    | _, run => (acc.1 ++ close run, none)
  let (found, run) := stmts.foldl step ([], none)
  found ++ close run

/-- Whether a name is in upper camel case, as the compiler judges it: without the underscores
at its ends it is empty, or it starts with a character that is not lowercase, has no two
underscores in a row, and no underscore next to a character with case. -/
def isCamelCase (name : String) : Bool :=
  let trimmed := ((name.toList.dropWhile fun c => c == '_').reverse.dropWhile
    fun c => c == '_').reverse
  match trimmed with
  | [] => true
  | c :: rest =>
    let pairs := trimmed.zip rest
    !Text.isLowercase c && !pairs.any (fun (a, b) => a == '_' && b == '_') &&
      !pairs.any fun (a, b) => (Text.hasCase a && b == '_') || (a == '_' && Text.hasCase b)

def camelCaseWarning (sort name : String) (span : Span) : List Diag :=
  if isCamelCase name then []
  else [warning (sort ++ " `" ++ name ++ "` should have an upper camel case name") span]

/-- Whether an item's attributes ask for the layout of C, `#[repr(C)]` among other hints, which
frees its name from the naming convention. -/
def hasReprC (attrs : List (List Token)) : Bool :=
  attrs.any fun toks => match (toks.map (·.kind) : List Kind) with
    | .op "#" :: .opening .bracket :: .ident "repr" false :: .opening .paren :: rest =>
      rest.contains (.ident "C" false)
    | _ => false

/-- The warnings of an item itself, where it stands: delimiters around the value of a constant
or static, then a name not in upper camel case, unless the item asks for the layout of C. An
inherent `impl` speaks for the names of its associated types; an item of a trait is judged only
as an associated type, and an item of an `impl` not at all. -/
def Item.ownWarnings (context : ItemContext) : Item → List Diag
  | .mk attrs _ kind _ =>
    match context with
    | .free =>
      let value := match kind with
        | .const _ _ _ (some v) | .static _ _ _ _ (some v) =>
          parenWarning .plain "assigned value" v ++ braceWarning .plain "assigned value" false v
        | _ => []
      let names := if hasReprC attrs then [] else match kind with
        | .struct x .. | .enum x .. | .union x .. | .tyAlias x .. =>
          camelCaseWarning "type" x.name x.span
        | .trait _ _ x .. => camelCaseWarning "trait" x.name x.span
        | .traitAlias x .. => camelCaseWarning "trait alias" x.name x.span
        | .impl _ _ _ none _ _ items => items.flatMap fun
          | .mk _ _ (.tyAlias x ..) _ => camelCaseWarning "associated type" x.name x.span
          | _ => []
        | _ => []
      value ++ names
    | .trait => match kind with
      | .tyAlias x .. => camelCaseWarning "associated type" x.name x.span
      | _ => []
    | _ => []

def Part.breaksTo (name : String) : Nat → Part → Bool
  | 0, _ => false
  | n + 1, x =>
    let inside (parts : List Part) : Bool := parts.any (Part.breaksTo name n)
    match x with
    | .expr (.mk _ k _) => match k with
      | .breakExpr (some l) v => l.name == name || inside (Part.ofExpr? v)
      | .continueExpr (some l) => l.name == name
      | .closure .. | .asyncBlock .. | .constBlock _ => false
      | .repeat e _ => inside [.expr e]
      | .whileExpr _ _ (some l) | .loopExpr _ (some l) | .block _ (some l) =>
        l.name != name && inside k.parts
      | .forLoop _ i _ (some l) => if l.name == name then inside [.expr i] else inside k.parts
      | _ => inside k.parts
    | .block _ | .stmt _ | .arm _ | .field _ => inside x.children
    | _ => false

/-- The warning about the label of an expression, when nothing reaches it; a label whose name
starts with `_` is never warned about. -/
def Expr.labelWarning (e : Expr) : List Diag :=
  let check (l : Ident) (parts : List Part) : List Diag :=
    if l.name.startsWith "_" || parts.any (Part.breaksTo l.name wellformedFuel) then []
    else [warning "unused label" l.span]
  match e.kind with
  | .whileExpr c b (some l) => check l [.expr c, .block b]
  | .forLoop _ _ b (some l) | .loopExpr b (some l) | .block b (some l) => check l [.block b]
  | _ => []

def Expr.parenWarnings (e : Expr) : List Diag :=
  match e.kind with
  | .letExpr p _ _ | .forLoop p .. => patParenWarning false false p ++ e.delimWarnings false
  | .ifExpr c (.mk stmts) els =>
    match (Expr.unparen wellformedFuel c).kind with
    | .letExpr _ scrutinee _ =>
      parenCheck .scrutinee "`let` scrutinee expression" scrutinee ++
        stmts.flatMap (Stmt.delimWarnings false) ++ (els.map (Expr.delimWarnings false)).getD []
    | _ => e.delimWarnings false
  | .matchExpr _ arms =>
    arms.flatMap (fun
      | .mk _ _ _ (some body) => parenWarning .plain "match arm expression" body
      | .mk _ _ _ none => []) ++ e.delimWarnings false
  | _ => e.delimWarnings false

def Expr.braceWarnings (e : Expr) : List Diag :=
  e.delimWarnings true ++ match e.kind with
    | .repeat _ len => braceWarning .plain "const expression" false len
    | _ => []

def Expr.whileTrueWarning (e : Expr) : List Diag :=
  match e.kind with
  | .whileExpr c _ _ => match (Expr.unparen wellformedFuel c).kind with
    | .lit "true" => [warning "denote infinite loops with `loop \x7b ... \x7d`" e.span]
    | _ => []
  | _ => []

def Expr.doubleNegation (e : Expr) : List Diag :=
  match e.kind with
  | .unary .neg inner => match inner.kind with
    | .unary .neg x => match x.kind with
      | .unary .neg _ => []
      | _ => [warning "use of a double negation" e.span]
    | _ => []
  | _ => []

/-- The warnings of an expression itself, in the order the compiler gives them. -/
def Expr.ownWarnings (e : Expr) : List Diag :=
  let fieldDocs := match e.kind with
    | .structLit _ _ fields _ => fields.flatMap fun
      | .mk attrs _ _ _ => docWarnings attrs
    | _ => []
  e.parenWarnings ++ e.braceWarnings ++ e.whileTrueWarning ++ docWarnings e.attrs ++ fieldDocs ++
    e.doubleNegation ++ e.labelWarning

def Stmt.ownWarnings (st : Stmt) : List Diag :=
  let pattern := match st with
    | .letStmt _ p .. => patParenWarning true false p
    | _ => []
  let docs := match st with
    | .letStmt attrs .. => docWarnings attrs
    | _ => []
  pattern ++ st.delimWarnings false ++ st.delimWarnings true ++ docs

def Pat.ownWarnings (p : Pat) : List Diag :=
  let parens := match p with
    | .tupleStruct _ _ ps | .tuple ps | .slice ps | .orPat ps => ps.flatMap (patParenWarning false false)
    | .structPat _ _ fields _ => fields.flatMap fun
      | .mk _ q _ => patParenWarning false false q
    | .ident _ _ _ (some q) | .boxPat q | .guard q _ => patParenWarning true false q
    | .ref m q _ => patParenWarning true (!m) q
    | _ => []
  let dots := "`...` range patterns are deprecated"
  let ellipsis := match p with
    | .ref _ (.range _ (some _) .includedDots _) sp => [warning dots sp]
    | .range _ (some _) .includedDots sp => [warning dots sp]
    | _ => []
  parens ++ ellipsis

def constArgWarning (value : Expr) : List Diag := braceWarning .plain "const expression" true value

def lengthWarning (len : Expr) : List Diag :=
  parenWarning .plain "const expression" len ++ braceWarning .plain "const expression" false len

def Bound.explicitOutput : Bound → Bool
  | .trait _ _ _ _ p _ _ => match p.segments.getLast? with
    | some (.mk _ (some (.paren _ (some _) _))) => true
    | _ => false
  | .outlives .. => false

/-- The warnings about the bounds of a trait object or an `impl` type: a parenthesized trait
bound, unless more bounds follow it and it has a parenthesized output type. -/
def boundWarnings : List Bound → List Diag
  | [] => []
  | b :: rest =>
    let own := match b with
      | .trait _ _ _ _ _ true sp =>
        if !rest.isEmpty && b.explicitOutput then [] else [warning "unnecessary parentheses around bound" sp]
      | _ => []
    own ++ boundWarnings rest

def Part.ownWarnings (room : Room) : Part → List Diag
  | .ty (.paren inner sp) =>
    let needed := match inner, room with
      | .traitObject _ _, .closed | .implTrait _ _, .closed => true
      | .traitObject _ bs, .single | .implTrait bs _, .single => bs.length > 1
      | _, _ => false
    if needed then [] else [warning "unnecessary parentheses around type" sp]
  | .ty (.traitObject _ bs) | .ty (.implTrait bs _) => boundWarnings bs
  | .ty (.array _ len) => lengthWarning len
  | .angle (.arg (.const e _) _) => constArgWarning e
  | .binder ps => ps.flatMap fun p => docWarnings p.attrs
  | .param (.mk _ (some p) _ _) => patParenWarning true false p
  | .expr e => e.ownWarnings
  | .block (.mk stmts) => redundantSemicolons stmts
  | .stmt st => st.ownWarnings
  | .pat p => p.ownWarnings
  | .arm (.mk attrs p _ body) =>
    patParenWarning false false p ++ if body.isSome then docWarnings attrs else []
  | .item context i => i.ownWarnings context
  | .variant (.mk _ _ x _ disc) =>
    (match disc with
      | some d => constArgWarning d
      | none => []) ++ camelCaseWarning "variant" x.name x.span
  | .genericParam p =>
    let (attrs, named) := match p with
      | .type attrs x _ _ => (attrs, camelCaseWarning "type parameter" x.name x.span)
      | .lifetime attrs .. | .const attrs .. => (attrs, [])
    named ++ docWarnings attrs
  | _ => []

def Part.rooms (room : Room) : Part → List (Room × Part)
  | .ty (.ref _ _ e _) | .ty (.ptr _ e) => [(.single, .ty e)]
  | .ty (.traitObject _ bs) => boundRooms true bs
  | .ty (.implTrait bs _) => boundRooms false bs
  | .bound _ (.trait lts _ _ _ p _ _) => [(.free, .binder lts), (room, .path p)]
  | .path p =>
    let count := p.segments.length
    (p.segments.zip (List.range count)).filterMap fun (seg, i) =>
      seg.args.map fun a => (if i + 1 == count then room else .free, .args a)
  | .args (.paren ins out _) => ins.map (fun t => (.free, .ty t)) ++ (Part.ofTy? out).map (room, ·)
  | .pat (.ref _ (.range a (some b) .includedDots _) _) =>
    (Part.ofExpr? a ++ [Part.expr b]).map (.free, ·)
  | x => x.children.map (.free, ·)
where
  boundRooms (inObject : Bool) : List Bound → List (Room × Part)
    | [] => []
    | b :: rest =>
      let room := if !b.explicitOutput then Room.free else if rest.isEmpty then .single else .closed
      (room, .bound inObject b) :: boundRooms inObject rest

def Part.warningsAt : Nat → Room → Part → List Diag
  | 0, _, _ => []
  | n + 1, room, x =>
    x.ownWarnings room ++ (x.rooms room).flatMap fun (r, y) => Part.warningsAt n r y

def Part.warnings (parts : List Part) : List Diag :=
  parts.flatMap (Part.warningsAt wellformedFuel .free)

end LoxFront.Code
