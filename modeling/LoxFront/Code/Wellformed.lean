import LoxFront.Code.Std
import LoxFront.Code.Printer
import LoxFront.Code.Readable
/-!
What the compiler checks in generated code before it resolves names: the names its items
declare, the macros it calls, and rules on the shape of types, bounds and items.

* A block, module or trait declares a name at most once among types and once among values, and
  an enum names each variant once; a later declaration is reported where it starts.

* A macro called in a type, an expression, a pattern or a statement must be a macro of the
  standard library; another is reported at its name.
* A `[const]` bound is allowed in no struct field and no parameter of a function that is not
  `const`; a `const` bound is not allowed on a trait object.
* In angle brackets, generic arguments come before constraints.
* A trait object has at most one lifetime bound, and an `impl` type has a trait among its bounds.
  An `impl` type stands neither inside another (but for a constraint or an output type in between)
  nor in a qualified type or the arguments of a path segment that is not the last.
* The lifetimes of a `for<...>` binder have no bounds.
* A function pointer's parameters take `...` only last, no `self`, and no pattern other than a
  name or `_`.

All findings come in the order of a walk that visits every part of the code before the
parts inside it, left to right.
-/
namespace LoxFront.Code

open LoxFront.Schema (Span)

inductive ItemContext where
  | free
  | trait
  | inherentImpl
  | traitImpl
  deriving DecidableEq

/-- A part of the syntax of generated code, for walks that visit every part. A bound knows
whether it bounds a trait object, and an item what it belongs to. -/
inductive Part where
  | ty (t : Ty)
  | path (p : Path)
  | args (a : GenericArgs)
  | angle (a : AngleArg)
  | bound (inObject : Bool) (b : Bound)
  | binder (params : List LifetimeParam)
  | param (p : Param)
  | expr (e : Expr)
  | field (f : FieldValue)
  | block (b : Block)
  | stmt (s : Stmt)
  | pat (p : Pat)
  | fieldPat (f : FieldPat)
  | arm (a : Arm)
  | item (context : ItemContext) (i : Item)
  | generics (g : Generics)
  | genericParam (p : GenericParam)
  | wherePredicate (w : WherePredicate)
  | variant (v : Variant)
  | itemField (f : ItemField)

def QSelf.parts : Option QSelf → List Part
  | some (.mk t _) => [.ty t]
  | none => []

def Part.ofExpr? : Option Expr → List Part
  | some e => [.expr e]
  | none => []

def Part.ofTy? : Option Ty → List Part
  | some t => [.ty t]
  | none => []

def ItemContext.ofImpl (traitRef : Option Path) : ItemContext :=
  if traitRef.isSome then .traitImpl else .inherentImpl

def ItemKind.parts : ItemKind → List Part
  | .struct _ g data => .generics g :: data.fields.map .itemField
  | .union _ g fields => .generics g :: fields.map .itemField
  | .enum _ g variants => .generics g :: variants.map .variant
  | .trait _ _ _ g bounds items =>
    .generics g :: bounds.map (.bound false) ++ items.map (.item .trait)
  | .traitAlias _ g bounds => .generics g :: bounds.map (.bound false)
  | .tyAlias _ g bounds ty => .generics g :: bounds.map (.bound false) ++ Part.ofTy? ty
  | .fn _ _ g params output body =>
    .generics g :: params.map .param ++ Part.ofTy? output ++ (body.map Part.block).toList
  | .const _ g ty value => [.generics g, .ty ty] ++ Part.ofExpr? value
  | .static _ _ _ ty value => .ty ty :: Part.ofExpr? value
  | .impl _ g _ traitRef selfTy _ items =>
    .generics g :: (traitRef.map Part.path).toList ++ [.ty selfTy] ++
      items.map (.item (ItemContext.ofImpl traitRef))
  | .mod _ items => (items.getD []).map (.item .free)

def ExprKind.parts : ExprKind → List Part
  | .array es | .tuple es => es.map .expr
  | .repeat e c => [.expr e, .expr c]
  | .paren e | .unary _ e | .await e | .field e _ | .addrOf _ _ e | .boxExpr e | .tryOp e =>
    [.expr e]
  | .call f args => .expr f :: args.map .expr
  | .methodCall r _ turbofish args =>
    .expr r :: (turbofish.map Part.args).toList ++ args.map .expr
  | .binary _ _ l r | .assign l r | .assignOp _ l r | .index l r => [.expr l, .expr r]
  | .cast e t => [.expr e, .ty t]
  | .letExpr p e _ => [.pat p, .expr e]
  | .ifExpr c b e => [.expr c, .block b] ++ Part.ofExpr? e
  | .whileExpr c b _ => [.expr c, .block b]
  | .forLoop p i b _ => [.pat p, .expr i, .block b]
  | .loopExpr b _ | .block b _ | .asyncBlock _ b | .tryBlock b | .unsafeBlock b
  | .constBlock b => [.block b]
  | .matchExpr s arms => .expr s :: arms.map .arm
  | .closure binder _ _ _ _ params output body =>
    (binder.map Part.binder).toList ++ params.map .param ++ Part.ofTy? output ++ [.expr body]
  | .range s e _ => Part.ofExpr? s ++ Part.ofExpr? e
  | .path q p => QSelf.parts q ++ [.path p]
  | .breakExpr _ v | .ret v | .yieldExpr v => Part.ofExpr? v
  | .structLit q p fields tail =>
    QSelf.parts q ++ [.path p] ++ fields.map .field ++ match tail with
      | .base b => [.expr b]
      | _ => []
  | .lit _ | .underscore | .continueExpr _ | .macCall _ | .err => []

def Part.children : Part → List Part
  | .ty t => match t with
    | .slice e | .ptr _ e | .ref _ _ e _ | .paren e _ => [.ty e]
    | .array e len => [.ty e, .expr len]
    | .fnPtr lts _ _ params output => .binder lts :: params.map .param ++ Part.ofTy? output
    | .tuple es => es.map .ty
    | .path q p => QSelf.parts q ++ [.path p]
    | .traitObject _ bs => bs.map (.bound true)
    | .implTrait bs _ => bs.map (.bound false)
    | .never | .infer | .cVarArgs | .macCall .. | .err => []
  | .path p => p.segments.filterMap fun s => s.args.map .args
  | .args (.angle as _) => as.map .angle
  | .args (.paren ins out _) => ins.map .ty ++ Part.ofTy? out
  | .angle (.arg (.type t) _) => [.ty t]
  | .angle (.arg (.const e _) _) => [.expr e]
  | .angle (.arg (.lifetime _) _) => []
  | .angle (.constraint _ gargs kind) =>
    (gargs.map Part.args).toList ++ match kind with
      | .eqType t => [.ty t]
      | .eqConst e => [.expr e]
      | .bounds bs => bs.map (.bound false)
  | .bound _ (.trait lts _ _ _ p _ _) => [.binder lts, .path p]
  | .bound _ (.outlives ..) => []
  | .binder _ => []
  | .param (.mk _ pt oty _) => (pt.map Part.pat).toList ++ Part.ofTy? oty
  | .param (.selfParam _ (.explicit t _) _) => [.ty t]
  | .param (.selfParam ..) => []
  | .expr (.mk _ k _) => k.parts
  | .field (.mk _ _ v _) => [.expr v]
  | .block (.mk ss) => ss.map .stmt
  | .stmt (.letStmt _ p oty init els) =>
    [.pat p] ++ Part.ofTy? oty ++ Part.ofExpr? init ++ (els.map Part.block).toList
  | .stmt (.expr e) | .stmt (.semi e) | .stmt (.mac e _) => [.expr e]
  | .stmt (.empty _) => []
  | .pat p => match p with
    | .ident _ _ _ sub => (sub.map Part.pat).toList
    | .structPat q pp fields _ => QSelf.parts q ++ [.path pp] ++ fields.map .fieldPat
    | .tupleStruct q pp es => QSelf.parts q ++ [.path pp] ++ es.map .pat
    | .orPat es | .tuple es | .slice es => es.map .pat
    | .path q pp => QSelf.parts q ++ [.path pp]
    | .boxPat i | .ref _ i _ | .paren i _ => [.pat i]
    | .lit e => [.expr e]
    | .range s e _ _ => Part.ofExpr? s ++ Part.ofExpr? e
    | .guard i c => [.pat i, .expr c]
    | .wild | .rest | .never | .macCall _ | .err => []
  | .fieldPat (.mk _ p _) => [.pat p]
  | .arm (.mk _ p g b) => [.pat p] ++ Part.ofExpr? g ++ Part.ofExpr? b
  | .stmt (.item i) => [.item .free i]
  | .item _ (.mk _ _ kind _) => kind.parts
  | .generics (.mk params _ preds) => params.map .genericParam ++ preds.map .wherePredicate
  | .genericParam (.lifetime ..) => []
  | .genericParam (.type _ _ bounds default) => bounds.map (.bound false) ++ Part.ofTy? default
  | .genericParam (.const _ _ t default) => .ty t :: Part.ofExpr? default
  | .wherePredicate (.bound lts t bounds) => [.binder lts, .ty t] ++ bounds.map (.bound false)
  | .wherePredicate (.region ..) => []
  | .wherePredicate (.eq lhs rhs _) => [.ty lhs, .ty rhs]
  | .variant (.mk _ _ _ data disc) => data.fields.map .itemField ++ Part.ofExpr? disc
  | .itemField (.mk _ _ _ t default) => .ty t :: Part.ofExpr? default

/-- What surrounds a part, as far as `impl` types are concerned: the `impl` type it is inside,
if any (not counting the constraints and function outputs in between, which may hold another),
and whether it is in a qualified type or in the arguments of a path segment that is not the
last, where no `impl` type may stand. -/
structure Around where
  outerImpl : Option Span := none
  banned : Bool := false

def Part.inside (c : Around) : Part → List (Around × Part)
  | .ty (.implTrait bs sp) => bs.map fun b => ({ c with outerImpl := some sp }, .bound false b)
  | .ty (.path q p) =>
    let qualified := (QSelf.parts q).map fun x => ({ c with banned := true }, x)
    let count := p.segments.length
    qualified ++ (p.segments.zip (List.range count)).filterMap fun (seg, i) =>
      seg.args.map fun a => (if i + 1 == count then c else { c with banned := true }, .args a)
  | .angle (.constraint i gargs kind) =>
    (Part.angle (.constraint i gargs kind)).children.map fun x => ({ c with outerImpl := none }, x)
  | .args (.paren ins out _) =>
    ins.map (fun t => (c, .ty t)) ++ (Part.ofTy? out).map fun x => ({ c with outerImpl := none }, x)
  | .item ctx i => (Part.item ctx i).children.map fun y => ({}, y)
  | x => x.children.map fun y => (c, y)

/-- What a walk visiting a part before the parts inside it finds, given what it finds at each
part with what surrounds it; `fuel` bounds the depth. -/
def Part.walk {α : Type} (visit : Around → Part → List α) : Nat → Around → Part → List α
  | 0, _, _ => []
  | n + 1, c, x => visit c x ++ (x.inside c).flatMap fun (c', y) => Part.walk visit n c' y

/-- What the compiler finds before resolving names: names declared twice, calls of unknown
macros, and broken rules of shape. -/
structure Findings where
  definitions : List Diag := []
  macros : List Diag := []
  rules : List Diag := []

/-- The names an item declares among types and among values, where it starts: a struct without
named fields is also its own constructor, and an `impl` declares nothing. -/
def Item.declaration : Item → Option String × Option String × Span
  | .mk _ _ kind sp => match kind with
    | .struct x _ .unit | .struct x _ (.tuple _) => (some x.name, some x.name, sp)
    | .struct x .. | .enum x .. | .union x .. | .trait _ _ x .. | .traitAlias x ..
    | .tyAlias x .. | .mod x _ => (some x.name, none, sp)
    | .fn _ x .. | .const x .. | .static _ _ x .. => (none, some x.name, sp)
    | .impl .. => (none, none, sp)

/-- The errors of names declared twice in one namespace of a block, module, trait or enum: each
later declaration is reported where it starts, once even when it clashes in both namespaces.
An underscore declares nothing. -/
def duplicateNames (decls : List (Option String × Option String × Span)) : List Diag :=
  let step := fun (acc : List String × List String × List Diag)
      (d : Option String × Option String × Span) =>
    let (types, values, errs) := acc
    let (t, v, sp) := d
    let t := t.filter (· != "_")
    let v := v.filter (· != "_")
    let clash := (t.filter types.contains).orElse fun _ => v.filter values.contains
    let errs := match clash with
      | some n => errs ++ [⟨"the name `" ++ n ++ "` is defined multiple times", sp, false⟩]
      | none => errs
    (t.toList ++ types, v.toList ++ values, errs)
  (decls.foldl step ([], [], [])).2.2

def Item.duplicates : Item → List Diag
  | .mk _ _ kind _ => match kind with
    | .mod _ (some items) | .trait _ _ _ _ _ items => duplicateNames (items.map Item.declaration)
    | .enum _ _ variants => duplicateNames (variants.map fun
      | .mk _ _ x _ _ => (some x.name, none, x.span))
    | _ => []

def macroFinding (p : Path) : List Diag :=
  match p with
  | .mk false [.mk id _] _ =>
    if knownMacros.contains id.name then []
    else [⟨"cannot find macro `" ++ id.printed ++ "` in this scope", id.span, false⟩]
  | _ => []

def argumentOrder (args : List AngleArg) : List Diag :=
  let isArg : AngleArg → Bool := fun
    | .arg .. => true
    | .constraint .. => false
  let afterConstraint := (args.dropWhile isArg).any isArg
  let firstArg := args.findSome? fun
    | .arg _ sp => some sp
    | .constraint .. => none
  match afterConstraint, firstArg with
  | true, some sp => [⟨"generic arguments must come before the first constraint", sp, false⟩]
  | _, _ => []

def lifetimeBoundCount (bs : List Bound) : List Diag :=
  let lifetimes := bs.filterMap fun
    | .outlives l _ => some l
    | .trait .. => none
  match lifetimes with
  | _ :: l :: _ => [⟨"only a single explicit lifetime bound is permitted", l.span, false⟩]
  | _ => []

def constnessFindings (inObject : Bool) : Bound → List Diag
  | .trait _ (.maybe sp) _ .positive _ _ _ => [⟨"`[const]` is not allowed here", sp, false⟩]
  | .trait _ .always _ .positive _ _ sp =>
    if inObject then [⟨"const trait bounds are not allowed in trait object types", sp, false⟩]
    else []
  | _ => []

def binderFindings (ps : List LifetimeParam) : List Diag :=
  ps.filterMap fun p => p.bounds.head?.map fun b =>
    ⟨"lifetime bounds cannot be used in this context", b.span, false⟩

def implFindings (c : Around) (bs : List Bound) (sp : Span) : List Diag :=
  (if c.banned then [⟨"`impl Trait` is not allowed in path parameters", sp, false⟩] else []) ++
  (if c.outerImpl.isSome then [⟨"nested `impl Trait` is not allowed", sp, false⟩] else []) ++
  (if bs.any Bound.isTrait then [] else [⟨"at least one trait must be specified", sp, false⟩])

def fnPtrFindings (params : List Param) : List Diag :=
  let count := params.length
  let variadic := (params.zip (List.range count)).filterMap fun
    | (.mk _ _ (some .cVarArgs) sp, i) =>
      if i + 1 < count then
        some ⟨"`...` must be the last argument of a C-variadic function", sp, false⟩
      else none
    | _ => none
  let selfFirst := match params with
    | .selfParam _ _ sp :: _ =>
      [⟨"`self` parameter is only allowed in associated functions", sp, false⟩]
    | _ => []
  let patterns := params.filterMap fun
    | .mk _ (some (.ident none false _ none)) _ _ | .mk _ (some .wild) _ _ | .mk _ none _ _ => none
    | .mk _ (some _) _ sp => some ⟨"patterns aren't allowed in function pointer types", sp, false⟩
    | .selfParam .. => none
  variadic ++ selfFirst ++ patterns

def visibilityFinding (v : Visibility) : List Diag :=
  match v with
  | .inherited => []
  | .pub sp | .restricted _ _ sp => [⟨"visibility qualifiers are not permitted here", sp, false⟩]

def boundsNoEffect (context : String) (bounds : List Bound) : List Diag :=
  match bounds with
  | b :: _ => [⟨"bounds on `type`s in " ++ context ++ " have no effect", b.span, false⟩]
  | [] => []

/-- The errors of a function item's parameters: `self` first where the function is not
associated, `...` but last, and, without a body, patterns other than names and `_`. -/
def fnParamFindings (associated hasBody : Bool) (params : List Param) : List Diag :=
  let count := params.length
  let selfFirst := match params with
    | .selfParam _ _ sp :: _ =>
      if associated then [] else [⟨"`self` parameter is only allowed in associated functions", sp, false⟩]
    | _ => []
  let variadic := (params.zip (List.range count)).filterMap fun
    | (.mk _ _ (some .cVarArgs) sp, i) =>
      if i + 1 < count then some ⟨"`...` must be the last argument of a C-variadic function", sp, false⟩
      else none
    | _ => none
  let patterns := if hasBody then [] else params.filterMap fun
    | .mk _ (some (.ident none false _ none)) _ _ | .mk _ (some .wild) _ _ | .mk _ none _ _ => none
    | .mk _ (some _) _ sp =>
      if associated then none
      else some ⟨"patterns aren't allowed in functions without bodies", sp, false⟩
    | .selfParam .. => none
  variadic ++ selfFirst ++ patterns

/-- The errors of an item itself, given what it belongs to: a missing body, bounds without
effect, a union without fields, visibility where none is permitted, and an inherent `impl` that is
`unsafe` or negative. -/
def itemFindings (context : ItemContext) : Item → List Diag
  | .mk _ vis kind sp =>
    let inImpl := context == .inherentImpl || context == .traitImpl
    let visibility := if context == .trait || context == .traitImpl then visibilityFinding vis else []
    let own := match kind with
      | .fn _ _ _ params _ body =>
        let missing := if body.isSome then []
          else if context == .free then [⟨"free function without a body", sp, false⟩]
          else if inImpl then [⟨"associated function in `impl` without body", sp, false⟩]
          else []
        missing ++ fnParamFindings (context != .free) body.isSome params
      | .const _ _ _ value =>
        if value.isSome then []
        else if context == .free then [⟨"free constant item without body", sp, false⟩]
        else if inImpl then [⟨"associated constant in `impl` without body", sp, false⟩]
        else []
      | .static isUnsafe _ _ _ value =>
        (if isUnsafe then [⟨"static items cannot be declared with `unsafe` safety qualifier " ++
          "outside of `extern` block", sp, false⟩] else []) ++
        if value.isSome then [] else [⟨"free static item without body", sp, false⟩]
      | .tyAlias _ _ bounds ty =>
        if context == .free then
          (if ty.isSome then [] else [⟨"free type alias without body", sp, false⟩]) ++
            boundsNoEffect "this context" bounds
        else if inImpl then
          (if ty.isSome then [] else [⟨"associated type in `impl` without body", sp, false⟩]) ++
            boundsNoEffect "`impl`s" bounds
        else []
      | .union _ _ fields => if fields.isEmpty then [⟨"unions cannot have zero fields", sp, false⟩] else []
      | .enum _ _ variants => variants.flatMap fun
        | .mk _ v _ data _ => visibilityFinding v ++ data.fields.flatMap fun
          | .mk _ fv _ _ _ => visibilityFinding fv
      | .impl isUnsafe _ negative traitRef _ selfSpan _ =>
        visibilityFinding vis ++ if traitRef.isSome then [] else
          (if isUnsafe then [⟨"inherent impls cannot be unsafe", selfSpan, false⟩] else []) ++
            if negative then [⟨"inherent impls cannot be negative", selfSpan, false⟩] else []
      | _ => []
    visibility ++ own

def genericsFindings : Generics → List Diag
  | .mk params _ preds =>
    let step := fun (acc : Option Span × Option Diag) (p : GenericParam) =>
      match acc.2, p with
      | some d, _ => (acc.1, some d)
      | none, .lifetime .. => acc
      | none, .type _ name _ (some _) | none, .const _ name _ (some _) => (some name.span, none)
      | none, _ => match acc.1 with
        | some sp => (acc.1, some ⟨"generic parameters with a default must be trailing", sp, false⟩)
        | none => acc
    let trailing := (params.foldl step (none, none)).2.toList
    let isLifetime : GenericParam → Bool := fun
      | .lifetime .. => true
      | _ => false
    let late := (params.dropWhile isLifetime).find? isLifetime
    let order := match late with
      | some (.lifetime _ name _) =>
        [⟨"lifetime parameters must be declared prior to type and const parameters", name.span, false⟩]
      | _ => []
    let equalities := preds.filterMap fun
      | .eq _ _ sp => some ⟨"equality constraints are not yet supported in `where` clauses", sp, false⟩
      | _ => none
    trailing ++ order ++ equalities

def wherePredicateFindings : WherePredicate → List Diag
  | .bound (_ :: _) _ bounds => bounds.filterMap fun
    | .trait (_ :: _) _ _ _ _ _ sp => some ⟨"nested quantification of lifetimes", sp, false⟩
    | _ => none
  | _ => []

def Part.findings (c : Around) : Part → Findings
  | .ty (.macCall p _) => { macros := macroFinding p }
  | .expr (.mk _ (.macCall p) _) => { macros := macroFinding p }
  | .pat (.macCall p) => { macros := macroFinding p }
  | .ty (.traitObject _ bs) => { rules := lifetimeBoundCount bs }
  | .ty (.implTrait bs sp) => { rules := implFindings c bs sp }
  | .ty (.fnPtr _ _ _ params _) => { rules := fnPtrFindings params }
  | .args (.angle xs _) => { rules := argumentOrder xs }
  | .bound inObject b => { rules := constnessFindings inObject b }
  | .binder ps => { rules := binderFindings ps }
  | .item ctx i => { definitions := i.duplicates, rules := itemFindings ctx i }
  | .block (.mk stmts) => { definitions := duplicateNames (stmts.filterMap fun
      | .item i => some i.declaration
      | _ => none) }
  | .generics g => { rules := genericsFindings g }
  | .wherePredicate w => { rules := wherePredicateFindings w }
  | _ => {}

def wellformedFuel : Nat := 100000

def Part.check (parts : List Part) : Findings :=
  let found := parts.flatMap (Part.walk (fun c x => [x.findings c]) wellformedFuel {})
  { definitions := found.flatMap (·.definitions), macros := found.flatMap (·.macros),
    rules := found.flatMap (·.rules) }

end LoxFront.Code
