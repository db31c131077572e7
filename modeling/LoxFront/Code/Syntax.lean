import LoxFront.Code.Token
/-!
Syntax trees of generated code: types, paths and their generic arguments, bounds, expressions,
patterns, blocks and statements, as the compiler parses them from the tokens a schema expands
to. Names keep their spans, so that later errors can point at them; a parse that recovered from
an error leaves an error node where the broken part stood.
-/
namespace LoxFront.Code

open LoxFront.Schema (Span)

structure Ident where
  name : String
  raw : Bool := false
  span : Span

/-- The text of a name, with the raw prefix where it is needed to read back as a name. -/
def Ident.text (i : Ident) : String := (Kind.ident i.name i.raw).text

/-- Whether a trait bound is asked to hold, may not hold (`?`), or must not hold (`!`). -/
inductive Polarity where
  | positive
  | maybe
  | negative
  deriving DecidableEq

/-- Whether a trait bound holds in constant contexts always (`const`), maybe (`[const]`), or is
not about constness. -/
inductive Constness where
  | never
  | always
  | maybe (span : Span)

inductive PatRangeEnd where
  | excluded
  | included
  | includedDots
  deriving DecidableEq

inductive RangeLimits where
  | halfOpen
  | closed
  deriving DecidableEq

inductive BinOp where
  | add | sub | mul | div | rem | and | or | bitXor | bitAnd | bitOr | shl | shr
  | eq | lt | le | ne | ge | gt
  deriving DecidableEq

inductive UnOp where
  | deref | not | neg
  deriving DecidableEq

structure LifetimeParam where
  attrs : List (List Token) := []
  name : Ident
  bounds : List Ident := []

structure FnHeader where
  isConst : Bool := false
  isAsync : Bool := false
  safety : Option String := none
  abi : Option (Option String) := none

mutual

inductive Ty where
  | slice (elem : Ty)
  | array (elem : Ty) (len : Expr)
  | ptr (mutable : Bool) (elem : Ty)
  | ref (lifetime : Option Ident) (mutable : Bool) (elem : Ty) (span : Span)
  | fnPtr (binder : List LifetimeParam) (safety : Option String) (abi : Option (Option String))
      (params : List Param) (output : Option Ty)
  | never
  | tuple (elems : List Ty)
  | paren (inner : Ty) (span : Span)
  | path (qself : Option QSelf) (path : Path)
  | traitObject (dyn : Bool) (bounds : List Bound)
  | implTrait (bounds : List Bound) (span : Span)
  | infer
  | cVarArgs
  | macCall (path : Path) (span : Span)
  | err

/-- A qualified self type, `<T as Trait>`: the type, and how many segments of the path that
follows name the trait. -/
inductive QSelf where
  | mk (ty : Ty) (position : Nat)

inductive Path where
  | mk (global : Bool) (segments : List Segment) (span : Span)

inductive Segment where
  | mk (ident : Ident) (args : Option GenericArgs)

inductive GenericArgs where
  | angle (args : List AngleArg) (span : Span)
  | paren (inputs : List Ty) (output : Option Ty) (span : Span)

inductive AngleArg where
  | arg (arg : GenericArg) (span : Span)
  | constraint (ident : Ident) (args : Option GenericArgs) (kind : Constraint)

inductive GenericArg where
  | lifetime (name : Ident)
  | type (ty : Ty)
  | const (value : Expr) (span : Span)

inductive Constraint where
  | eqType (ty : Ty)
  | eqConst (value : Expr)
  | bounds (bounds : List Bound)

inductive Bound where
  | trait (binder : List LifetimeParam) (constness : Constness) (async : Bool) (polarity : Polarity)
      (path : Path) (parens : Bool) (span : Span)
  | outlives (lifetime : Ident) (parens : Bool)

/-- A parameter of a function pointer type or a closure: its attributes' tokens, its name pattern if
any, its type (none for a closure parameter without one) and where it starts, its attributes
included; or a `self` parameter and where it starts, after its attributes. -/
inductive Param where
  | mk (attrs : List (List Token)) (pat : Option Pat) (ty : Option Ty) (span : Span)
  | selfParam (attrs : List (List Token)) (kind : SelfKind) (span : Span)

inductive SelfKind where
  | value (mutable : Bool)
  | region (lifetime : Option Ident) (mutable : Bool)
  | explicit (ty : Ty) (mutable : Bool)

inductive Expr where
  | mk (attrs : List (List Token)) (kind : ExprKind) (span : Span)

inductive ExprKind where
  | array (elems : List Expr)
  | repeat (elem : Expr) (count : Expr)
  | tuple (elems : List Expr)
  | paren (inner : Expr)
  | call (fn : Expr) (args : List Expr)
  | methodCall (receiver : Expr) (method : Ident) (turbofish : Option GenericArgs)
      (args : List Expr)
  | binary (op : BinOp) (opSpan : Span) (lhs rhs : Expr)
  | unary (op : UnOp) (operand : Expr)
  | lit (text : String)
  | cast (operand : Expr) (ty : Ty)
  | letExpr (pat : Pat) (scrutinee : Expr) (recovered : Bool)
  | ifExpr (cond : Expr) (thenBlock : Block) (elseBranch : Option Expr)
  | whileExpr (cond : Expr) (body : Block) (label : Option Ident)
  | forLoop (pat : Pat) (iter : Expr) (body : Block) (label : Option Ident)
  | loopExpr (body : Block) (label : Option Ident)
  | matchExpr (scrutinee : Expr) (arms : List Arm)
  | closure (binder : Option (List LifetimeParam)) (isConst : Bool) (isStatic : Bool) (isAsync : Bool)
      (isMove : Bool) (params : List Param) (output : Option Ty) (body : Expr)
  | block (body : Block) (label : Option Ident)
  | asyncBlock (isMove : Bool) (body : Block)
  | tryBlock (body : Block)
  | unsafeBlock (body : Block)
  | constBlock (body : Block)
  | await (base : Expr)
  | assign (lhs rhs : Expr)
  | assignOp (op : BinOp) (lhs rhs : Expr)
  | field (base : Expr) (name : Ident)
  | index (base : Expr) (index : Expr)
  | range (start : Option Expr) (stop : Option Expr) (limits : RangeLimits)
  | underscore
  | path (qself : Option QSelf) (path : Path)
  | addrOf (raw : Bool) (mutable : Bool) (operand : Expr)
  | breakExpr (label : Option Ident) (value : Option Expr)
  | continueExpr (label : Option Ident)
  | ret (value : Option Expr)
  | yieldExpr (value : Option Expr)
  | macCall (path : Path)
  | boxExpr (operand : Expr)
  | structLit (qself : Option QSelf) (path : Path) (fields : List FieldValue) (rest : StructRest)
  | tryOp (operand : Expr)
  | err

inductive StructRest where
  | none
  | base (base : Expr)
  | rest

inductive FieldValue where
  | mk (attrs : List (List Token)) (name : Ident) (value : Expr) (shorthand : Bool)

inductive Arm where
  | mk (attrs : List (List Token)) (pat : Pat) (guard : Option Expr) (body : Option Expr)

inductive Block where
  | mk (stmts : List Stmt)

/-- A statement; a lone `;` keeps where it stands. -/
inductive Stmt where
  | letStmt (attrs : List (List Token)) (pat : Pat) (ty : Option Ty) (init : Option Expr)
      (elseBlock : Option Block)
  | expr (e : Expr)
  | semi (e : Expr)
  | mac (call : Expr) (semi : Bool)
  | empty (span : Span)
  | item (i : Item)

/-- A pattern. A reference pattern and a pattern in parentheses keep where they start, and a range
pattern where its operator stands. -/
inductive Pat where
  | wild
  | ident (byRef : Option Bool) (mutable : Bool) (name : Ident) (sub : Option Pat)
  | structPat (qself : Option QSelf) (path : Path) (fields : List FieldPat) (rest : Bool)
  | tupleStruct (qself : Option QSelf) (path : Path) (elems : List Pat)
  | orPat (cases : List Pat)
  | path (qself : Option QSelf) (path : Path)
  | tuple (elems : List Pat)
  | boxPat (inner : Pat)
  | ref (mutable : Bool) (inner : Pat) (span : Span)
  | lit (value : Expr)
  | range (start : Option Expr) (stop : Option Expr) (limits : PatRangeEnd) (opSpan : Span)
  | slice (elems : List Pat)
  | rest
  | never
  | paren (inner : Pat) (span : Span)
  | macCall (path : Path)
  | guard (pat : Pat) (cond : Expr)
  | err

inductive FieldPat where
  | mk (name : Ident) (pat : Pat) (shorthand : Bool)

/-- Who may use an item: its own module (nothing written), everyone (`pub`), or the modules a path
names (`pub(crate)`, `pub(self)`, `pub(super)` written short, or `pub(in path)`). -/
inductive Visibility where
  | inherited
  | pub (span : Span)
  | restricted (path : Path) (shorthand : Bool) (span : Span)

inductive GenericParam where
  | lifetime (attrs : List (List Token)) (name : Ident) (bounds : List Ident)
  | type (attrs : List (List Token)) (name : Ident) (bounds : List Bound) (default : Option Ty)
  | const (attrs : List (List Token)) (name : Ident) (ty : Ty) (default : Option Expr)

/-- A predicate of a `where` clause: bounds on a type (under a binder), lifetimes a lifetime
outlives, or an equality of types, which is not supported. -/
inductive WherePredicate where
  | bound (binder : List LifetimeParam) (ty : Ty) (bounds : List Bound)
  | region (lifetime : Ident) (bounds : List Ident)
  | eq (lhs rhs : Ty) (span : Span)

inductive Generics where
  | mk (params : List GenericParam) (hasWhere : Bool) (preds : List WherePredicate)

inductive ItemField where
  | mk (attrs : List (List Token)) (vis : Visibility) (name : Option Ident) (ty : Ty)
      (default : Option Expr)

inductive VariantData where
  | unit
  | tuple (fields : List ItemField)
  | record (fields : List ItemField)

inductive Variant where
  | mk (attrs : List (List Token)) (vis : Visibility) (name : Ident) (data : VariantData)
      (disc : Option Expr)

/-- An item declared in a block, a module, a trait or an `impl`: its outer attributes, its
visibility, what it declares, and where it starts (at its visibility or keyword). -/
inductive Item where
  | mk (attrs : List (List Token)) (vis : Visibility) (kind : ItemKind) (span : Span)

/-- What an item declares. A constant or static without a written type has the type `_`; an
`impl` keeps where its self type starts; a module written `mod m;` has no items here. -/
inductive ItemKind where
  | struct (name : Ident) (generics : Generics) (data : VariantData)
  | enum (name : Ident) (generics : Generics) (variants : List Variant)
  | union (name : Ident) (generics : Generics) (fields : List ItemField)
  | trait (isUnsafe isAuto : Bool) (name : Ident) (generics : Generics) (bounds : List Bound)
      (items : List Item)
  | traitAlias (name : Ident) (generics : Generics) (bounds : List Bound)
  | tyAlias (name : Ident) (generics : Generics) (bounds : List Bound) (ty : Option Ty)
  | fn (header : FnHeader) (name : Ident) (generics : Generics) (params : List Param)
      (output : Option Ty) (body : Option Block)
  | const (name : Ident) (generics : Generics) (ty : Ty) (value : Option Expr)
  | static (isUnsafe mutable : Bool) (name : Ident) (ty : Ty) (value : Option Expr)
  | impl (isUnsafe : Bool) (generics : Generics) (negative : Bool) (traitRef : Option Path)
      (selfTy : Ty) (selfSpan : Span) (items : List Item)
  | mod (name : Ident) (items : Option (List Item))

end

def Path.segments : Path → List Segment
  | .mk _ segments _ => segments

def Path.span : Path → Span
  | .mk _ _ span => span

def Path.global : Path → Bool
  | .mk global _ _ => global

def Segment.ident : Segment → Ident
  | .mk ident _ => ident

def Segment.args : Segment → Option GenericArgs
  | .mk _ args => args

def Expr.kind : Expr → ExprKind
  | .mk _ kind _ => kind

def Expr.attrs : Expr → List (List Token)
  | .mk attrs _ _ => attrs

def Expr.span : Expr → Span
  | .mk _ _ span => span

def Expr.withAttrs (outer : List (List Token)) : Expr → Expr
  | .mk attrs kind span => .mk (outer ++ attrs) kind span

def Expr.plain (kind : ExprKind) (span : Span) : Expr := .mk [] kind span

end LoxFront.Code
