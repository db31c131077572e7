import LoxFront.Code.Syntax
/-!
Which printed types read back as types. Generated code is printed and then read again, by a
reader stricter than the compiler:

* parenthesized arguments, `Fn(u8) -> u8`, are read only on the traits of bounds after `dyn` or
  `impl`, not on a path that stands as a type, nor on a trait object written without `dyn`;
* an associated item may equal a type, but not a constant (`Item = const { N }`);
* a trait object or `impl` type needs a trait among its bounds, and a trait object without
  `dyn` must start with a plain trait: not a lifetime, nor a trait with `?`, `!`, `const` or
  `async` before it;
* no bound of a trait object is a trait that may be `const` (`[const] Trait`).

A type with any of these anywhere inside its types and bounds cannot be read back.
-/
namespace LoxFront.Code

def Bound.isTrait : Bound → Bool
  | .trait .. => true
  | .outlives .. => false

def Bound.isPlainTrait : Bound → Bool
  | .trait _ .never false .positive _ _ _ => true
  | _ => false

def Bound.isMaybeConst : Bound → Bool
  | .trait _ (.maybe _) _ _ _ _ _ => true
  | _ => false

/-- Whether the bounds of a trait object or an `impl` type can be read back: one is a trait,
and without `dyn` the first is a plain trait. -/
def boundsReadable (dyn : Bool) (bs : List Bound) : Bool :=
  bs.any Bound.isTrait && (dyn || match bs with
    | b :: _ => b.isPlainTrait
    | [] => false)

/-- Whether the bounds of a trait object can be read back: as those of an `impl` type, and none
is a trait that may be `const`. -/
def objectBoundsReadable (dyn : Bool) (bs : List Bound) : Bool :=
  boundsReadable dyn bs && !bs.any Bound.isMaybeConst

mutual

def Ty.readableAt : Nat → Ty → Bool
  | 0, _ => true
  | n + 1, t => match t with
    | .slice e | .ptr _ e | .ref _ _ e _ | .paren e _ | .array e _ => Ty.readableAt n e
    | .fnPtr _ _ _ params output =>
      params.all (Param.readableAt n) && output.all (Ty.readableAt n)
    | .tuple es => es.all (Ty.readableAt n)
    | .path none p => Path.readableAt n false p
    | .path (some (.mk q _)) p => Ty.readableAt n q && Path.readableAt n false p
    | .implTrait bs _ => boundsReadable true bs && bs.all (Bound.readableAt n true)
    | .traitObject dyn bs => objectBoundsReadable dyn bs && bs.all (Bound.readableAt n dyn)
    | _ => true

def Path.readableAt : Nat → Bool → Path → Bool
  | 0, _, _ => true
  | n + 1, parenOk, p => p.segments.all fun s => match s.args with
    | none => true
    | some a => GenericArgs.readableAt n parenOk a

def GenericArgs.readableAt : Nat → Bool → GenericArgs → Bool
  | 0, _, _ => true
  | n + 1, _, .angle args _ => args.all (AngleArg.readableAt n)
  | n + 1, parenOk, .paren inputs output _ =>
    parenOk && inputs.all (Ty.readableAt n) && output.all (Ty.readableAt n)

def AngleArg.readableAt : Nat → AngleArg → Bool
  | 0, _ => true
  | n + 1, .arg (.type t) _ => Ty.readableAt n t
  | _ + 1, .arg _ _ => true
  | n + 1, .constraint _ args kind =>
    args.all (GenericArgs.readableAt n false) && match kind with
      | .eqType t => Ty.readableAt n t
      | .eqConst _ => false
      | .bounds bs => bs.all (Bound.readableAt n true)

def Bound.readableAt : Nat → Bool → Bound → Bool
  | 0, _, _ => true
  | n + 1, parenOk, .trait _ _ _ _ path _ _ => Path.readableAt n parenOk path
  | _ + 1, _, .outlives .. => true

def Param.readableAt : Nat → Param → Bool
  | 0, _ => true
  | n + 1, .mk _ _ ty _ => ty.all (Ty.readableAt n)
  | _ + 1, .selfParam .. => true

end

def readableFuel : Nat := 100000

/-- Whether a type reads back once printed. -/
def Ty.readable (t : Ty) : Bool := t.readableAt readableFuel

def Param.readable (p : Param) : Bool := p.readableAt readableFuel

end LoxFront.Code
