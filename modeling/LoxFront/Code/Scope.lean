import LoxFront.Code.Std
import LoxFront.Code.Printer
/-!
Name resolution in generated code: the paths, lifetimes, labels and local names in the types of
struct fields and of constructor parameters, resolved the way the compiler resolves them.

A path is walked segment by segment from where it starts: the scope (the generated items, the
crates, the prelude, the primitive types), the root of the generated code (`crate`, `self`), or
the crates (after a leading `::`). A segment that names an enum leads on to its variants, and a
variant that more segments follow is an error, for it is no module. A segment that names another
type or a trait ends the walk: what follows is an associated item, which only type checking can
judge.

A keyword anywhere but at the start, a `super` at the start, a lifetime that no binder declares,
a binder lifetime that shadows another, repeats one or is reserved, a reference without a
lifetime, or a type or trait named without the lifetime parameters it takes, where no lifetime
may be left out, a label that no loop or block declares, a parameter used in a constant, and a
parameter name bound twice are reported as soon as they are found; a name that is not found and
a name of the wrong kind are held until everything has been resolved.

A path that stops before its last segment (a name not found on the way, a keyword out of place,
one `super` too many) is the exception: its error is held when the standard library has a type
named like the segment before the last, which the compiler offers to import; otherwise it is
reported at once, unless the path has just two segments, when it is set aside until the very
end, after the warnings.
-/
namespace LoxFront.Code

open LoxFront.Schema (Span)

/-- What `Self` names where a path is resolved: the type of the innermost item around, the type of
an item further out, which an item inside it cannot use, or nothing at all. -/
inductive SelfScope where
  | seen
  | outer
  | unseen
  deriving DecidableEq

/-- The names generated code declares at its root: the tree's enum, whose variants are named for
the nodes, the nodes' structs, and the visitor trait; with the names that items declare in the
blocks around, and the type parameters of the items around, innermost first. Inside a module the
root is not seen. -/
structure Items where
  tree : String
  nodes : List String
  visitor : String := "Visitor"
  declared : List StdItem := []
  rootSeen : Bool := true
  selfScope : SelfScope := .seen

def Items.root (items : Items) (name : String) : Option Entity :=
  if name == items.tree then some .enumTy
  else if items.nodes.contains name then some .structTy
  else if name == items.visitor then some .traitItem
  else none

def Items.rootItem (items : Items) (name : String) : Option StdItem :=
  (items.root name).map fun e =>
    { name, entity := e, variants := if e == .enumTy then items.nodes else [] }

/-- What a name where a path starts denotes: an item of the blocks around or a type parameter,
an item of the root, a crate, a type or trait of the prelude, or a primitive type, looked up in
that order. -/
def Items.lexical (items : Items) (name : String) : Option StdItem :=
  match items.declared.find? (·.name == name) with
  | some i => some i
  | none =>
  match if items.rootSeen then items.rootItem name else none with
  | some i => some i
  | none =>
    if externCrates.contains name then some { name, entity := .crateRoot }
    else match preludeTypes.find? (·.name == name) with
      | some i => some i
      | none => if primitiveTypes.contains name then some { name, entity := .builtin } else none

/-- Where the walk along a path stands after its first segments: at the root of the generated
code, among the crates, in a module of `std` or `core` given by its path below the crate root,
or among the variants of an enum. -/
inductive Place where
  | root
  | crates
  | std (core : Bool) (modules : List String)
  | variants (names : List String)

inductive Named where
  | entity (i : StdItem)
  | unlisted
  | missing

def Items.find (items : Items) : Option Place → String → Named
  | none, name => match items.lexical name with
    | some i => .entity i
    | none => .missing
  | some .root, name => match items.rootItem name with
    | some i => .entity i
    | none => .missing
  | some .crates, name =>
    if externCrates.contains name then .entity { name, entity := .crateRoot } else .missing
  | some (.std core mods), name => match stdLookup core mods name with
    | .item i => .entity i
    | .unlisted => .unlisted
    | .missing => .missing
  | some (.variants names), name =>
    if names.contains name then .entity { name, entity := .variant } else .unlisted

def Items.next (place : Option Place) (i : StdItem) : Option Place :=
  match i.entity with
  | .crateRoot =>
    if i.name == "std" then some (.std false []) else if i.name == "core" then some (.std true [])
    else none
  | .module => match place with
    | some (.std core mods) => some (.std core (mods ++ [i.name]))
    | _ => none
  | .enumTy => some (.variants i.variants)
  | _ => none

/-- When the compiler reports an error of name resolution: as soon as it finds it; once the whole
code has been resolved; or last of all, after its warnings, for an error it sets aside in case
type checking has more to say about the path. -/
inductive Timing where
  | now
  | held
  | last
  deriving DecidableEq

structure Finding where
  timing : Timing
  diag : Diag
  warning : Bool := false

def Finding.now (message : String) (span : Span) : Finding :=
  { timing := .now, diag := ⟨message, span, false⟩ }

def Finding.later (message : String) (span : Span) : Finding :=
  { timing := .held, diag := ⟨message, span, false⟩ }

def Finding.warn (message : String) (span : Span) : Finding :=
  { timing := .now, diag := ⟨message, span, false⟩, warning := true }

def importable (name : String) : Bool :=
  primitiveTypes.contains name ||
    stdModules.any fun m => (m.shared ++ m.stdOnly ++ m.coreOnly).any (·.name == name)

/-- When the error of a path that stops before its last segment is reported (a keyword out of
place counts as such a stop): `length` is the number of its segments, a leading `::` counted as
one, and `before` the name of the segment before the last, if the path has one and it is not the
leading `::`. A one-segment path is reported at once. Otherwise the compiler looks for imports
of that name; with some, the error is held to list them. Without, a two-segment path is set
aside to the end, and a longer one is reported at once. -/
def stopTiming (length : Nat) (before : Option Ident) : Timing :=
  if length ≤ 1 then .now
  else if (before.map fun b => importable b.name).getD false then .held
  else if length == 2 then .last
  else .now

def Finding.stop (length : Nat) (before : Option Ident) (message : String) (span : Span) :
    Finding :=
  { timing := stopTiming length before, diag := ⟨message, span, false⟩ }

def pathText (global : Bool) (segs : List Ident) : String :=
  (if global then "::" else "") ++ "::".intercalate (segs.map Ident.printed)

def startsUpper (name : String) : Bool :=
  match name.toList with
  | c :: _ => c.isUpper
  | [] => false

def Ident.isKeyword (i : Ident) (word : String) : Bool := !i.raw && i.name == word

/-- The error for a segment `x` that a path does not find after the segments `before`, the last
of which denotes `prev`; `expected` says what the last segment should be. -/
def missingMessage (expected : String) (global : Bool) (before : List Ident)
    (prev : Option Entity) (last : Bool) (x : Ident) : String :=
  let name := "`" ++ x.printed ++ "`"
  match before.getLast? with
  | none =>
    if global then
      if last then "cannot find crate " ++ name ++ " in the list of imported crates"
      else "cannot find " ++ name ++ " in the list of imported crates"
    else if last then "cannot find " ++ expected ++ " " ++ name ++ " in this scope"
    else if startsUpper x.name then "cannot find type " ++ name ++ " in this scope"
    else "cannot find module or crate " ++ name ++ " in this scope"
  | some q =>
    if q.isKeyword "crate" then
      if last then "cannot find " ++ expected ++ " " ++ name ++ " in the crate root"
      else "cannot find " ++ name ++ " in the crate root"
    else if last then
      "cannot find " ++ expected ++ " " ++ name ++ " in " ++ ((prev.map Entity.descr).getD "module") ++
        " `" ++ pathText global before ++ "`"
    else "cannot find " ++ name ++ " in `" ++ q.name ++ "`"

/-- How a path resolves: to an entity, which takes some lifetime parameters; to a type at the
segment of index `index` followed by associated items, which only type checking can judge; to
something else only type checking can judge; or to an error. -/
inductive Outcome where
  | found (e : Entity) (lifetimes : Nat)
  | typed (index : Nat) (lifetimes : Nat)
  | deferred
  | failed (f : Finding)

/-- Walks the segments of a path in the type namespace. `place` is where the walk stands (none
at the start), `prev` what the segments walked so far denote, and `before` those segments. The
last segment is looked up as a value when `value` holds; `span` is where the path starts. -/
def Items.walk (items : Items) (global value : Bool) (expected : String) (span : Span) :
    Option Place → Option Entity → List Ident → List Ident → Outcome
  | _, _, _, [] => .deferred
  | place, prev, before, s :: tail =>
    let last := tail.isEmpty
    let start := before.isEmpty
    let whole := before ++ s :: tail
    let stop := Finding.stop (whole.length + if global then 1 else 0) whole.dropLast.getLast?
    if !s.raw && pathSegmentKeywords.contains s.name then
      let leading := before.all fun b => b.isKeyword "self" || b.isKeyword "super"
      if s.name == "super" && leading && !global then
        .failed (stop "too many leading `super` keywords within `crate`" s.span)
      else if start && !global then
        if s.name == "Self" then
          match items.selfScope with
          | .seen => if last then .found .selfType 0 else .deferred
          | .outer => .failed (.now "can't use `Self` from outer item" s.span)
          | .unseen =>
            if last then .failed (.later ("cannot find " ++ expected ++ " `Self` in this scope") s.span)
            else .deferred
        else if last then .found .localRoot 0
        else items.walk global value expected span (some .root) (some .localRoot) [s] tail
      else
        let message := if start then "global paths cannot start with `" ++ s.name ++ "`"
          else "`" ++ s.name ++ "` in paths can only be used in start position"
        .failed (stop message s.span)
    else
      let here := if start && global then some .crates else place
      if last && value then
        match here with
        | some .root => match items.root s.name with
          | some e => .failed (.later ("expected " ++ expected ++ ", found " ++ e.descr ++ " `" ++
              pathText global (before ++ [s]) ++ "`") span)
          | none => .failed (.later (missingMessage expected global before prev true s) s.span)
        | some .crates =>
          if externCrates.contains s.name then
            .failed (.later ("expected " ++ expected ++ ", found crate `" ++
              pathText global (before ++ [s]) ++ "`") span)
          else .failed (.later (missingMessage expected global before prev true s) s.span)
        | _ => .deferred
      else
        match items.find here s.name with
        | .missing =>
          let message := missingMessage expected global before prev last s
          .failed (if last then .later message s.span else stop message s.span)
        | .unlisted => .deferred
        | .entity i =>
          if i.entity == .outerParam then
            .failed (.now "can't use generic parameters from outer item" s.span)
          else if last then .found i.entity i.lifetimes
          else if i.entity == .variant then
            let owner := (before.getLast?.map Ident.printed).getD ""
            .failed (stop ("cannot find module `" ++ s.printed ++ "` in `" ++ owner ++ "`") s.span)
          else match Items.next here i with
            | some p =>
              items.walk global value expected span (some p) (some i.entity) (before ++ [s]) tail
            | none => if i.entity.isTypeLike then .typed before.length i.lifetimes else .deferred

/-- What a path stands for where it appears: a type, a trait, a value (with the word errors use
for it), the path of a struct literal or pattern, of a tuple struct pattern, or of a unit
pattern. -/
inductive Source where
  | type
  | trait
  | value (expected : String)
  | structLit
  | tupleStruct
  | unitPat

def Source.expected : Source → String
  | .type => "type"
  | .trait => "trait"
  | .value e => e
  | .structLit => "struct, variant or union type"
  | .tupleStruct => "tuple struct or tuple variant"
  | .unitPat => "unit struct, unit variant or constant"

def Source.isValue : Source → Bool
  | .value _ | .tupleStruct | .unitPat => true
  | _ => false

def Source.accepts : Source → Entity → Bool
  | .type, e => e.isTypeLike
  | .trait, e => e == .traitItem || e == .alias || e == .traitAlias
  | .structLit, e => e == .structTy || e == .variant || e == .alias || e == .union
  | _, _ => true

/-- What is in scope where a path, lifetime, label or local name is resolved. -/
structure Scope where
  items : Items
  outer : List String := []
  captured : List String := []
  inner : List String := []
  values : List (String × String) := []
  lifetimes : List String := []
  farLifetimes : List String := []
  elide : Bool := false
  labels : List String := []
  farLabels : List String := []
  object : List Span := []
  selfValue : Bool := false

def Scope.bind (s : Scope) (names : List String) : Scope := { s with inner := names ++ s.inner }

def Scope.enterConst (s : Scope) : Scope :=
  { s with outer := s.inner ++ s.captured ++ s.outer, inner := [], captured := [], elide := true,
           labels := [],
           farLabels := s.labels ++ s.farLabels }

def Scope.enterBody (s : Scope) : Scope :=
  { s with labels := [], farLabels := s.labels ++ s.farLabels }

def Scope.withBinder (s : Scope) (binder : List LifetimeParam) : Scope :=
  { s with lifetimes := binder.map (·.name.name) ++ s.lifetimes }

def Scope.elided (s : Scope) (span : Span) : List Finding :=
  if s.elide then [] else [.now "missing lifetime specifier" span]

def Scope.lifetime (s : Scope) (l : Ident) : List Finding :=
  if l.name == "static" then []
  else if l.name == "_" then s.elided l.span
  else if s.lifetimes.contains l.name then []
  else if s.farLifetimes.contains l.name then
    [.now "can't use generic parameters from outer item" l.span]
  else [.now ("use of undeclared lifetime name `" ++ l.lifetimeText ++ "`") l.span]

/-- The errors of declaring a binder's lifetimes, in order: a name already in scope, a name
declared twice in the binder, and the reserved names `'_` and `'static`. -/
def Scope.declarationErrors (s : Scope) (binder : List LifetimeParam) : List Finding :=
  let step := fun (acc : List String × List Finding) (p : LifetimeParam) =>
    let x := p.name
    let quoted := "`" ++ x.lifetimeText ++ "`"
    if s.lifetimes.contains x.name then
      (acc.1, acc.2 ++ [.now ("lifetime name " ++ quoted ++
        " shadows a lifetime name that is already in scope") x.span])
    else if acc.1.contains x.name then
      (acc.1, acc.2 ++ [.now ("the name " ++ quoted ++
        " is already used for a generic parameter in this item's generic parameters") x.span])
    else if x.name == "_" then (x.name :: acc.1, acc.2 ++ [.now "`'_` cannot be used here" x.span])
    else if x.name == "static" then
      (x.name :: acc.1, acc.2 ++ [.now "invalid lifetime parameter name: `'static`" x.span])
    else (x.name :: acc.1, acc.2)
  (binder.foldl step ([], [])).2

def Scope.binderBounds (s : Scope) (binder : List LifetimeParam) : List Finding :=
  let inside := s.withBinder binder
  s.declarationErrors binder ++ binder.flatMap fun p => p.bounds.flatMap inside.lifetime

def Scope.label (s : Scope) : Option Ident → List Finding
  | none => []
  | some l =>
    if s.labels.contains l.name then []
    else if s.farLabels.contains l.name then
      [.now ("use of unreachable label `" ++ l.lifetimeText ++ "`") l.span]
    else [.now ("use of undeclared label `" ++ l.lifetimeText ++ "`") l.span]

def Scope.withLabel (s : Scope) : Option Ident → Scope
  | none => s
  | some l => { s with labels := l.name :: s.labels }

def Scope.shadowing (s : Scope) : Option Ident → List Finding
  | some l =>
    if s.labels.contains l.name then
      [.warn ("label name `" ++ l.lifetimeText ++ "` shadows a label name that is already in scope")
        l.span]
    else []
  | none => []

def Scope.isLocal (s : Scope) (name : String) : Bool :=
  s.inner.contains name || s.outer.contains name || s.captured.contains name

def Scope.declaredValue (s : Scope) (name : String) : Option String :=
  (s.values.find? (·.1 == name)).map (·.2)

def Scope.value (s : Scope) (expected : String) (x : Ident) (span : Span) : List Finding :=
  if x.isKeyword "self" && !s.isLocal "self" then
    [.later ("expected " ++ expected ++ ", found module `self`") span]
  else if x.isKeyword "Self" then
    if s.selfValue then []
    else if s.items.selfScope == .seen then
      [.later ("expected " ++ expected ++ ", found self type `Self`") span]
    else [.later ("cannot find " ++ expected ++ " `Self` in this scope") x.span]
  else if x.isKeyword "super" then [.now "too many leading `super` keywords within `crate`" x.span]
  else if x.isKeyword "crate" then [.later ("expected " ++ expected ++ ", found crate `crate`") span]
  else if s.inner.contains x.name then []
  else if s.outer.contains x.name then
    [.now "attempt to use a non-constant value in a constant" x.span]
  else if s.captured.contains x.name then
    [.now "can't capture dynamic environment in a fn item" x.span]
  else if (s.declaredValue x.name).isSome then []
  else if preludeValues.contains x.name then []
  else match s.items.lexical x.name with
    | some i =>
      [.later ("expected " ++ expected ++ ", found " ++ i.entity.descr ++ " `" ++ x.printed ++ "`") span]
    | none => [.later ("cannot find " ++ expected ++ " `" ++ x.printed ++ "` in this scope") x.span]

def Scope.valueDescr (s : Scope) (x : Ident) : Option String :=
  if !x.raw && pathSegmentKeywords.contains x.name then none
  else if s.isLocal x.name then some "local variable"
  else if let some d := s.declaredValue x.name then some d
  else if preludeValues.contains x.name then some (preludeValueDescr x.name)
  else if knownMacros.contains x.name then some "macro"
  else none

def Segment.hasLifetimeArgs (seg : Segment) : Bool :=
  match seg.args with
  | some (.angle args _) => args.any fun
    | .arg (.lifetime _) _ => true
    | _ => false
  | _ => false

/-- The error of a type or trait path whose segment of index `index` names an item that takes
`lifetimes` lifetime parameters but gives none: where no lifetime may be left out, they are
missing, reported at the opening bracket of the segment's arguments or else at its name. Paths of
values and patterns leave them to inference. -/
def Scope.leftOut (s : Scope) (source : Source) (p : Path) (index lifetimes : Nat) :
    List Finding :=
  match source, p.segments[index]? with
  | .type, some seg | .trait, some seg =>
    if lifetimes = 0 || s.elide || seg.hasLifetimeArgs then []
    else
      let span := match seg.args with
        | some (.angle _ sp) | some (.paren _ _ sp) => sp
        | none => seg.ident.span
      [.now (if lifetimes = 1 then "missing lifetime specifier" else "missing lifetime specifiers")
        span]
  | _, _ => []

/-- The errors of resolving a path (not its generic arguments) as `source` says, and whether it
resolves to a trait. A one-segment name that is not found where a type belongs is looked up
among values and macros, to say what it is instead. An error for a struct, enum or union where a
trait belongs, in a trait object with several bounds, comes with a list of the object's other
bounds (those that do not start where the path does), which is printed after it: it points at
the first of them. -/
def Scope.resolvePath (s : Scope) (source : Source) (p : Path) : List Finding × Bool :=
  let segs := p.segments.map Segment.ident
  match segs, p.global, source.isValue with
  | [x], false, true => (s.value source.expected x p.span, false)
  | _, _, _ =>
    match s.items.walk p.global source.isValue source.expected p.span none none [] segs with
    | .failed f =>
      let other := match segs, p.global, f.timing with
        | [x], false, .held => s.valueDescr x
        | _, _, _ => none
      match other with
      | some d => ([.later ("expected " ++ source.expected ++ ", found " ++ d ++ " `" ++
          pathText false segs ++ "`") p.span], false)
      | none => ([f], false)
    | .deferred => ([], false)
    | .typed index lifetimes => (s.leftOut source p index lifetimes, false)
    | .found e lifetimes =>
      if source.accepts e then
        (s.leftOut source p (segs.length - 1) lifetimes,
          e == .traitItem || e == .alias || e == .traitAlias)
      else
        let others := s.object.filter (· != p.span)
        let span := match source, e, others with
          | .trait, .structTy, sp :: _ | .trait, .enumTy, sp :: _ | .trait, .union, sp :: _ => sp
          | _, _, _ => p.span
        ([.later ("expected " ++ source.expected ++ ", found " ++ e.descr ++ " `" ++
          pathText p.global segs ++ "`") span], false)

def Scope.resolveQualified (s : Scope) (position : Nat) (p : Path) : List Finding :=
  match position, p with
  | 0, _ => []
  | _, .mk global segs span =>
    let start := match segs with
      | seg :: _ => seg.ident.span
      | [] => span
    (s.resolvePath .trait (.mk global (segs.take position) start)).1

def calleeWord (p : Path) : String :=
  match p.segments.getLast? with
  | some seg => if startsUpper seg.ident.name then "function, tuple struct or tuple variant"
    else "function"
  | none => "function"

mutual

/-- The lifetimes a type names for elision, written out (by name) and left out (counted);
lifetimes inside function pointers and parenthesized arguments belong to those. -/
def Ty.elisionLifetimes : Nat → Ty → List String × Nat
  | 0, _ => ([], 0)
  | n + 1, t => match t with
    | .slice e | .ptr _ e | .paren e _ | .array e _ => Ty.elisionLifetimes n e
    | .ref lt _ e _ =>
      let (named, left) := Ty.elisionLifetimes n e
      match lt with
      | some l => if l.name == "_" then (named, left + 1) else (l.name :: named, left)
      | none => (named, left + 1)
    | .tuple es => es.foldr (fun e acc =>
        let (a, b) := Ty.elisionLifetimes n e
        (a ++ acc.1, b + acc.2)) ([], 0)
    | .path q p =>
      let (a, b) := match q with
        | some (.mk qt _) => Ty.elisionLifetimes n qt
        | none => ([], 0)
      let (c, d) := Path.elisionLifetimes n p
      (a ++ c, b + d)
    | .traitObject _ bs | .implTrait bs _ => bs.foldr (fun b acc =>
        let (x, y) := Bound.elisionLifetimes n b
        (x ++ acc.1, y + acc.2)) ([], 0)
    | _ => ([], 0)

def Path.elisionLifetimes : Nat → Path → List String × Nat
  | 0, _ => ([], 0)
  | n + 1, p => p.segments.foldr (fun seg acc => match seg.args with
      | some (.angle args _) =>
        let (x, y) := args.foldr (fun a acc' =>
          let (u, v) := AngleArg.elisionLifetimes n a
          (u ++ acc'.1, v + acc'.2)) ([], 0)
        (x ++ acc.1, y + acc.2)
      | _ => acc) ([], 0)

def AngleArg.elisionLifetimes : Nat → AngleArg → List String × Nat
  | 0, _ => ([], 0)
  | _ + 1, .arg (.lifetime l) _ => if l.name == "_" then ([], 1) else ([l.name], 0)
  | n + 1, .arg (.type t) _ => Ty.elisionLifetimes n t
  | _ + 1, .arg (.const ..) _ => ([], 0)
  | n + 1, .constraint _ _ (.eqType t) => Ty.elisionLifetimes n t
  | n + 1, .constraint _ _ (.bounds bs) => bs.foldr (fun b acc =>
      let (x, y) := Bound.elisionLifetimes n b
      (x ++ acc.1, y + acc.2)) ([], 0)
  | _ + 1, .constraint _ _ (.eqConst _) => ([], 0)

def Bound.elisionLifetimes : Nat → Bound → List String × Nat
  | 0, _ => ([], 0)
  | n + 1, .trait _ _ _ _ p _ _ => Path.elisionLifetimes n p
  | _ + 1, .outlives l _ => if l.name == "_" then ([], 1) else ([l.name], 0)

end

/-- Whether a lifetime left out of a function's output may be taken from its inputs: they name
exactly one lifetime. -/
def outputElides (fuel : Nat) (inputs : List Ty) : Bool :=
  let (named, left) := inputs.foldr (fun t acc =>
    let (a, b) := Ty.elisionLifetimes fuel t
    (a ++ acc.1, b + acc.2)) ([], 0)
  named.eraseDups.length + left == 1

mutual

def Pat.bindings : Nat → Pat → List String
  | 0, _ => []
  | n + 1, p => match p with
    | .ident _ _ x sub =>
      let own := if preludeValues.contains x.name then [] else [x.name]
      own ++ match sub with
        | some q => Pat.bindings n q
        | none => []
    | .structPat _ _ fields _ => fields.flatMap fun
      | .mk _ q _ => Pat.bindings n q
    | .tupleStruct _ _ es | .tuple es | .slice es => es.flatMap (Pat.bindings n)
    | .orPat es => match es with
      | e :: _ => Pat.bindings n e
      | [] => []
    | .boxPat i | .ref _ i _ | .paren i _ | .guard i _ => Pat.bindings n i
    | _ => []

end

def Expr.letNames : Nat → Expr → List String
  | 0, _ => []
  | n + 1, .mk _ k _ => match k with
    | .letExpr p _ _ => Pat.bindings n p
    | .binary .and _ l r => Expr.letNames n l ++ Expr.letNames n r
    | _ => []

def SelfScope.further : SelfScope → SelfScope
  | .seen | .outer => .outer
  | .unseen => .unseen

def Generics.params : Generics → List GenericParam
  | .mk ps _ _ => ps

def GenericParam.name : GenericParam → Ident
  | .lifetime _ x _ | .type _ x _ _ | .const _ x _ _ => x

def Generics.lifetimeNames (g : Generics) : List String :=
  g.params.filterMap fun
    | .lifetime _ x _ => some x.name
    | _ => none

def Generics.typeEntries (g : Generics) : List StdItem :=
  g.params.filterMap fun
    | .type _ x _ _ => some { name := x.name, entity := .typeParam }
    | _ => none

def Generics.constValues (g : Generics) : List (String × String) :=
  g.params.filterMap fun
    | .const _ x _ _ => some (x.name, "const parameter")
    | _ => none

def Variant.name : Variant → Ident
  | .mk _ _ x _ _ => x

def Item.typeEntry : Item → Option StdItem
  | .mk _ _ kind _ => match kind with
    | .struct x g _ =>
      some { name := x.name, entity := .structTy, lifetimes := g.lifetimeNames.length }
    | .enum x g vs =>
      some { name := x.name, entity := .enumTy, lifetimes := g.lifetimeNames.length,
             variants := vs.map (·.name.name) }
    | .union x g _ => some { name := x.name, entity := .union, lifetimes := g.lifetimeNames.length }
    | .trait _ _ x g _ _ =>
      some { name := x.name, entity := .traitItem, lifetimes := g.lifetimeNames.length }
    | .traitAlias x g _ =>
      some { name := x.name, entity := .traitAlias, lifetimes := g.lifetimeNames.length }
    | .tyAlias x g _ _ =>
      some { name := x.name, entity := .alias, lifetimes := g.lifetimeNames.length }
    | .mod x _ => some { name := x.name, entity := .module }
    | _ => none

def Item.valueEntry : Item → Option (String × String)
  | .mk _ _ kind _ => match kind with
    | .struct x _ .unit => some (x.name, "unit struct")
    | .struct x _ (.tuple _) => some (x.name, "tuple struct")
    | .fn _ x .. => some (x.name, "function")
    | .const x .. => some (x.name, "constant")
    | .static _ _ x .. => some (x.name, "static")
    | _ => none

def Stmt.item? : Stmt → Option Item
  | .item i => some i
  | _ => none

def Scope.declare (s : Scope) (items : List Item) : Scope :=
  { s with values := items.filterMap Item.valueEntry ++ s.values,
           items := { s.items with declared := items.filterMap Item.typeEntry ++ s.items.declared } }

/-- The scope inside an item, which sees the items around it but none of their local names,
lifetimes, labels or generic parameters: its own generic parameters are declared, `self` says
what `Self` names inside it, and `selfValue` whether `Self` is also a value. -/
def Scope.enterItem (s : Scope) (g : Generics) (self : SelfScope) (selfValue : Bool) : Scope :=
  let around := s.items.declared.map fun i =>
    if i.entity == .typeParam then { i with entity := .outerParam } else i
  { s with captured := s.inner ++ s.captured, inner := [],
           values := g.constValues ++ s.values.filter (·.2 != "const parameter"),
           lifetimes := g.lifetimeNames, farLifetimes := s.lifetimes ++ s.farLifetimes,
           labels := [], farLabels := s.labels ++ s.farLabels, object := [], selfValue,
           items := { s.items with declared := g.typeEntries ++ around, selfScope := self } }

def Scope.withGenerics (s : Scope) (g : Generics) : Scope :=
  { s with values := g.constValues ++ s.values, lifetimes := g.lifetimeNames ++ s.lifetimes,
           items := { s.items with declared := g.typeEntries ++ s.items.declared } }

def genericDeclarationErrors (g : Generics) : List Finding :=
  let step := fun (acc : List String × List Finding) (p : GenericParam) =>
    let x := p.name
    let (key, shown) := match p with
      | .lifetime .. => ("'" ++ x.name, x.lifetimeText)
      | _ => (x.name, x.printed)
    if acc.1.contains key then
      (acc.1, acc.2 ++ [.now ("the name `" ++ shown ++
        "` is already used for a generic parameter in this item's generic parameters") x.span])
    else match p with
      | .lifetime .. =>
        if x.name == "_" then (key :: acc.1, acc.2 ++ [.now "`'_` cannot be used here" x.span])
        else if x.name == "static" then
          (key :: acc.1, acc.2 ++ [.now "invalid lifetime parameter name: `'static`" x.span])
        else (key :: acc.1, acc.2)
      | _ => (key :: acc.1, acc.2)
  (g.params.foldl step ([], [])).2

mutual

def Scope.ty : Nat → Scope → Ty → List Finding
  | 0, _, _ => []
  | n + 1, s, t => match t with
    | .slice e | .ptr _ e | .paren e _ => Scope.ty n s e
    | .ref lt _ e sp =>
      (match lt with
        | some l => s.lifetime l
        | none => s.elided sp) ++ Scope.ty n s e
    | .array e len => Scope.ty n s e ++ Scope.expr n s.enterConst len
    | .fnPtr binder _ _ params output =>
      let inside := s.withBinder binder
      s.binderBounds binder ++ Scope.signature n inside (params.filterMap fun
        | .mk _ _ ty _ => ty
        | .selfParam .. => none) output
    | .tuple es => es.flatMap (Scope.ty n s)
    | .path none p =>
      let (found, isTrait) := s.resolvePath .type p
      found ++ Scope.pathArgs n s isTrait p
    | .path (some (.mk qt position)) p =>
      s.resolveQualified position p ++ Scope.ty n s qt ++ Scope.pathArgs n s false p
    | .traitObject _ bs =>
      let object := match bs with
        | _ :: _ :: _ => bs.map Bound.span
        | _ => []
      bs.flatMap (Scope.bound n { s with object := object })
    | .implTrait bs _ => bs.flatMap (Scope.bound n s)
    | .never | .infer | .cVarArgs | .macCall .. | .err => []

def Scope.signature : Nat → Scope → List Ty → Option Ty → List Finding
  | 0, _, _, _ => []
  | n + 1, s, inputs, output =>
    inputs.flatMap (Scope.ty n { s with elide := true }) ++ match output with
      | some o => Scope.ty n { s with elide := outputElides n inputs } o
      | none => []

def Scope.pathArgs : Nat → Scope → Bool → Path → List Finding
  | 0, _, _, _ => []
  | n + 1, s, sugar, p => p.segments.flatMap fun seg => match seg.args with
    | some (.angle args _) => args.flatMap (Scope.angleArg n s)
    | some (.paren inputs output _) =>
      if sugar then Scope.signature n s inputs output
      else inputs.flatMap (Scope.ty n s) ++ match output with
        | some o => Scope.ty n s o
        | none => []
    | none => []

def Scope.angleArg : Nat → Scope → AngleArg → List Finding
  | 0, _, _ => []
  | n + 1, s, a => match a with
    | .arg (.lifetime l) _ => s.lifetime l
    | .arg (.type t) _ => match t with
      | .path none (.mk false [.mk x none] span) =>
        let isType := x.isKeyword "Self" || (s.items.lexical x.name).isSome
        let isValue := s.isLocal x.name || (s.declaredValue x.name).isSome ||
          preludeValues.contains x.name
        if !isType && isValue then s.enterConst.value "value" x span
        else Scope.ty n s t
      | _ => Scope.ty n s t
    | .arg (.const e _) _ => Scope.expr n s.enterConst e
    | .constraint _ gargs kind =>
      (match gargs with
        | some (.angle args _) => args.flatMap (Scope.angleArg n s)
        | some (.paren inputs output _) => inputs.flatMap (Scope.ty n s) ++ match output with
          | some o => Scope.ty n s o
          | none => []
        | none => []) ++ match kind with
        | .eqType t => Scope.ty n s t
        | .eqConst e => Scope.expr n s.enterConst e
        | .bounds bs => bs.flatMap (Scope.bound n s)

def Scope.bound : Nat → Scope → Bound → List Finding
  | 0, _, _ => []
  | n + 1, s, .trait binder _ _ _ p _ _ =>
    let inside := s.withBinder binder
    s.binderBounds binder ++ (inside.resolvePath .trait p).1 ++ Scope.pathArgs n inside true p
  | _ + 1, s, .outlives l _ => s.lifetime l

def Scope.sourcePath : Nat → Scope → Source → Option QSelf → Path → List Finding
  | 0, _, _, _, _ => []
  | n + 1, s, source, q, p =>
    let qualified := match q with
      | some (.mk qt position) => s.resolveQualified position p ++ Scope.ty n s qt
      | none => []
    let own := match q with
      | some _ => []
      | none => (s.resolvePath source p).1
    own ++ qualified ++ Scope.pathArgs n s false p

def Scope.expr : Nat → Scope → Expr → List Finding
  | 0, _, _ => []
  | n + 1, s, .mk _ k _ => match k with
    | .array es | .tuple es => es.flatMap (Scope.expr n s)
    | .repeat e c => Scope.expr n s e ++ Scope.expr n s.enterConst c
    | .paren e | .unary _ e | .await e | .field e _ | .addrOf _ _ e | .boxExpr e | .tryOp e =>
      Scope.expr n s e
    | .call f args =>
      let callee := match f with
        | .mk _ (.path none p) _ => Scope.sourcePath n s (.value (calleeWord p)) none p
        | _ => Scope.expr n s f
      callee ++ args.flatMap (Scope.expr n s)
    | .methodCall r _ turbofish args =>
      Scope.expr n s r ++ args.flatMap (Scope.expr n s) ++ match turbofish with
        | some (.angle xs _) => xs.flatMap (Scope.angleArg n s)
        | _ => []
    | .binary .and _ l r => Scope.expr n s l ++ Scope.expr n (s.bind (Expr.letNames n l)) r
    | .binary _ _ l r | .assign l r | .assignOp _ l r | .index l r =>
      Scope.expr n s l ++ Scope.expr n s r
    | .cast e t => Scope.expr n s e ++ Scope.ty n s t
    | .letExpr p e _ => Scope.expr n s e ++ Scope.pat n s p
    | .ifExpr c b e =>
      Scope.expr n s c ++ Scope.block n (s.bind (Expr.letNames n c)) b ++ match e with
        | some x => Scope.expr n s x
        | none => []
    | .whileExpr c b label =>
      let inside := s.withLabel label
      s.shadowing label ++ Scope.expr n inside c ++
        Scope.block n (inside.bind (Expr.letNames n c)) b
    | .forLoop p i b label =>
      Scope.expr n s i ++ Scope.pat n s p ++ s.shadowing label ++
        Scope.block n ((s.bind (Pat.bindings n p)).withLabel label) b
    | .loopExpr b label | .block b label =>
      s.shadowing label ++ Scope.block n (s.withLabel label) b
    | .matchExpr scrutinee arms => Scope.expr n s scrutinee ++ arms.flatMap fun
      | .mk _ p guard body =>
        let inside := s.bind (Pat.bindings n p)
        Scope.pat n s p ++ (match guard with
          | some g => Scope.expr n inside g
          | none => []) ++ match body with
          | some b => Scope.expr n inside b
          | none => []
    | .closure binder _ _ _ _ params output body =>
      let inside := (match binder with
        | some b => s.withBinder b
        | none => s).enterBody
      let pats := params.filterMap fun
        | .mk _ p _ _ => p
        | .selfParam .. => none
      let names := pats.flatMap (Pat.bindings n)
      (match binder with
        | some b => s.binderBounds b
        | none => []) ++ pats.flatMap (Scope.pat n inside) ++
        (params.filterMap fun
          | .mk _ _ ty _ => ty
          | .selfParam .. => none).flatMap (Scope.ty n { inside with elide := true }) ++
        (match output with
          | some o => Scope.ty n { inside with elide := true } o
          | none => []) ++ Scope.expr n ({ inside with elide := true }.bind names) body
    | .asyncBlock _ b => Scope.block n s.enterBody b
    | .tryBlock b | .unsafeBlock b => Scope.block n s b
    | .constBlock b => Scope.block n s.enterConst b
    | .range a b _ => (match a with
        | some x => Scope.expr n s x
        | none => []) ++ match b with
        | some x => Scope.expr n s x
        | none => []
    | .path q p => Scope.sourcePath n s (.value "value") q p
    | .breakExpr label v => s.label label ++ match v with
      | some x => Scope.expr n s x
      | none => []
    | .continueExpr label => s.label label
    | .ret v | .yieldExpr v => match v with
      | some x => Scope.expr n s x
      | none => []
    | .structLit q p fields tail =>
      Scope.sourcePath n s .structLit q p ++ fields.flatMap (fun
        | .mk _ _ v _ => Scope.expr n s v) ++ match tail with
        | .base b => Scope.expr n s b
        | _ => []
    | .lit _ | .underscore | .macCall _ | .err => []

def Scope.pat : Nat → Scope → Pat → List Finding
  | 0, _, _ => []
  | n + 1, s, p => match p with
    | .ident _ _ _ sub => match sub with
      | some q => Scope.pat n s q
      | none => []
    | .structPat q pp fields _ =>
      Scope.sourcePath n s .structLit q pp ++ fields.flatMap fun
        | .mk _ x _ => Scope.pat n s x
    | .tupleStruct q pp es => Scope.sourcePath n s .tupleStruct q pp ++ es.flatMap (Scope.pat n s)
    | .path q pp => Scope.sourcePath n s .unitPat q pp
    | .orPat es | .tuple es | .slice es => es.flatMap (Scope.pat n s)
    | .boxPat i | .ref _ i _ | .paren i _ => Scope.pat n s i
    | .lit e => Scope.expr n s e
    | .range a b _ _ => (match a with
        | some x => Scope.expr n s x
        | none => []) ++ match b with
        | some x => Scope.expr n s x
        | none => []
    | .guard i c => Scope.pat n s i ++ Scope.expr n (s.bind (Pat.bindings n i)) c
    | .wild | .rest | .never | .macCall _ | .err => []

def Scope.block : Nat → Scope → Block → List Finding
  | 0, _, _ => []
  | n + 1, s, .mk stmts => Scope.stmts n (s.declare (stmts.filterMap Stmt.item?)) stmts

def Scope.stmts : Nat → Scope → List Stmt → List Finding
  | 0, _, _ => []
  | _ + 1, _, [] => []
  | n + 1, s, st :: tail => match st with
    | .letStmt _ p ty init els =>
      (match ty with
        | some t => Scope.ty n s t
        | none => []) ++ (match init with
        | some e => Scope.expr n s e
        | none => []) ++ (match els with
        | some b => Scope.block n s b
        | none => []) ++ Scope.pat n s p ++ Scope.stmts n (s.bind (Pat.bindings n p)) tail
    | .expr e | .semi e => Scope.expr n s e ++ Scope.stmts n s tail
    | .item i => Scope.item n s false i ++ Scope.stmts n s tail
    | .mac .. | .empty _ => Scope.stmts n s tail

def Scope.fnParams : Nat → Scope → List Param → List Finding
  | 0, _, _ => []
  | _ + 1, _, [] => []
  | n + 1, s, .mk _ (some p) ty _ :: tail =>
    let twice := match p with
      | .ident _ _ x _ =>
        if s.inner.contains x.name then
          [.now ("identifier `" ++ x.printed ++ "` is bound more than once in this parameter list")
            x.span]
        else []
      | _ => []
    let inside := s.bind (Pat.bindings n p)
    Scope.pat n s p ++ twice ++ (match ty with
      | some t => Scope.ty n inside t
      | none => []) ++ Scope.fnParams n inside tail
  | n + 1, s, .mk _ none ty _ :: tail => (match ty with
      | some t => Scope.ty n s t
      | none => []) ++ Scope.fnParams n s tail
  | n + 1, s, .selfParam _ kind _ :: tail =>
    let inside := s.bind ["self"]
    (match kind with
      | .explicit t _ => Scope.ty n inside t
      | _ => []) ++ Scope.fnParams n inside tail

def Scope.generics : Nat → Scope → Generics → List Finding
  | 0, _, _ => []
  | n + 1, s, .mk params _ preds =>
    let s := { s with elide := false }
    params.flatMap (fun
      | .lifetime _ _ bounds => bounds.flatMap s.lifetime
      | .type _ _ bounds default => bounds.flatMap (Scope.bound n s) ++ match default with
        | some t => Scope.ty n s t
        | none => []
      | .const _ _ t default => Scope.ty n s t ++ match default with
        | some e => Scope.expr n s.enterConst e
        | none => []) ++
    preds.flatMap fun
      | .bound binder t bounds =>
        let inside := s.withBinder binder
        s.binderBounds binder ++ Scope.ty n inside t ++ bounds.flatMap (Scope.bound n inside)
      | .region l bounds => s.lifetime l ++ bounds.flatMap s.lifetime
      | .eq l r _ => Scope.ty n s l ++ Scope.ty n s r

def Scope.itemFields : Nat → Scope → List ItemField → List Finding
  | 0, _, _ => []
  | n + 1, s, fields => fields.flatMap fun
    | .mk _ _ _ t default => Scope.ty n { s with elide := false } t ++ match default with
      | some e => Scope.expr n s.enterConst e
      | none => []

/-- The errors of resolving a function: its generic parameters, its parameters, its output, where
a lifetime may be left out when `&self` or the one lifetime the inputs name gives it, and its
body. -/
def Scope.fnItem : Nat → Scope → Generics → List Param → Option Ty → Option Block →
    List Finding
  | 0, _, _, _, _, _ => []
  | n + 1, s, g, params, output, body =>
    let names := params.flatMap fun
      | .mk _ (some p) _ _ => Pat.bindings n p
      | .mk _ none _ _ => []
      | .selfParam .. => ["self"]
    let inputs := params.filterMap fun
      | .mk _ _ ty _ => ty
      | .selfParam .. => none
    let bySelf := params.any fun
      | .selfParam _ (.region ..) _ => true
      | .selfParam _ (.explicit (.ref ..) _) _ => true
      | _ => false
    let inside := s.bind names
    Scope.generics n s g ++ Scope.fnParams n { s with elide := true } params ++
      (match output with
        | some o => Scope.ty n { inside with elide := bySelf || outputElides n inputs } o
        | none => []) ++ match body with
        | some b => Scope.block n { inside with elide := true } b
        | none => []

/-- The errors of resolving an item, in the order the compiler visits its parts. An item sees the
items and type parameters around it but no local name, lifetime or label from outside, and an
item of a trait or `impl` (`assoc`) also sees the generic parameters of its trait or `impl`. A
module sees only its own items. -/
def Scope.item : Nat → Scope → Bool → Item → List Finding
  | 0, _, _, _ => []
  | n + 1, s, assoc, .mk _ _ kind _ =>
    let enter := fun (g : Generics) (self : SelfScope) (selfValue : Bool) =>
      if assoc then s.withGenerics g else s.enterItem g self selfValue
    let further := s.items.selfScope.further
    match kind with
    | .struct _ g data =>
      let inside := enter g .seen false
      genericDeclarationErrors g ++ Scope.generics n inside g ++
        Scope.itemFields n inside data.fields
    | .union _ g fields =>
      let inside := enter g .seen false
      genericDeclarationErrors g ++ Scope.generics n inside g ++ Scope.itemFields n inside fields
    | .enum _ g variants =>
      let inside := enter g .seen false
      genericDeclarationErrors g ++ Scope.generics n inside g ++ variants.flatMap fun
        | .mk _ _ _ data disc => Scope.itemFields n inside data.fields ++ match disc with
          | some e => Scope.expr n inside.enterConst e
          | none => []
    | .trait _ _ _ g bounds items =>
      let inside := enter g .seen false
      genericDeclarationErrors g ++ Scope.generics n inside g ++
        bounds.flatMap (Scope.bound n { inside with elide := false }) ++
        Scope.itemList n inside true items
    | .traitAlias _ g bounds =>
      let inside := enter g .seen false
      genericDeclarationErrors g ++ Scope.generics n inside g ++
        bounds.flatMap (Scope.bound n { inside with elide := false })
    | .tyAlias _ g bounds ty =>
      let inside := { enter g further false with elide := false }
      genericDeclarationErrors g ++ Scope.generics n inside g ++
        bounds.flatMap (Scope.bound n inside) ++ match ty with
        | some t => Scope.ty n inside t
        | none => []
    | .fn _ _ g params output body =>
      genericDeclarationErrors g ++ Scope.fnItem n (enter g further false) g params output body
    | .const _ g ty value =>
      let inside := enter g further false
      genericDeclarationErrors g ++ Scope.generics n inside g ++
        Scope.ty n { inside with elide := true } ty ++ match value with
        | some e => Scope.expr n inside.enterConst e
        | none => []
    | .static _ _ _ ty value =>
      let inside := enter (.mk [] false []) further false
      Scope.ty n { inside with elide := true } ty ++ match value with
        | some e => Scope.expr n inside.enterConst e
        | none => []
    | .impl _ g _ traitRef selfTy _ items =>
      let inside := enter g .seen true
      let header := { inside with elide := true }
      genericDeclarationErrors g ++ (match traitRef with
        | some p => (header.resolvePath .trait p).1 ++ Scope.pathArgs n header true p
        | none => []) ++ Scope.ty n header selfTy ++ Scope.generics n inside g ++
        Scope.itemList n inside true items
    | .mod _ items => match items with
      | some is =>
        let inside : Scope :=
          { items := { s.items with declared := is.filterMap Item.typeEntry, rootSeen := false,
                                    selfScope := .unseen },
            values := is.filterMap Item.valueEntry, farLifetimes := s.lifetimes ++ s.farLifetimes }
        Scope.itemList n inside false is
      | none => []

def Scope.itemList : Nat → Scope → Bool → List Item → List Finding
  | 0, _, _, _ => []
  | n + 1, s, assoc, items => items.flatMap (Scope.item n s assoc)

end

def scopeFuel : Nat := 100000

def Scope.params (s : Scope) (ps : List Param) : List Finding := Scope.fnParams scopeFuel s ps

/-- The errors of resolving the generated code, in the order found: the types of each struct's
fields, then each constructor's parameters. -/
def Items.resolve (items : Items) (fields : List (List Ty)) (params : List (List Param)) :
    List Finding :=
  let inStruct : Scope := { items }
  let inFn : Scope := { items, elide := true, selfValue := true }
  fields.flatMap (fun tys => tys.flatMap (Scope.ty scopeFuel inStruct)) ++
    params.flatMap inFn.params

end LoxFront.Code
