import LoxFront.Schema.Syntax.Basic
/-!
The readers of the type grammar as a record, one structure for each part of the language. A
reader reads what it contains through the record one level of nesting down, so no reader calls
itself: the levels are stacked by `Readers.at`. The defaults are the bottom level, where every
reader reports that the type is nested too deeply.
-/
namespace LoxFront.Schema

/-- Types: paths and their arguments, bounds and trait objects, references, pointers, arrays, tuples
and function pointers. -/
structure TypeReaders where
  /-- A type; `plus` allows bounds joined by `+` at its top. -/
  parseType : Bool → Stream → Parser (TypeOut × Stream) := fun _ s => outOfFuel s
  parseTypeAfter : Bool → Stream → Option Trees → Stream → Parser (TypeOut × Stream) :=
    fun _ _ _ s => outOfFuel s
  parseParenType : Bool → Stream → Parser (TypeOut × Stream) := fun _ s => outOfFuel s
  parseTupleRest : Stream → Parser (Trees × Stream) := fun s => outOfFuel s
  parseMoreBounds : Stream → Parser (Trees × Stream) := fun s => outOfFuel s
  parsePathType : Bool → Option Trees → Stream → Parser (TypeOut × Stream) :=
    fun _ _ s => outOfFuel s
  /-- Bounds after a first path bound: while a `+` comes, it and the bound after it, stopping after
  a `+` that nothing bound-like follows. Tells whether no bound was added and no `+` left
  trailing. -/
  parsePlusBounds : Stream → Parser ((Trees × Bool) × Stream) := fun s => outOfFuel s
  /-- A list of bounds joined by `+`, as after `dyn` or starting with a lifetime; at least one must
  be a trait, else the error points at `start`. Gives the trees and whether the list is a single
  trait bound without a trailing `+`. -/
  parseBoundList : Bool → Span → Stream → Parser ((Trees × Bool) × Stream) :=
    fun _ _ s => outOfFuel s
  parseBoundListImpl : Bool → Span → Stream → Parser (Trees × Stream) := fun _ _ s => outOfFuel s
  parseBoundItems : Bool → Stream → Parser ((List (Trees × Bool) × Bool) × Stream) :=
    fun _ s => outOfFuel s
  parseBound : Stream → Parser ((Trees × Bool) × Stream) := fun s => outOfFuel s
  parseTraitBound : Stream → Parser (Trees × Stream) := fun s => outOfFuel s
  /-- Parenthesized arguments after a path whose last segment has no arguments yet, with an
  optional `::` before them that is not written back. -/
  parseParenArgsAfter : Bool → Stream → Parser (Trees × Stream) := fun _ s => outOfFuel s
  parseParenArgs : Stream → Parser (Trees × Stream) := fun s => outOfFuel s
  parseTypeTerminated : Stream → Parser (Trees × Stream) := fun s => outOfFuel s
  parseReturn : Stream → Parser (Trees × Stream) := fun s => outOfFuel s
  parseTypePath : Stream → Parser (PathOut × Stream) := fun s => outOfFuel s
  parseQualified : Bool → Stream → Parser (PathOut × Stream) := fun _ s => outOfFuel s
  parseSegments : Bool → Stream → Parser (PathOut × Stream) := fun _ s => outOfFuel s
  parsePath : Bool → Stream → Parser (PathOut × Stream) := fun _ s => outOfFuel s
  parsePathRest : Bool → Stream → Parser (PathOut × Stream) := fun _ s => outOfFuel s
  parseSegment : Bool → Stream → Parser (PathOut × Stream) := fun _ s => outOfFuel s
  /-- Angle-bracketed generic arguments, with an optional `::` before them, lifetimes written back
  first. -/
  parseAngleArgs : Stream → Parser (Trees × Stream) := fun s => outOfFuel s
  parseArgList : Stream → Parser (List ArgOut × Stream) := fun s => outOfFuel s
  /-- A generic argument: a lifetime, an associated type binding, a constraint, a constant, or a
  type, which may turn out to be a binding or constraint with generic arguments. -/
  parseGenericArg : Stream → Parser (ArgOut × Stream) := fun s => outOfFuel s
  parseConstraintBounds : Stream → Parser (Trees × Stream) := fun s => outOfFuel s
  parseBinder : Stream → Parser (Trees × Stream) := fun s => outOfFuel s
  parseLifetimeDefs : Stream → Parser (Trees × Stream) := fun s => outOfFuel s
  parseLifetimeBounds : Stream → Parser (Trees × Stream) := fun s => outOfFuel s
  parseAttributes : Stream → Parser (Trees × Stream) := fun s => outOfFuel s
  parseModPath : Stream → Parser (Unit × Stream) := fun s => outOfFuel s
  parseFnPointer : Stream → Parser (Trees × Stream) := fun s => outOfFuel s
  parseParams : Bool → Stream → Parser (Trees × Stream) := fun _ s => outOfFuel s

/-- Expressions: operators by precedence, unary operators, calls, fields and indexing, and what they
start from. -/
structure ExprReaders where
  parseExpr : Bool → Stream → Parser (ExprOut × Stream) := fun _ s => outOfFuel s
  parseBinary : Bool → Nat → ExprOut → Stream → Parser (ExprOut × Stream) :=
    fun _ _ _ s => outOfFuel s
  /-- The right operand of an operator of precedence `prec`, extended by the operators after it
  that bind tighter (or as tight, for assignments, which group to the right; `atLeast` asks for
  that). -/
  parseRight : Bool → Nat → Bool → ExprOut → Stream → Parser (ExprOut × Stream) :=
    fun _ _ _ _ s => outOfFuel s
  parseUnary : Bool → Stream → Parser (ExprOut × Stream) := fun _ s => outOfFuel s
  parseTrailers : ExprOut → Stream → Parser (ExprOut × Stream) := fun _ s => outOfFuel s
  parseExprList : Stream → Parser (Trees × Stream) := fun s => outOfFuel s
  parseAtom : Bool → Stream → Parser (ExprOut × Stream) := fun _ s => outOfFuel s
  parsePathExpr : Bool → Stream → Parser (ExprOut × Stream) := fun _ s => outOfFuel s
  parseFieldValues : Stream → Parser (Trees × Stream) := fun s => outOfFuel s
  parseClosure : Bool → Stream → Parser (ExprOut × Stream) := fun _ s => outOfFuel s
  parseClosureParams : Stream → Parser (Trees × Stream) := fun s => outOfFuel s
  parseBlockExpr : Stream → Parser (ExprOut × Stream) := fun s => outOfFuel s
  parseBlock : Bool → Stream → Parser (Trees × Stream) := fun _ s => outOfFuel s

/-- Blocks and statements, conditionals, loops, `match` and its arms, and patterns. -/
structure StmtReaders where
  parseInnerAttributes : Stream → Parser (Trees × Stream) := fun s => outOfFuel s
  parseStmts : Stream → Parser (Trees × Stream) := fun s => outOfFuel s
  /-- A statement: a `let`, or an expression with or without a semicolon. Tells whether it is an
  expression without semicolon that needs one before anything else. -/
  parseStmt : Stream → Parser ((Trees × Bool) × Stream) := fun s => outOfFuel s
  /-- An expression in statement or match arm position: a block-like expression stands alone
  unless a method call, field or `?` follows it. -/
  parseEarly : Stream → Parser (ExprOut × Stream) := fun s => outOfFuel s
  parseIf : Stream → Parser (ExprOut × Stream) := fun s => outOfFuel s
  parseLoop : Trees → Stream → Parser (ExprOut × Stream) := fun _ s => outOfFuel s
  parseMatch : Stream → Parser (ExprOut × Stream) := fun s => outOfFuel s
  parseArms : Stream → Parser (Trees × Stream) := fun s => outOfFuel s
  parseMultiPat : Stream → Parser (Trees × Stream) := fun s => outOfFuel s
  parseMorePats : Stream → Parser (Trees × Stream) := fun s => outOfFuel s
  parsePat : Stream → Parser (Trees × Stream) := fun s => outOfFuel s
  parseFieldPats : Stream → Parser (Trees × Stream) := fun s => outOfFuel s
  /-- The end of a range pattern, or its start: nothing before `|`, `=`, `:`, `,`, `;` or the
  end; else a literal, a path or a `const` block, possibly after a minus sign. -/
  parsePatRangeEnd : Stream → Parser (Trees × Stream) := fun s => outOfFuel s
  parsePatList : Stream → Parser (Trees × Stream) := fun s => outOfFuel s

/-- Visibility, generic parameters, `where` clauses, and the fields and variants of structs and
enums. -/
structure GenericsReaders where
  /-- A visibility: nothing, `crate` (unless a path follows), `pub`, or `pub` with a restriction in
  parentheses, `(crate)`, `(self)`, `(super)` or `(in path)`; parentheses that hold anything else
  are left to what follows. -/
  parseVisibility : Stream → Parser (Trees × Stream) := fun s => outOfFuel s
  parseGenerics : Stream → Parser (Trees × Stream) := fun s => outOfFuel s
  parseGenericParams : Stream → Parser (List ArgOut × Stream) := fun s => outOfFuel s
  /-- A type parameter from its name on: bounds after `:` up to `,`, `>` or `=`, and a default
  after `=`. A bound after `~const` makes the reader keep all that follows the colon as read. -/
  parseTypeParam : Stream → Parser (Trees × Stream) := fun s => outOfFuel s
  parseTypeDefault : Stream → Parser (Trees × Stream) := fun s => outOfFuel s
  parseParamBounds : Stream → Parser ((Trees × Bool) × Stream) := fun s => outOfFuel s
  parseConstParam : Stream → Parser (Trees × Stream) := fun s => outOfFuel s
  /-- A `where` clause, if one comes: predicates separated by commas, up to braces, `;`, `:` or
  `=`. It is written back only when it has predicates. -/
  parseWhere : Stream → Parser (Trees × Stream) := fun s => outOfFuel s
  parseWherePredicates : Stream → Parser (Trees × Stream) := fun s => outOfFuel s
  parseWherePredicate : Stream → Parser (Trees × Stream) := fun s => outOfFuel s
  parseWhereLifetimes : Stream → Parser (Trees × Stream) := fun s => outOfFuel s
  parseWhereBounds : Stream → Parser (Trees × Stream) := fun s => outOfFuel s
  parseBoundsUntil : (List TokenTree → Bool) → Stream → Parser (Trees × Stream) :=
    fun _ s => outOfFuel s
  parseFieldList : Bool → Stream → Parser (Trees × Stream) := fun _ s => outOfFuel s
  parseFields : Bool → Stream → Parser (Trees × Stream) := fun _ s => outOfFuel s
  parseStructBody : Stream → Parser (Trees × Stream) := fun s => outOfFuel s
  parseVariants : Stream → Parser (Trees × Stream) := fun s => outOfFuel s

/-- Items: functions, type aliases, traits and their items, implementations and their items, and
modules. -/
structure ItemReaders where
  parseSignature : Stream → Parser (Trees × Stream) := fun s => outOfFuel s
  parseFnArgs : Nat → Bool → Stream → Parser (Trees × Stream) := fun _ _ s => outOfFuel s
  parseTypedArg : Stream → Parser (Trees × Stream) := fun s => outOfFuel s
  parseTypedArgPattern : Stream → Parser (Trees × Stream) := fun s => outOfFuel s
  parseAlias : Bool → Stream → Parser (AliasOut × Stream) := fun _ s => outOfFuel s
  parseTraitRest : Stream → Parser (Trees × Stream) := fun s => outOfFuel s
  parseTrait : Stream → Parser (Trees × Stream) := fun s => outOfFuel s
  parseTraitItems : Stream → Parser (Trees × Stream) := fun s => outOfFuel s
  parseTraitItem : Stream → Parser (Trees × Stream) := fun s => outOfFuel s
  parseImplItems : Stream → Parser (Trees × Stream) := fun s => outOfFuel s
  /-- An item of an `impl`: a function with a body or `;`, a constant (kept as read without a
  value), or a type (kept as read with bounds or without a definition). -/
  parseImplItem : Stream → Parser (Trees × Stream) := fun s => outOfFuel s
  /-- An `impl` from its visibility on, written back, and whether the reader keeps it as read:
  with a visibility, as `const`, or without a trait path before `for`. -/
  parseImpl : Stream → Parser ((Trees × Bool) × Stream) := fun s => outOfFuel s
  parseModItems : Stream → Parser (Trees × Stream) := fun s => outOfFuel s
  parseMod : Stream → Parser (Trees × Stream) := fun s => outOfFuel s
  /-- An item with its outer attributes, written back, and whether the reader keeps it as read
  (attributes included): a function, a static or constant (kept as read without a value or type),
  a trait, an `impl`, a module, a type alias (kept as read with bounds or without a definition),
  a struct, an enum or a union. -/
  parseItem : Stream → Parser ((Trees × Bool) × Stream) := fun s => outOfFuel s

/-- All the readers of the type grammar. -/
structure Readers extends TypeReaders, ExprReaders, StmtReaders, GenericsReaders, ItemReaders

end LoxFront.Schema
