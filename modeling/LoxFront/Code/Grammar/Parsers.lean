import LoxFront.Code.Grammar.Support
/-!
The parsers of the grammar as a record, one structure for each part of the language. A parser
reads what it contains through the record one level of nesting down, so no parser calls
itself: the levels are stacked by `Grammar.at`. The defaults are the bottom level, where a
parser reports that nesting is too deep or closes what it has read so far.
-/
namespace LoxFront.Code

open LoxFront.Schema (Span Delimiter)
open Parse

/-- Attributes, types, and the parameters and return types of functions. -/
structure TyParsers where
  parseOuterAttributes : Parse (List (List Token)) := return []
  parseInnerAttributes : Parse (List (List Token)) := return []
  parseInnerAttribute : Parse Unit := outOfFuel
  parseAttribute : Parse Bool := outOfFuel
  parseAttrItem : Parse Unit := outOfFuel
  parseTy : Parse Ty := outOfFuel
  parseTyNoPlus : Parse Ty := outOfFuel
  /-- Reads a type in the given mode, then recovers from a misplaced `+`, a trailing `?`, and
  `Type::Item` without angle brackets. -/
  parseTyMode : TyMode → Parse Ty := fun _ => outOfFuel
  parseTyKind : TyMode → Span → Parse (Ty × Bool) := fun _ _ => outOfFuel
  parseTyTupleOrParens : Span → Bool → Parse Ty := fun _ _ => outOfFuel
  parseTyPtr : Parse Ty := outOfFuel
  /-- Reads a slice or array type after `[`. An element that fails before `]` or `;` is reported
  and stands as an error; a missing `;` before the length is recovered from. -/
  parseArrayOrSliceTy : Parse Ty := outOfFuel
  /-- Recovers an array length `a < b, c > d` meant as generic arguments: when the rest reads as
  arguments, `>` and an expression, the error is reported and the length stands as an error;
  otherwise the error stands. -/
  recoverTurbofishInLength : Diag → Expr → Parse Expr := fun e _ => throw e
  parseBorrowedPointee : Parse Ty := outOfFuel
  parseTyBareFn : List LifetimeParam → Nat → Parse Ty := fun _ _ => outOfFuel
  /-- Reads the parameter list of a function. A parameter that fails is reported and stands as
  `dummy` of an error type; a second such `dummy` becomes `_`. -/
  parseFnParams : Bool → Parse (List Param) := fun _ => outOfFuel
  parseFnParamRecovering : Bool → Parse Param := fun _ => outOfFuel
  parseParamGeneral : Bool → Bool → Bool → Parse (Param × Span) := fun _ _ _ => outOfFuel
  parseFnParamPatColon : Parse (Pat × Bool) := outOfFuel
  parseSelfParam : Parse (Option Param) := outOfFuel
  parseRetTy : TyMode → Parse (Option Ty) := fun _ => outOfFuel

/-- Trait objects and bounds, generic parameters, paths and the generic arguments of their segments.
-/
structure PathParsers where
  parseImplTy : Span → Parse (Ty × Bool) := fun _ => outOfFuel
  parseDynTy : Parse (Ty × Bool) := outOfFuel
  parsePathStartTy : Span → Bool → Parse Ty := fun _ _ => outOfFuel
  parseRemainingBoundsPath : List LifetimeParam → Path → Span → Bool → Bool → Parse Ty :=
    fun _ _ _ _ _ => outOfFuel
  parseRemainingBounds : List Bound → Bool → Parse Ty := fun _ _ => outOfFuel
  parseBareTraitObject : Span → Bool → Parse Ty := fun _ _ => outOfFuel
  parseGenericBounds : Parse (List Bound) := outOfFuel
  /-- Reads bounds; a stray `dyn` is reported, and a type or keyword where a bound belongs is read
  as one, for recovery. -/
  parseGenericBoundsCommon : Bool → List Bound → Parse (List Bound) :=
    fun _ acc => return acc.reverse
  parseGenericBound : Parse Bound := outOfFuel
  /-- Reads a trait bound: binder, modifiers and path. A type where a trait belongs is reported
  and, when it is a path under references, read as that path. -/
  parseTraitBound : Span → Bool → Token → Parse Bound := fun _ _ _ => outOfFuel
  parseLateBoundLifetimes : Parse (List LifetimeParam) := outOfFuel
  parseGenericParams : List LifetimeParam → Parse (List LifetimeParam) :=
    fun acc => return acc.reverse
  parseQPath : PathStyle → Span → Parse (QSelf × Path) := fun _ _ => outOfFuel
  parsePath : PathStyle → Parse Path := fun _ => outOfFuel
  parsePathSegments : PathStyle → List Segment → Parse (List Segment) :=
    fun _ acc => return acc.reverse
  parsePathSegment : PathStyle → Parse Segment := fun _ => outOfFuel
  parseAngleArgsRecovering : PathStyle → Span → Parse (List AngleArg) := fun _ _ => outOfFuel
  parseParenArgParam : Parse Ty := outOfFuel
  /-- Reads the arguments between `<` and `>`, separated by commas. A `;` before another argument
  is reported and read as a comma; an argument followed by neither `,` nor `>` may be an
  expression without braces, which is recovered from. -/
  parseAngleArgs : List AngleArg → Span → Parse (List AngleArg) := fun acc _ => return acc.reverse
  parseAngleArg : Parse (Option AngleArg) := outOfFuel
  parseAssocEqualityTerm : Span → Parse Constraint := fun _ => outOfFuel
  /-- Reads a generic argument: a lifetime, a constant, or a type; a type that fails may be a
  constant expression without braces, which is recovered from. -/
  parseGenericArg : Parse (Option GenericArg) := outOfFuel
  recoverConstParamDeclaration : Parse GenericArg := outOfFuel
  /-- Reads again, from an earlier state, as a constant expression; it is kept when `,` or `>`
  follows it, and otherwise the parse goes back to where it was. -/
  recoverUnbracedConstArg : Cursor → Parse (Option Expr) := fun _ => return none
  parseConstArg : Parse Expr := outOfFuel
  recoverConstArg : Span → Diag → Parse GenericArg := fun _ err => throw err

/-- Expressions by precedence: binary operators, casts, ranges, and prefix operators. -/
structure OperatorParsers where
  parseExpr : Parse Expr := outOfFuel
  parseExprRes : Restrictions → List (List Token) → Parse Expr := fun _ _ => outOfFuel
  parseExprAssocWith : Nat → List (List Token) → Parse Expr := fun _ _ => outOfFuel
  parseExprAssocRest : Nat → Expr → Parse Expr := fun _ lhs => return lhs
  /-- The loop of binary operators: each operator that binds at least `minPrec` takes the
  expression so far as its left side. Comparisons may not chain; `===`, `<>` and `<=>` are
  reported and read as one operator; `x++` fails. -/
  parseAssocLoop : Nat → Expr → Parse Expr := fun _ lhs => return lhs
  /-- Checks that a comparison does not follow another: `a < b < c` is reported, and what looks
  like generic arguments or a function call written without `::` is recovered from. Gives the
  expression to stand for the whole when the error was recovered from. -/
  checkNoChainedComparison : Expr → BinOp → Parse (Option Expr) := fun _ _ => return none
  attemptChainedComparisonSuggestion : BinOp → Expr → Expr → BinOp → Parse Bool :=
    fun _ _ _ _ => return false
  /-- Reads the type after `as`. A path followed by `<` or `<<` is reported as generic arguments
  taken for a comparison; a cast followed by a field, method call, index or `?` is reported. -/
  parseAssocOpCast : Expr → Parse Expr := fun _ => outOfFuel
  parseExprRange : Nat → Expr → RangeLimits → Parse Expr := fun _ _ _ => outOfFuel
  parseExprPrefixRange : List (List Token) → Parse Expr := fun _ => outOfFuel
  parseExprPrefix : List (List Token) → Parse Expr := fun _ => outOfFuel
  parseExprPrefixCommon : Parse Expr := outOfFuel
  parseExprBorrow : Span → List (List Token) → Parse Expr := fun _ _ => outOfFuel

/-- Method calls, fields, indexing and calls after an expression, and the expressions they start
from: literals, paths, parentheses, arrays and struct literals. -/
structure PrimaryParsers where
  parseExprDotOrCall : List (List Token) → Parse Expr := fun _ => outOfFuel
  parseExprDotOrCallWith : List (List Token) → Expr → Parse Expr := fun _ _ => outOfFuel
  /-- The loop of postfix operations: `?`, `.` and a field, method or `await`, calls and
  indexing; `->` for `.` is reported. A block-like expression that ends a statement takes no
  call or index. -/
  parseDotOrCallLoop : Span → Expr → Parse Expr := fun _ e => return e
  parseDotSuffixExpr : Span → Expr → Parse Expr := fun _ _ => outOfFuel
  parseDotSuffix : Span → Expr → Parse Expr := fun _ _ => outOfFuel
  parseExprParenSeq : Parse (List Expr) := outOfFuel
  parseExprCatchUnderscore : Restrictions → Parse Expr := fun _ => outOfFuel
  /-- Reads a call's arguments. When they fail, `Path(a: 1)` is recovered as struct fields in the
  wrong brackets, and otherwise the error is reported and the arguments skipped. -/
  parseExprFnCall : Span → Expr → Parse Expr := fun _ _ => outOfFuel
  parseExprIndex : Span → Expr → Parse Expr := fun _ _ => outOfFuel
  parseExprBottom : Parse Expr := outOfFuel
  parseExprBottomWith : Restrictions → Parse Expr := fun _ => outOfFuel
  parseExprOpt : Parse (Option Expr) := outOfFuel
  parseExprBreak : Span → Parse Expr := fun _ => outOfFuel
  parseExprLit : Parse Expr := outOfFuel
  maybeRecoverBadQPathExpr : Expr → Parse Expr := fun e => return e
  parseExprTupleParens : Restrictions → Parse Expr := fun _ => outOfFuel
  parseExprArrayOrRepeat : Kind → Parse Expr := fun _ => outOfFuel
  parseExprPathStart : Parse Expr := outOfFuel
  /-- Reads a struct literal after a path where one is allowed, or where `{ name,` or `{ name:`
  shows it can be nothing else, which is then reported. -/
  maybeParseStructExpr : Option QSelf → Path → Parse (Option Expr) := fun _ _ => outOfFuel
  parseExprStruct : Option QSelf → Path → Bool → Parse Expr := fun _ _ _ => outOfFuel
  parseStructFieldsLoop : Kind → Bool → List FieldValue → Parse (List FieldValue × StructRest) :=
    fun _ _ acc => return (acc.reverse, .none)
  parseExprField : Parse FieldValue := outOfFuel

/-- Closures, conditionals, loops, `match` and `let` expressions. -/
structure ControlParsers where
  parseExprClosure : Parse Expr := outOfFuel
  parseFnBlockParam : Parse Param := outOfFuel
  parseClosureBlockBody : Parse Expr := outOfFuel
  parseExprIf : Span → Parse Expr := fun _ => outOfFuel
  parseExprCond : Parse Expr := outOfFuel
  /-- Reads the block of an `if` after its condition, and the `else` branch. A missing block is
  reported; a condition that swallowed it gives it back. -/
  parseIfAfterCond : Span → Expr → Parse Expr := fun _ _ => outOfFuel
  parseExprElse : Parse Expr := outOfFuel
  parseSimpleBlock : Parse Expr := outOfFuel
  parseExprFor : Option Ident → Span → Parse Expr := fun _ _ => outOfFuel
  parseForBody : Option Ident → Span → Pat → Expr → Parse Expr := fun _ _ _ _ => outOfFuel
  parseExprWhile : Option Ident → Span → Parse Expr := fun _ _ => outOfFuel
  parseExprLoop : Option Ident → Span → Parse Expr := fun _ _ => outOfFuel
  recoverLoopElse : String → Parse Unit := fun _ => pure ()
  parseExprLabeled : Ident → Bool → Parse Expr := fun _ _ => outOfFuel
  parseExprMatch : Span → Parse Expr := fun _ => outOfFuel
  parseMatchBlock : Span → Expr → Parse Expr := fun _ _ => outOfFuel
  /-- Reads match arms up to `}`. An arm that fails is reported, the rest skipped, and an error arm
  stands for it. -/
  parseArms : Span → Expr → List Arm → Parse Expr :=
    fun lo scrut acc => return .mk [] (.matchExpr scrut acc.reverse) lo
  parseArm : Parse Arm := outOfFuel
  parseExprLet : Restrictions → Parse Expr := fun _ => outOfFuel

/-- Blocks and the statements in them. -/
structure BlockParsers where
  parseConstBlock : Span → Parse Expr := fun _ => outOfFuel
  parseExprBlock : Option Ident → Span → Bool → Parse Expr := fun _ _ _ => outOfFuel
  /-- Reads a block: `{`, inner attributes, statements and `}`. A label before it is reported;
  a missing `{` fails, after reading the statement that stands there. -/
  parseBlockCommon : Span → Bool → Parse (List (List Token) × Block) := fun _ _ => outOfFuel
  blockNoOpeningBrace : String → Parse Diag := fun msg => return ⟨msg, .call, false⟩
  /-- Reads a block that begins `name:`, which may be the body of a struct literal without its
  path: when that reads and the block does not, the literal is reported. -/
  parseBlockMaybeStructBody : Parse Block := outOfFuel
  parseBlock : Parse Block := outOfFuel
  parseBlockTail : Bool → List Stmt → Parse Block := fun _ acc => return .mk acc.reverse
  parseFullStmt : Bool → Parse (Option Stmt) := fun _ => outOfFuel
  /-- Reads a statement without the `;` after it: `let`, a statement that starts with a path, an
  item, a lone `;`, or an expression. `mut x`, `auto x` and `var x` are reported as a missing
  `let`. -/
  parseStmtWithoutRecovery : Parse (Option Stmt) := outOfFuel
  parseStmtPathStart : Span → List (List Token) → Parse Stmt := fun _ _ => outOfFuel
  /-- Reads a `let` statement after `let`: the pattern, an optional type, an optional initializer
  and an optional `else` block. A type that fails before something other than `=` is read again as
  the initializer, as a `:` typed for `=`. -/
  parseLocal : List (List Token) → Parse Stmt := fun _ => outOfFuel
  parseInitializer : Bool → Parse (Option Expr) := fun _ => outOfFuel

/-- Patterns: alternatives, ranges, bindings, references, tuples and structs. -/
structure PatternParsers where
  parsePatAllowTopGuard : PatExpected → Bool → Parse Pat := fun _ _ => outOfFuel
  parsePatNoTopGuard : PatExpected → Bool → Parse Pat := fun _ _ => outOfFuel
  /-- Reads alternatives separated by `|`, with a leading `|` allowed; gives the pattern and whether
  a trailing `|` was reported. A reserved word where a pattern fails is reported and read as `_`;
  a `,` after a pattern, when `recoverComma`, fails as a tuple without parentheses. -/
  parsePatNoTopGuardInner : PatExpected → Bool → Bool → Parse (Pat × Bool) := fun _ _ _ => outOfFuel
  parseOrPats : PatExpected → Bool → Bool → List Pat → Bool → Parse (List Pat × Bool) :=
    fun _ _ _ acc tv => return (acc.reverse, tv)
  maybeRecoverUnexpectedComma : Parse Unit := pure ()
  skipPatList : Parse Unit := pure ()
  parsePatBeforeTy : PatExpected → Bool → Bool → Parse (Pat × Bool) := fun _ _ _ => outOfFuel
  parsePatNoTopAlt : PatExpected → Parse Pat := fun _ => outOfFuel
  parsePatWithRangePat : Bool → PatExpected → Bool → Parse Pat := fun _ _ _ => outOfFuel
  parsePatKind : PatExpected → Bool → Span → Parse Pat := fun _ _ _ => outOfFuel
  parsePatDeref : PatExpected → Parse Pat := fun _ => outOfFuel
  parsePatTupleOrParens : Parse Pat := outOfFuel
  parsePatIdentMut : Parse Pat := outOfFuel
  parsePatIdent : Option Bool → Bool → Bool → Parse Pat := fun _ _ _ => outOfFuel
  parsePatBox : Parse Pat := outOfFuel
  parsePatStruct : Option QSelf → Path → Parse Pat := fun _ _ => outOfFuel
  parsePatFields : List FieldPat → Bool → Bool → Option Diag → Parse (List FieldPat × Bool) :=
    fun acc etc _ _ => return (acc.reverse, etc)
  parsePatField : List (List Token) → Parse FieldPat := fun _ => outOfFuel
  parsePatTupleStruct : Option QSelf → Path → Parse Pat := fun _ _ => outOfFuel
  parsePatRangeTo : PatRangeEnd → Span → Parse Pat := fun _ _ => outOfFuel
  parsePatRangeBeginWith : Expr → PatRangeEnd → Parse Pat := fun _ _ => outOfFuel
  parsePatRangeEnd : Parse Expr := outOfFuel

/-- Visibility, the generic parameters and `where` clause of an item, and the fields of structs. -/
structure GenericsParsers where
  /-- Reads a visibility: nothing, `pub`, or `pub` with a path in parentheses: `crate`, `self` or
  `super`, or `in` and a path. Where no type may follow, another path in parentheses is reported
  and skipped. -/
  parseVisibility : Bool → Parse Visibility := fun _ => outOfFuel
  parseGenerics : Parse (List GenericParam) := outOfFuel
  parseItemGenericParams : List GenericParam → Parse (List GenericParam) :=
    fun acc => return acc.reverse
  parseTyParam : List (List Token) → Parse GenericParam := fun _ => outOfFuel
  parseConstParam : List (List Token) → Parse GenericParam := fun _ => outOfFuel
  parseWhereClause : Parse (Bool × List WherePredicate) := outOfFuel
  parseWherePredicates : List WherePredicate → Parse (List WherePredicate) :=
    fun acc => return acc.reverse
  parseTyWherePredicate : Parse WherePredicate := outOfFuel
  /-- Reads the named fields of a struct, union or variant in braces. A field that fails ends
  them: its error is reported and the rest skipped. Without `{`, the error names what may stand
  there; `adt` says what the fields belong to. -/
  parseRecordBody : String → Bool → Parse (List ItemField) := fun _ _ => outOfFuel
  parseRecordFields : String → List ItemField → Parse (List ItemField) :=
    fun _ acc => return acc.reverse
  parseRecordField : String → Parse ItemField := fun _ => outOfFuel
  parseFieldIdent : String → Span → Parse Ident := fun _ _ => outOfFuel
  parseTupleBody : Parse (List ItemField) := outOfFuel
  parseTupleField : Parse ItemField := outOfFuel

/-- Items: structs, unions, enums, traits, implementations, functions, constants, statics, type
aliases and modules. -/
structure ItemParsers where
  parseItemStruct : Parse ItemKind := outOfFuel
  parseItemUnion : Parse ItemKind := outOfFuel
  parseItemEnum : Parse ItemKind := outOfFuel
  parseEnumVariant : Parse (Option Variant) := outOfFuel
  parseItemTrait : Span → Parse ItemKind := fun _ => outOfFuel
  parseItemImpl : Parse ItemKind := outOfFuel
  parseItemList : ItemPlace → Parse (List Item) := fun _ => outOfFuel
  parseItemListItems : ItemPlace → List Item → Parse (List Item) := fun _ acc => return acc.reverse
  /-- Reads an item of a trait or an `impl`: none when no item comes; a function, constant or type
  is kept, a static is reported and kept as a constant, and any other item is reported and
  dropped. -/
  parseAssocItem : ItemPlace → Parse (Option (Option Item)) := fun _ => outOfFuel
  parseItem : Parse (Option Item) := outOfFuel
  parseModItems : List Item → Parse (List Item) := fun acc => return acc.reverse
  parseItemCommon : List (List Token) → ItemPlace → Parse (Option Item) := fun _ _ => outOfFuel
  parseItemKind : ItemPlace → Span → Bool → Parse (Option ItemKind) := fun _ _ _ => outOfFuel
  /-- Reports a name that stands for an item without its keyword, right after `pub` or `const`:
  before braces, a struct or enum; before parentheses, a function (a method when it takes `self`)
  or a tuple struct; before generics alone, either. -/
  recoverMissingKeyword : Bool → Bool → Parse Unit := fun _ _ => pure ()
  parseFnItem : Bool → Parse ItemKind := fun _ => outOfFuel
  /-- Reads the body of a function: `;` for none (where no body is required), or a block.
  `= expression;` is reported and stands as an error block; anything else fails, except before the
  `}` that closes the list of items around, where the function is kept without a body. -/
  parseFnBody : Bool → Parse (Option Block) := fun _ => outOfFuel
  parseConstItem : Parse ItemKind := outOfFuel
  parseStaticItem : Bool → Bool → Parse ItemKind := fun _ _ => outOfFuel
  parseTypeAlias : Parse ItemKind := outOfFuel
  parseItemMod : Parse ItemKind := outOfFuel

/-- All the parsers of the grammar, and how deep the nesting below them may go. -/
structure Grammar extends TyParsers, PathParsers, OperatorParsers, PrimaryParsers, ControlParsers,
    BlockParsers, PatternParsers, GenericsParsers, ItemParsers where
  /-- How many levels of nesting are below. -/
  depth : Nat := 0

end LoxFront.Code
