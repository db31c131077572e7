import LoxFront.Schema.Stream
/-!
What the reader of field types writes back, and the lookahead it decides by: the written forms
of types, paths, arguments and expressions, the regrouping of token trees, operator levels, and
tests for what may start a type, a path, a bound, an item or a literal.
-/
namespace LoxFront.Schema

abbrev Trees := List TokenTree

/-- A type as read: the trees written back; whether it may stand as the first bound of a
trait object when written in parentheses before `+`: a path without qualified self, or a trait
object without `dyn` of one bound and no trailing `+`; and whether it is a path of one segment
with angle-bracketed arguments and nothing before it, which may start an associated type
binding or constraint with generic arguments; and whether it is a plain path, without qualified
self, bounds or macro call, as the trait of an `impl` must be. -/
structure TypeOut where
  trees : Trees
  bound : Bool := false
  angleSegment : Bool := false
  path : Bool := false

/-- A path as read: its trees, whether its last segment or any segment has arguments, whether
it has a qualified self, and whether it is one segment with angle-bracketed arguments and no
leading `::`. -/
structure PathOut where
  trees : Trees
  lastArgs : Bool := false
  anyArgs : Bool := false
  qualified : Bool := false
  angleSegment : Bool := false

structure ArgOut where
  trees : Trees
  lifetime : Bool
  comma : Trees

/-- An expression as read: its trees, whether it is a range, and whether it ends in a block so
that no semicolon need follow it as a statement. -/
structure ExprOut where
  trees : Trees
  isRange : Bool := false
  blockLike : Bool := false

def madeComma : TokenTree := .punct ',' false .call

def groupEnds (trees : List TokenTree) : Delimiter × Span :=
  match trees with
  | .group d _ opening _ :: _ => (d, opening)
  | _ => (.paren, .call)

/-- A group written back around `inner`: the reader gives the group one span, that of the whole
group, which starts at its opening delimiter, so both delimiters stand there. -/
def regroup (opening : Delimiter × Span) (inner : Trees) : TokenTree :=
  .group opening.1 inner opening.2 opening.2

def resurround : TokenTree → TokenTree
  | .group d inner opening _ => .group d inner opening opening
  | t => t

/-- Punctuation characters written back: each joined to the next, the last standing alone. -/
def punctsOut : List TokenTree → Trees
  | [] => []
  | [.punct c _ sp] => [.punct c false sp]
  | .punct c _ sp :: rest => .punct c true sp :: punctsOut rest
  | t :: rest => t :: punctsOut rest

namespace Stream

def treesUntil (s t : Stream) : Trees := s.trees.take (s.trees.length - t.trees.length)

def punctOut (s : Stream) (p : String) : Parser (Trees × Stream) := do
  let s' ← s.punct p
  pure (punctsOut (s.trees.take p.length), s')

def keywordOut (s : Stream) (kw : String) : Parser (Trees × Stream) := do
  let s' ← s.keyword kw
  pure (s.trees.take 1, s')

def lifetimeOut (s : Stream) : Parser (Trees × Stream) := do
  let (_, s') ← s.lifetime
  pure (s.trees.take 2, s')

def rangeLimitsOut (s : Stream) : Parser (Trees × Stream) := do
  if punctAt s.trees ['.', '.', '='] then s.punctOut "..="
  else if punctAt s.trees ['.', '.', '.'] then
    let s' ← s.punct "..."
    let spans := (s.trees.take 3).map TokenTree.span
    match spans with
    | [a, b, c] => pure ([.punct '.' true a, .punct '.' true b, .punct '=' false c], s')
    | _ => s.punctOut "..."
  else if punctAt s.trees ['.', '.'] then s.punctOut ".."
  else s.expected ["`..=`", "`...`", "`..`"]

end Stream

/-- Angle-bracketed arguments as written back between `opening` and `closing`: the lifetimes
first, then the others, each with its own comma, and a comma added before an argument when none
ends what precedes it. -/
def angleOut (opening closing : Trees) (args : List ArgOut) : Trees :=
  let step (acc : Trees × Bool) (a : ArgOut) : Trees × Bool :=
    (acc.1 ++ (if acc.2 then [] else [madeComma]) ++ a.trees ++ a.comma, !a.comma.isEmpty)
  let lifetimes := (args.filter (·.lifetime)).foldl step (opening, true)
  ((args.filter (!·.lifetime)).foldl step lifetimes).1 ++ closing

def treeCount : List TokenTree → Nat
  | [] => 0
  | .group _ inner _ _ :: rest => 1 + treeCount inner + treeCount rest
  | _ :: rest => 1 + treeCount rest

def Stream.fuel (s : Stream) : Nat := 64 * (treeCount s.trees + 2)

def outOfFuel {α : Type} (s : Stream) : Parser α := s.fail "type nested too deeply"

def typeStarts : List String :=
  ["`for`", "parentheses", "`fn`", "`unsafe`", "`extern`", "identifier", "`::`", "`<`",
   "square brackets", "`*`", "`&`", "`!`", "`impl`", "`_`", "lifetime"]

def afterBinderTried (trees : List TokenTree) : List String :=
  let tests : List (String × Bool) :=
    [("identifier", identAt trees), ("`fn`", keywordAt trees "fn"),
     ("`unsafe`", keywordAt trees "unsafe"), ("`extern`", keywordAt trees "extern"),
     ("`super`", keywordAt trees "super"), ("`self`", keywordAt trees "self"),
     ("`Self`", keywordAt trees "Self"), ("`crate`", keywordAt trees "crate")]
  (tests.takeWhile fun t => !t.2).map (·.1)

def boundFollows (trees : List TokenTree) : Bool :=
  anyIdentAt trees || punctAt trees [':', ':'] || punctAt trees ['?'] || lifetimeAt trees ||
    groupAt trees .paren

def segmentKeywordAt (trees : List TokenTree) : Bool :=
  keywordAt trees "super" || keywordAt trees "self" || keywordAt trees "crate"

def pathStartAt (t : List TokenTree) : Bool :=
  identAt t || keywordAt t "super" || keywordAt t "self" || keywordAt t "Self" ||
    keywordAt t "crate" || punctAt t [':', ':'] || punctAt t ['<']

def binaryOperators : List (String × Nat) :=
  [("+=", 1), ("-=", 1), ("*=", 1), ("/=", 1), ("%=", 1), ("^=", 1), ("&=", 1), ("|=", 1),
   ("<<=", 1), (">>=", 1),
   ("&&", 4), ("||", 3), ("<<", 9), (">>", 9), ("==", 5), ("<=", 5), ("!=", 5), (">=", 5),
   ("+", 10), ("-", 10), ("*", 11), ("/", 11), ("%", 11), ("^", 7), ("&", 8), ("|", 6),
   ("<", 5), (">", 5)]

def assignLevel : Nat := 1

def compareLevel : Nat := 5

def rangeLevel : Nat := 2

def castLevel : Nat := 12

def binaryAt (trees : List TokenTree) : Option (String × Nat) :=
  binaryOperators.find? fun (op, _) => punctAt trees op.toList

def nextLevel (t : List TokenTree) : Nat :=
  match binaryAt t with
  | some (_, p) => p
  | none =>
    if punctAt t ['='] && !punctAt t ['=', '>'] then assignLevel
    else if punctAt t ['.', '.'] then rangeLevel
    else if keywordAt t "as" || punctAt t [':'] && !punctAt t [':', ':'] then castLevel
    else 0

/-- Reads a literal as the reader takes one where a literal is expected: a literal token,
`true` or `false`, or a minus sign and a number, which the reader holds as one negative literal
and writes back as the sign and the number, both at the sign's span. -/
def Stream.literalOut (s : Stream) : Parser (Trees × Stream) := do
  match s.trees with
  | .literal text sp :: rest => pure ([.literal text sp], ⟨rest, s.scope⟩)
  | .ident name false sp :: rest =>
    if name == "true" || name == "false" then pure ([.ident name false sp], ⟨rest, s.scope⟩)
    else s.fail "expected literal"
  | .punct '-' _ sp :: .literal text _ :: rest =>
    if isNumberText text then pure ([.punct '-' false sp, .literal text sp], ⟨rest, s.scope⟩)
    else s.fail "expected literal"
  | _ => s.fail "expected literal"

def literalOutAt (trees : List TokenTree) : Bool :=
  match trees with
  | .literal .. :: _ => true
  | .ident name false _ :: _ => name == "true" || name == "false"
  | .punct '-' _ _ :: .literal text _ :: _ => isNumberText text
  | _ => false

def plainIntAt (trees : List TokenTree) : Bool :=
  match trees with
  | .literal text _ :: _ =>
    match text.toList with
    | c :: rest => c.isDigit && rest.all fun d => d.isDigit || d == '_'
    | [] => false
  | _ => false

def earlyKeywordAt (t : List TokenTree) : Bool :=
  keywordAt t "if" || keywordAt t "while" || keywordAt t "loop" || keywordAt t "match" ||
    keywordAt t "unsafe" || groupAt t .brace ||
    keywordAt t "for" && !(peekAfter 1 (punctAt · ['<']) t &&
      (peekAfter 2 lifetimeAt t || peekAfter 2 (punctAt · ['>']) t)) ||
    keywordAt t "try" && peekAfter 1 (groupAt · .brace) t ||
    keywordAt t "const"

def itemStartAt (t : List TokenTree) : Bool :=
  keywordAt t "pub" || keywordAt t "crate" && !peekAfter 1 (punctAt · [':', ':']) t ||
    keywordAt t "extern" || keywordAt t "use" ||
    keywordAt t "static" && (peekAfter 1 (keywordAt · "mut") t || peekAfter 1 identAt t) ||
    keywordAt t "const" && !peekAfter 1 (groupAt · .brace) t ||
    keywordAt t "unsafe" && !peekAfter 1 (groupAt · .brace) t ||
    keywordAt t "async" && (peekAfter 1 (keywordAt · "unsafe") t ||
      peekAfter 1 (keywordAt · "extern") t || peekAfter 1 (keywordAt · "fn") t) ||
    keywordAt t "fn" || keywordAt t "mod" || keywordAt t "type" || keywordAt t "struct" ||
    keywordAt t "enum" || keywordAt t "union" && peekAfter 1 identAt t ||
    keywordAt t "auto" && peekAfter 1 (keywordAt · "trait") t || keywordAt t "trait" ||
    keywordAt t "default" && (peekAfter 1 (keywordAt · "unsafe") t ||
      peekAfter 1 (keywordAt · "impl") t) ||
    keywordAt t "impl" || keywordAt t "macro"

def signatureAt (t : List TokenTree) : Bool :=
  let t := if keywordAt t "const" then t.drop 1 else t
  let t := if keywordAt t "async" then t.drop 1 else t
  let t := if keywordAt t "unsafe" then t.drop 1 else t
  let t := if keywordAt t "extern" then (if stringAt (t.drop 1) then t.drop 2 else t.drop 1) else t
  keywordAt t "fn"

/-- Whether an item of a block is one the reader takes but this library does not model: an
`extern` block or crate, a `use`, a `macro`, or a macro call. -/
def unmodelledItemAt (t : List TokenTree) : Bool :=
  keywordAt t "use" || keywordAt t "macro" || keywordAt t "extern" && !signatureAt t ||
    keywordAt t "unsafe" && peekAfter 1 (keywordAt · "extern") t && !signatureAt t

/-- The words an item may start with after its visibility, in the order the reader tries them,
leaving out the word the next tree is (which the reader took up and turned down); then, without
a visibility, what starts the path of a macro call. -/
def itemStarts (t : List TokenTree) (inherited : Bool) : List String :=
  let words := ["fn", "extern", "use", "static", "const", "unsafe", "mod", "type", "struct",
    "enum", "union", "trait", "auto", "impl", "default", "macro"]
  (words.filter (fun w => !keywordAt t w)).map (fun w => "`" ++ w ++ "`") ++
    if inherited then ["identifier", "`self`", "`super`", "`crate`", "`::`"] else []

def genericsFirstAt (t : List TokenTree) : Bool :=
  punctAt t ['<'] && (peekAfter 1 (punctAt · ['>']) t || peekAfter 1 (punctAt · ['#']) t ||
    (peekAfter 1 identAt t || peekAfter 1 lifetimeAt t) &&
      (peekAfter 2 (punctAt · [':']) t || peekAfter 2 (punctAt · [',']) t ||
        peekAfter 2 (punctAt · ['>']) t || peekAfter 2 (punctAt · ['=']) t) ||
    peekAfter 1 (keywordAt · "const") t)

def receiverRest (t : List TokenTree) : Option (List TokenTree × Span) :=
  let bySelf : List TokenTree → Option (List TokenTree × Span) := fun
    | .ident "self" false sp :: rest => some (rest, sp)
    | .ident "mut" false _ :: .ident "self" false sp :: rest => some (rest, sp)
    | _ => none
  match t with
  | .punct '&' _ _ :: .punct '\'' true _ :: .ident .. :: rest => bySelf rest
  | .punct '&' _ _ :: rest => bySelf rest
  | _ => bySelf t

def receiverOut : Trees → Trees
  | .punct '&' _ sp :: rest => .punct '&' false sp :: rest
  | t => t

/-- The pieces of a type alias as read: `type`, its name and generics; the `:` when one was
read, and the bounds after it; its `where` clause; its definition, `=` and a type, if any; and
the `;`. -/
structure AliasOut where
  head : Trees
  colon : Option Trees
  bounds : Trees
  whereClause : Trees
  definition : Option Trees
  semi : Trees

def traitItemStarts (t : List TokenTree) (plain : Bool) : List String :=
  (["fn", "const", "type"].filter (fun w => !keywordAt t w)).map (fun w => "`" ++ w ++ "`") ++
    if plain then ["identifier", "`self`", "`super`", "`crate`", "`::`"] else []

def rangeEndsAt (allowStruct : Bool) (s : Stream) : Bool :=
  let u := s.trees
  s.isEmpty || punctAt u [','] || punctAt u [';'] || punctAt u ['.'] && !punctAt u ['.', '.'] ||
    !allowStruct && groupAt u .brace

def checkCast (s : Stream) : Parser Unit := do
  let t := s.trees
  if punctAt t ['.'] && !punctAt t ['.', '.'] then
    let kind := if peekAfter 1 (keywordAt · "await") t then "`.await`"
      else if peekAfter 1 identAt t &&
          (peekAfter 2 (groupAt · .paren) t || peekAfter 2 (punctAt · [':', ':']) t) then
        "a method call"
      else "a field access"
    s.fail ("casts cannot be followed by " ++ kind)
  else if punctAt t ['?'] then s.fail "casts cannot be followed by `?`"
  else pure ()

/-- The member after a dot as the reader writes it back: an unsuffixed decimal integer, or the
two members of a number with a fraction, `0.1`. -/
def memberTrees (text : String) (sp : Span) : Option Trees :=
  let cs := text.toList
  let digits (ds : List Char) := !ds.isEmpty && ds.all fun c => c.isDigit || c == '_'
  let value (ds : List Char) : String :=
    toString ((ds.filter Char.isDigit).foldl (fun v c => v * 10 + (c.toNat - '0'.toNat)) 0)
  match cs.span (· != '.') with
  | (whole, []) => if digits whole then some [.literal (value whole) sp] else none
  | (whole, _ :: frac) =>
    if digits whole && digits frac then
      some [.literal (value whole) sp, .punct '.' false sp, .literal (value frac) sp]
    else none

end LoxFront.Schema
