import LoxFront.Schema.Token
/-!
Reading token trees. A `Stream` is the trees still to be read and the span that stands for
their end: the closing delimiter of the group they are in, or the call. Parsers take a stream and
give a value and the stream after it.

Errors point at the next token, or at the end's span with the message prefixed by "unexpected
end of input, ". One piece of state is shared by all streams: when a group is left with a token
unread, the first such token is remembered, and a read that otherwise succeeds fails on it with
"unexpected token".
-/
namespace LoxFront.Schema

structure SyntaxError where
  message : String
  span : Span

/-- Token trees still to be read, and the span of their end. -/
structure Stream where
  trees : List TokenTree
  scope : Span

/-- Parsers share the first token left unread in a finished group. -/
abbrev Parser := StateT (Option Span) (Except SyntaxError)

/-- An identifier as read: its name, whether it was raw, and its span. -/
structure Name where
  text : String
  raw : Bool
  span : Span

def Name.printed (n : Name) : String := printIdent n.text n.raw

def Name.written (n : Name) : String := identText n.text n.raw

/-- Whether the trees start with the punctuation `p`, each character but the last joined to the
next. -/
def punctAt : List TokenTree → List Char → Bool
  | .punct c _ _ :: _, [d] => c == d
  | .punct c joint _ :: rest, d :: more => c == d && joint && punctAt rest more
  | _, _ => false

def keywordAt (trees : List TokenTree) (kw : String) : Bool :=
  match trees with
  | .ident name raw _ :: _ => !raw && name == kw
  | _ => false

def identAt (trees : List TokenTree) : Bool :=
  match trees with
  | .ident name raw _ :: _ => isPlainIdent name raw
  | _ => false

def anyIdentAt (trees : List TokenTree) : Bool :=
  match trees with
  | .ident .. :: _ => true
  | _ => false

def lifetimeAt (trees : List TokenTree) : Bool :=
  match trees with
  | .punct '\'' true _ :: .ident .. :: _ => true
  | _ => false

def groupAt (trees : List TokenTree) (d : Delimiter) : Bool :=
  match trees with
  | .group d' .. :: _ => d' == d
  | _ => false

def isNumberText (text : String) : Bool :=
  match text.toList with
  | c :: _ => c.isDigit
  | [] => false

def stringAt (trees : List TokenTree) : Bool :=
  match trees with
  | .literal text _ :: _ =>
    match text.toList with
    | '"' :: _ => true
    | 'r' :: c :: _ => c == '"' || c == '#'
    | _ => false
  | _ => false

/-- The trees after the first token tree, a lifetime counting as one. -/
def skipTree : List TokenTree → Option (List TokenTree)
  | [] => none
  | .punct '\'' true _ :: .ident .. :: rest => some rest
  | _ :: rest => some rest

def skipTrees : Nat → List TokenTree → Option (List TokenTree)
  | 0, trees => some trees
  | n + 1, trees => (skipTree trees).bind (skipTrees n)

def peekAfter (n : Nat) (test : List TokenTree → Bool) (trees : List TokenTree) : Bool :=
  ((skipTrees n trees).map test).getD false

namespace Stream

def isEmpty (s : Stream) : Bool := s.trees.isEmpty

def span (s : Stream) : Span :=
  match s.trees with
  | t :: _ => t.span
  | [] => s.scope

def advance (s : Stream) (n : Nat) : Stream := { s with trees := s.trees.drop n }

/-- An error at the next token; at the end, at the end's span and prefixed. -/
def fail {α : Type} (s : Stream) (msg : String) : Parser α :=
  match s.trees with
  | t :: _ => throw ⟨msg, t.span⟩
  | [] => throw ⟨"unexpected end of input, " ++ msg, s.scope⟩

def expected {α : Type} (s : Stream) (names : List String) : Parser α :=
  match names with
  | [] => match s.trees with
    | t :: _ => throw ⟨"unexpected token", t.span⟩
    | [] => throw ⟨"unexpected end of input", s.scope⟩
  | [a] => s.fail ("expected " ++ a)
  | [a, b] => s.fail ("expected " ++ a ++ " or " ++ b)
  | _ => s.fail ("expected one of: " ++ ", ".intercalate names)

end Stream

def Delimiter.expectedText : Delimiter → String
  | .paren => "expected parentheses"
  | .bracket => "expected square brackets"
  | .brace => "expected curly braces"

/-- Finishes reading a group's stream: its first unread token is remembered, unless one already
is. -/
def release (s : Stream) : Parser Unit := do
  match s.trees with
  | t :: _ => if (← get).isNone then set (some t.span)
  | [] => pure ()

namespace Stream

def ident (s : Stream) : Parser (Name × Stream) := do
  match s.trees with
  | .ident name raw sp :: rest =>
    if isPlainIdent name raw then pure (⟨name, raw, sp⟩, ⟨rest, s.scope⟩)
    else s.fail "expected identifier"
  | _ => s.fail "expected identifier"

def anyIdent (s : Stream) : Parser (Name × Stream) := do
  match s.trees with
  | .ident name raw sp :: rest => pure (⟨name, raw, sp⟩, ⟨rest, s.scope⟩)
  | _ => s.fail "expected ident"

def punct (s : Stream) (p : String) : Parser Stream := do
  if punctAt s.trees p.toList then pure (s.advance p.length)
  else throw ⟨"expected " ++ "`" ++ p ++ "`", s.span⟩

def keyword (s : Stream) (kw : String) : Parser Stream := do
  if keywordAt s.trees kw then pure (s.advance 1)
  else s.fail ("expected " ++ "`" ++ kw ++ "`")

def group (s : Stream) (d : Delimiter) : Parser (Stream × Stream) := do
  match s.trees with
  | .group d' trees _ close :: rest =>
    if d' == d then pure (⟨trees, close⟩, ⟨rest, s.scope⟩)
    else s.fail d.expectedText
  | _ => s.fail d.expectedText

def lifetime (s : Stream) : Parser (String × Stream) := do
  match s.trees with
  | .punct '\'' true _ :: .ident name raw _ :: rest =>
    pure ("'" ++ identText name raw, ⟨rest, s.scope⟩)
  | _ => s.fail "expected lifetime"

def literal (s : Stream) : Parser (List String × Stream) := do
  match s.trees with
  | .literal text _ :: rest => pure ([text], ⟨rest, s.scope⟩)
  | .ident name false _ :: rest =>
    if name == "true" || name == "false" then pure ([name], ⟨rest, s.scope⟩)
    else s.fail "expected literal"
  | .punct '-' _ _ :: .literal text _ :: rest =>
    if isNumberText text then pure (["-" ++ text], ⟨rest, s.scope⟩)
    else s.fail "expected literal"
  | _ => s.fail "expected literal"

def tree (s : Stream) : Parser (TokenTree × Stream) := do
  match s.trees with
  | t :: rest => pure (t, ⟨rest, s.scope⟩)
  | [] => s.fail "expected token tree"

end Stream

end LoxFront.Schema
