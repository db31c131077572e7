import LoxFront.Text.Case
/-!
Token trees of a tree schema, the text handed to the syntax-tree generator. A tree is an
identifier, raw or not; a punctuation character that knows whether the next character joins it
(`=>` is `=` joined to `>`); a literal; or a group in parentheses, brackets or braces. Every token
knows its span: a character of the schema text, or the macro call around it.

Texts of generated code are token texts joined with one rule: a space stands only between two
word characters.
-/
namespace LoxFront.Schema

/-- Where a token or an error stands: the macro call around the schema, or the character at an
offset of the text that follows the call's opening parenthesis. -/
inductive Span where
  | call
  | at (offset : Nat)
  deriving DecidableEq

def Span.order : Span → Nat
  | .call => 0
  | .at offset => offset + 1

def Span.min (a b : Span) : Span := if b.order < a.order then b else a

inductive Delimiter where
  | paren
  | bracket
  | brace
  deriving DecidableEq

def Delimiter.closing : Delimiter → Char
  | .paren => ')'
  | .bracket => ']'
  | .brace => '\x7d'

inductive TokenTree where
  | ident (name : String) (raw : Bool) (span : Span)
  | punct (c : Char) (joint : Bool) (span : Span)
  | literal (text : String) (span : Span)
  | group (delim : Delimiter) (trees : List TokenTree) (openSpan closeSpan : Span)

def TokenTree.span : TokenTree → Span
  | .ident _ _ s | .punct _ _ s | .literal _ s => s
  | .group _ _ s _ => s

def strictWords : List String :=
  ["_", "abstract", "as", "become", "box", "break", "const", "continue", "crate", "do", "else",
   "enum", "extern", "false", "final", "fn", "for", "if", "impl", "in", "let", "loop", "macro",
   "match", "mod", "move", "mut", "override", "priv", "pub", "ref", "return", "Self", "self",
   "static", "struct", "super", "trait", "true", "type", "typeof", "unsafe", "unsized", "use",
   "virtual", "where", "while", "yield"]

/-- Reserved words of the 2018 edition: generated code writes these with the raw prefix. -/
def reservedWords : List String :=
  ["as", "break", "const", "continue", "crate", "else", "enum", "extern", "false", "fn", "for",
   "if", "impl", "in", "let", "loop", "match", "mod", "move", "mut", "pub", "ref", "return",
   "self", "Self", "static", "struct", "super", "trait", "true", "type", "unsafe", "use",
   "where", "while", "async", "await", "dyn", "abstract", "become", "box", "do", "final",
   "macro", "override", "priv", "typeof", "unsized", "virtual", "yield", "try"]

def unrawWords : List String := ["self", "Self", "super", "crate", "_"]

/-- Whether an identifier token is accepted where the schema expects an identifier: raw ones
always, others unless they are strict words. -/
def isPlainIdent (name : String) (raw : Bool) : Bool := raw || !strictWords.contains name

/-- The text of an identifier as generated code prints it: the raw prefix stays only before a
reserved word. -/
def printIdent (name : String) (raw : Bool) : String :=
  if raw && reservedWords.contains name then "r#" ++ name else name

def identText (name : String) (raw : Bool) : String := if raw then "r#" ++ name else name

def isWordChar (c : Char) : Bool := Text.isAlphanumeric c || c == '_'

/-- Joins token texts, with one space only between two word characters. -/
def render (texts : List String) : String :=
  (texts.foldl (fun (acc : String × Option Char) t =>
    let gap := match acc.2, t.toList.head? with
      | some a, some b => isWordChar a && isWordChar b
      | _, _ => false
    let last := match t.toList.getLast? with
      | some c => some c
      | none => acc.2
    ((if gap then acc.1 ++ " " else acc.1) ++ t, last)) ("", none)).1

end LoxFront.Schema
