import LoxFront.Schema.Token
/-!
Tokens of generated code as the compiler reads them. The token trees a schema expands to are
flattened into one sequence: each group becomes its opening delimiter, its contents and its
closing delimiter, and punctuation characters joined to the next are glued into operators the way
the compiler glues them (`:` and `:` into `::`, `.` and `.` and `=` into `..=`, a quote and a
name into a lifetime).

Keywords are those of the 2018 edition: `async`, `await` and `dyn` are keywords in use, `try` is
reserved.
-/
namespace LoxFront.Code

open LoxFront.Schema (Span Delimiter TokenTree)

inductive Kind where
  | ident (name : String) (raw : Bool)
  | lifetime (name : String) (raw : Bool)
  | literal (text : String)
  | op (text : String)
  | opening (d : Delimiter)
  | closing (d : Delimiter)
  | eof
  deriving DecidableEq

/-- A token and where it stands; `joint` tells whether punctuation follows it without a
blank. -/
structure Token where
  kind : Kind
  span : Span
  joint : Bool := false

/-- The operator that two operators glue into, when they do. -/
def glue : String → String → Option String
  | "=", "=" => some "=="
  | "=", ">" => some "=>"
  | "<", "=" => some "<="
  | "<", "<" => some "<<"
  | "<", "-" => some "<-"
  | "<<", "=" => some "<<="
  | ">", "=" => some ">="
  | ">", ">" => some ">>"
  | ">>", "=" => some ">>="
  | "!", "=" => some "!="
  | "+", "=" => some "+="
  | "-", "=" => some "-="
  | "-", ">" => some "->"
  | "*", "=" => some "*="
  | "/", "=" => some "/="
  | "%", "=" => some "%="
  | "^", "=" => some "^="
  | "&", "=" => some "&="
  | "&", "&" => some "&&"
  | "|", "=" => some "|="
  | "|", "|" => some "||"
  | ".", "." => some ".."
  | "..", "." => some "..."
  | "..", "=" => some "..="
  | ":", ":" => some "::"
  | _, _ => none

/-- Appends a token to a sequence read so far (kept in reverse), gluing it to the last token
when that one is joined to it. -/
def pushToken (acc : List Token) (t : Token) : List Token :=
  match acc, t.kind with
  | last :: before, .op b =>
    match last.kind with
    | .op a =>
      if last.joint then
        match glue a b with
        | some g => { kind := .op g, span := last.span, joint := t.joint } :: before
        | none => t :: acc
      else t :: acc
    | _ => t :: acc
  | last :: before, .ident name raw =>
    match last.kind with
    | .op "'" => if last.joint then
        { kind := .lifetime name raw, span := last.span } :: before
      else t :: acc
    | _ => t :: acc
  | _, _ => t :: acc

mutual

def pushTrees (acc : List Token) : List TokenTree → List Token
  | [] => acc
  | tree :: rest => pushTrees (pushTree acc tree) rest

def pushTree (acc : List Token) : TokenTree → List Token
  | .ident name raw sp => pushToken acc { kind := .ident name raw, span := sp }
  | .punct c joint sp => pushToken acc { kind := .op c.toString, span := sp, joint := joint }
  | .literal text sp => pushToken acc { kind := .literal text, span := sp }
  | .group d inner opening closing =>
    let inside := pushTrees ({ kind := .opening d, span := opening } :: acc) inner
    { kind := .closing d, span := closing } :: inside

end

def tokensOf (trees : List TokenTree) : List Token := (pushTrees [] trees).reverse

/-- Keywords in use in the 2018 edition. -/
def usedKeywords : List String :=
  ["as", "break", "const", "continue", "crate", "else", "enum", "extern", "false", "fn", "for",
   "if", "impl", "in", "let", "loop", "match", "mod", "move", "mut", "pub", "ref", "return",
   "self", "Self", "static", "struct", "super", "trait", "true", "type", "unsafe", "use",
   "where", "while", "async", "await", "dyn"]

def unusedKeywords : List String :=
  ["abstract", "become", "box", "do", "final", "macro", "override", "priv", "typeof", "unsized",
   "virtual", "yield", "try"]

def pathSegmentKeywords : List String := ["self", "Self", "super", "crate"]

namespace Kind

def isKeyword (k : Kind) (kw : String) : Bool :=
  match k with
  | .ident name false => name == kw
  | _ => false

def isIdent : Kind → Bool
  | .ident .. => true
  | _ => false

def isReservedIdent : Kind → Bool
  | .ident name false => name == "_" || usedKeywords.contains name || unusedKeywords.contains name
  | _ => false

def isPathSegmentKeyword : Kind → Bool
  | .ident name false => pathSegmentKeywords.contains name
  | _ => false

def isPlainIdent (k : Kind) : Bool := k.isIdent && !k.isReservedIdent

def isOp (k : Kind) (o : String) : Bool :=
  match k with
  | .op p => p == o
  | _ => false

def isLifetime : Kind → Bool
  | .lifetime .. => true
  | _ => false

def isLiteral : Kind → Bool
  | .literal _ => true
  | .ident name false => name == "true" || name == "false"
  | _ => false

def isLikePlus (k : Kind) : Bool := k.isOp "+" || k.isOp "+="

def text : Kind → String
  | .ident name raw => if raw then "r#" ++ name else name
  | .lifetime name raw => if raw then "'r#" ++ name else "'" ++ name
  | .literal t => t
  | .op o => o
  | .opening .paren => "("
  | .opening .bracket => "["
  | .opening .brace => "\x7b"
  | .closing .paren => ")"
  | .closing .bracket => "]"
  | .closing .brace => "\x7d"
  | .eof => "<eof>"

/-- How an error names a token it found: by its text, with the kind of word it is for reserved
words. -/
def describe (k : Kind) : String :=
  let quoted := "`" ++ k.text ++ "`"
  match k with
  | .ident name false =>
    if name == "_" then "reserved identifier " ++ quoted
    else if usedKeywords.contains name then "keyword " ++ quoted
    else if unusedKeywords.contains name then "reserved keyword " ++ quoted
    else quoted
  | _ => quoted

def isPathStart (k : Kind) : Bool :=
  k.isOp "::" || k.isOp "<" || k.isOp "<<" || k.isPathSegmentKeyword || k.isPlainIdent

/-- Whether a word may begin a type: any identifier that is not reserved, a path segment keyword,
or one of `_`, `for`, `impl`, `fn`, `unsafe`, `extern`, `typeof`, `dyn`. -/
def identCanBeginType (name : String) (raw : Bool) : Bool :=
  let k := Kind.ident name raw
  !k.isReservedIdent || k.isPathSegmentKeyword ||
    (!raw && ["_", "for", "impl", "fn", "unsafe", "extern", "typeof", "dyn"].contains name)

def canBeginType : Kind → Bool
  | .ident name raw => identCanBeginType name raw
  | .opening .paren | .opening .bracket => true
  | .op o => ["!", "*", "&", "&&", "?", "<", "<<", "::"].contains o
  | .lifetime .. => true
  | _ => false

def identCanBeginExpr (name : String) (raw : Bool) : Bool :=
  let k := Kind.ident name raw
  !k.isReservedIdent || k.isPathSegmentKeyword ||
    (!raw && ["async", "do", "box", "break", "const", "continue", "false", "for", "gen", "if",
      "let", "loop", "match", "move", "return", "true", "try", "unsafe", "while", "yield",
      "static"].contains name)

def canBeginExpr : Kind → Bool
  | .ident name raw => identCanBeginExpr name raw
  | .opening _ => true
  | .literal _ => true
  | .op o => ["!", "-", "*", "|", "||", "&", "&&", "..", "...", "..=", "<", "<<", "::",
      "#"].contains o
  | .lifetime .. => true
  | _ => false

/-- The two operators a glued operator splits into when only its first character is wanted. -/
def breakTwo : Kind → Option (String × String)
  | .op "<=" => some ("<", "=")
  | .op "==" => some ("=", "=")
  | .op "!=" => some ("!", "=")
  | .op ">=" => some (">", "=")
  | .op "&&" => some ("&", "&")
  | .op "||" => some ("|", "|")
  | .op "<<" => some ("<", "<")
  | .op ">>" => some (">", ">")
  | .op "+=" => some ("+", "=")
  | .op "-=" => some ("-", "=")
  | .op "*=" => some ("*", "=")
  | .op "/=" => some ("/", "=")
  | .op "%=" => some ("%", "=")
  | .op "^=" => some ("^", "=")
  | .op "&=" => some ("&", "=")
  | .op "|=" => some ("|", "=")
  | .op "<<=" => some ("<", "<=")
  | .op ">>=" => some (">", ">=")
  | .op ".." => some (".", ".")
  | .op "..." => some (".", "..")
  | .op "::" => some (":", ":")
  | .op "->" => some ("-", ">")
  | .op "<-" => some ("<", "-")
  | .op "=>" => some ("=", ">")
  | _ => none

end Kind

end LoxFront.Code

namespace LoxFront.Schema

def Span.after (sp : Span) (n : Nat) : Span :=
  match sp with
  | .call => .call
  | .at offset => .at (offset + n)

end LoxFront.Schema
