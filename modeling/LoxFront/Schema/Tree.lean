import LoxFront.Schema.Syntax
/-!
Tree schemas: a tree's name followed by a comma and, in square brackets, its nodes separated by
semicolons, a trailing one allowed; a node is a name, `=>`, and in braces its fields separated by
commas, a trailing one allowed; a field is a name, a colon and a type. Names are identifiers that
are not reserved words, or raw identifiers.

`Tree.parse` reads a schema from the token trees of a macro call. Nothing may follow the bracket
group, and no group may be left with tokens unread. The reader of the schema takes the reader of
field types as a parameter (`Tree.parseWith`); `Tree.parse` reads them with the grammar of types.
-/
namespace LoxFront.Schema

structure Field where
  name : Name
  type : List TokenTree

structure Node where
  name : Name
  fields : List Field

/-- A tree schema: the tree's name and its nodes. -/
structure Tree where
  name : Name
  nodes : List Node

/-- A reader of the type of a field. -/
abbrev TypeReader := Stream → Parser (TypeOut × Stream)

def Field.parse (readType : TypeReader) (s : Stream) : Parser (Field × Stream) := do
  let (name, s) ← s.ident
  let s ← s.punct ":"
  let (ty, s) ← readType s
  pure (⟨name, ty.trees⟩, s)

/-- Reads items with `item` up to the end of the stream, separated by `sep`, a trailing one
allowed; `fuel` bounds the number of items. -/
def parseTerminated {α : Type} (item : Stream → Parser (α × Stream)) (sep : String) :
    Nat → Stream → Parser (List α × Stream)
  | 0, s => pure ([], s)
  | fuel + 1, s => do
    if s.isEmpty then pure ([], s)
    else
      let (a, s) ← item s
      if s.isEmpty then pure ([a], s)
      else
        let s ← s.punct sep
        let (rest, s) ← parseTerminated item sep fuel s
        pure (a :: rest, s)

def Node.parse (readType : TypeReader) (s : Stream) : Parser (Node × Stream) := do
  let (name, s) ← s.ident
  let s ← s.punct "=>"
  let (c, s) ← s.group .brace
  let (fields, c) ← parseTerminated (Field.parse readType) "," (c.trees.length + 1) c
  release c
  pure (⟨name, fields⟩, s)

def Tree.parseFrom (readType : TypeReader) (s : Stream) : Parser (Tree × Stream) := do
  let (name, s) ← s.ident
  let s ← s.punct ","
  let (c, s) ← s.group .bracket
  let (nodes, c) ← parseTerminated (Node.parse readType) ";" (c.trees.length + 1) c
  release c
  pure (⟨name, nodes⟩, s)

/-- Reads a whole schema from the token trees of a call, the types of its fields by `readType`:
after the tree nothing may be left, and no group may have been left with tokens unread. -/
def Tree.parseWith (readType : TypeReader) (trees : List TokenTree) : Except SyntaxError Tree := do
  let ((tree, s), pending) ← (Tree.parseFrom readType ⟨trees, .call⟩).run none
  if let some sp := pending then throw ⟨"unexpected token", sp⟩
  if let t :: _ := s.trees then throw ⟨"unexpected token", t.span⟩
  pure tree

def Tree.parse (trees : List TokenTree) : Except SyntaxError Tree :=
  Tree.parseWith Stream.parseFieldType trees

end LoxFront.Schema
