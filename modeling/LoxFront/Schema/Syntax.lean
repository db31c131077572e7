import LoxFront.Schema.Syntax.Type
import LoxFront.Schema.Syntax.Expr
import LoxFront.Schema.Syntax.Stmt
import LoxFront.Schema.Syntax.Generics
import LoxFront.Schema.Syntax.Item
/-!
The grammar of field types as the schema reader accepts them, and the tokens it writes back for
them into generated code.

A type is a path (possibly qualified, `<T as Trait>::Item`, with angle-bracketed or parenthesized
arguments), a tuple or a parenthesized type, a slice or an array, a pointer, a reference, a
function pointer, the never type, an inferred type, a macro call, or a trait object or `impl`
bound list. Array lengths and constant arguments are expressions, which bring blocks, statements
and patterns with them.

The tokens written back are those read, with four changes: the `::` before parenthesized
arguments of a path is dropped; lifetimes come first among angle-bracketed arguments, a comma
being added where one is missing between them; a negative literal where a literal is expected
stands at the span of its sign; and punctuation is written the
reader's way, the characters of one operator joined and the operator standing alone after it.
Everything the reader keeps without looking inside (macro bodies, attribute arguments, `dyn*`
types) keeps its spacing.

The readers are stacked in levels: each reads what it contains with the readers one level down,
and `Readers.at fuel` has `fuel` levels below it; `Stream.fuel` gives enough for any stream.
-/
namespace LoxFront.Schema

def Readers.deepen (below : Readers) : Readers :=
  { toTypeReaders := below.typeReaders, toExprReaders := below.exprReaders,
    toStmtReaders := below.stmtReaders, toGenericsReaders := below.genericsReaders,
    toItemReaders := below.itemReaders }

/-- The readers with `fuel` levels of nesting below them. -/
def Readers.at (fuel : Nat) : Readers := Nat.repeat Readers.deepen fuel {}

/-- Parses a whole field type from a stream. -/
def Stream.parseFieldType (s : Stream) : Parser (TypeOut × Stream) :=
  (Readers.at s.fuel).parseType true s

end LoxFront.Schema
