import LoxFront.Number.Notation
import LoxFront.Number.Read
import LoxFront.Token.Scanner
import LoxFront.Diagnostics
import LoxFront.Expr
import LoxFront.Text.Identifier
import LoxFront.Text.Normalize
import LoxFront.Text.SnakeCase
import LoxFront.Schema.Token
import LoxFront.Schema.Token.LookAlike
import LoxFront.Schema.Token.Lex
import LoxFront.Schema.Token.Group
import LoxFront.Schema.Stream
import LoxFront.Schema.Syntax
import LoxFront.Code.Token
import LoxFront.Code.Syntax
import LoxFront.Code.Cursor
import LoxFront.Code.Grammar
import LoxFront.Code.Layout
import LoxFront.Code.Printer
import LoxFront.Code.Readable
import LoxFront.Code.Item
import LoxFront.Code.Std
import LoxFront.Code.Wellformed
import LoxFront.Code.Scope
import LoxFront.Code.Warning
import LoxFront.Code.Report
import LoxFront.Schema.Tree
import LoxFront.Schema.Generate
import LoxFront.Proofs.Scanner.Lexeme
import LoxFront.Proofs.Scanner.LongestMatch
import LoxFront.Proofs.Scanner.Lines
import LoxFront.Proofs.Diagnostics
import LoxFront.Proofs.Scanner.Stray
import LoxFront.Proofs.Sink
import LoxFront.Proofs.PrefixForm
import LoxFront.Proofs.Scanner.LineBreak
import LoxFront.Proofs.Scanner.Rescan
import LoxFront.Proofs.Scanner.Decode
import LoxFront.Proofs.Scanner.Progress
import LoxFront.Proofs.Equality
import LoxFront.Proofs.Schema.Reading
import LoxFront.Proofs.Schema.Grammar
