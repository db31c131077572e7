import LoxFront.Schema.Tree
import LoxFront.Schema.Token.Group
import LoxFront.Code.Item
import LoxFront.Code.Wellformed
import LoxFront.Code.Scope
import LoxFront.Code.Report
import LoxFront.Text.SnakeCase
import LoxFront.Text.Escaped
import LoxFront.Text.Normalize
/-!
The code generated for a tree schema. For a tree `T` with nodes `N` of fields `f : Ty` it is, in
this order:

* an enum `T` with a variant `N(N)` per node, deriving `Clone`, `Debug` and `PartialEq`;
* a struct `N` per node with the public fields `f : Ty`, deriving the same;
* a trait `Visitor<T>` with a method `visit_<snake N>_<lower T>(&mut self, e: &N) -> T` per node;
* an impl of `T` with a constructor `new_<snake N>(f: Ty, ...) -> Self` per node, building
  `T::N(N { f, ... })`, and `accept`, whose match sends each variant to its own visit method.

Names are the snake case of the node's name and the lower case of the tree's, both as written,
raw prefix included. Generation fails when a visit method's name is not an identifier, and the
generated code is refused when the tree or a node is named with a keyword of the edition
(`async`, `await`, `dyn`) or the reserved word `try`.

The generated code is then read back the way the compiler reads it (`LoxFront.Code.Item`): the
structs' fields and the constructors' parameters are parsed, and the items are printed from what
was parsed. A field named with a keyword ends its struct's fields, and the constructor takes it
as `_`. When the printed code cannot be read back, or a type failed to parse, no items come out:
the answer is the first error the compiler reports, or an error without a message when none
was. The compiler reports parse errors first, then calls of unknown macros and broken rules of
shape (`LoxFront.Code.Wellformed`), then errors of name resolution (`LoxFront.Code.Scope`), then
its warnings about the struct fields' types (`LoxFront.Code.Warning`; the constructors' repeat
them word for word, and so are not printed again), then the errors it set aside. The error
points at the last place printed before the next error, which is a warning's when it is the
last error before them; after a parse error, which drops what it could not read, no warnings
are counted.

`expand` runs the whole pipeline on the text of a macro call.
-/
namespace LoxFront.Schema

structure Variant where
  name : String
  fields : List String

structure FieldDecl where
  vis : String
  name : String
  type : String

structure Method where
  vis : String := ""
  sig : String
  body : String := ""

inductive Item where
  | enum (vis name : String) (variants : List Variant) (derives : List String)
  | struct (vis name : String) (fields : List FieldDecl) (derives : List String)
  | trait (vis name generics : String) (methods : List Method)
  | impl (selfTy : String) (methods : List Method)

/-- Why a schema generated no code. -/
inductive Failure where
  | source (e : SourceError)
  | grammar (e : SyntaxError)
  | badName (name : String)
  | keyword (word : String) (span : Span)
  | compile (message : String) (span : Span)
  | unreadable

def Failure.message : Failure → String
  | .source e => e.message
  | .grammar e => e.message
  | .badName _ => "proc macro panicked"
  | .keyword word _ =>
    if word == "try" then "expected identifier, found reserved keyword " ++ "`" ++ word ++ "`"
    else "expected identifier, found keyword " ++ "`" ++ word ++ "`"
  | .compile message _ => message
  | .unreadable => ""

def Failure.span : Failure → Span
  | .source e => e.span
  | .grammar e => e.span
  | .badName _ => .call
  | .keyword _ sp => sp
  | .compile _ sp => sp
  | .unreadable => .call

def Failure.located : Failure → Bool
  | .unreadable => false
  | _ => true

def Failure.panic : Failure → Option String
  | .badName name => some ("`" ++ Text.quote name ++ "`" ++ " is not a valid identifier")
  | _ => none

/-- Whether a text names an identifier: in composed normal form it is a letter or underscore,
then identifier characters. -/
def isIdentifier (s : String) : Bool :=
  match (Text.toNfc s).toList with
  | c :: rest => isIdStart c && rest.all isIdContinue
  | [] => false

def editionKeywords : List String := ["async", "await", "dyn", "try"]

def madeToken (k : Code.Kind) : Code.Token := { kind := k, span := .call }

def Name.token (n : Name) : Code.Token := { kind := .ident n.text n.raw, span := n.span }

def Field.typeTokens (f : Field) : List Code.Token := Code.tokensOf f.type

def joinComma : List (List Code.Token) → List Code.Token
  | [] => []
  | [x] => x
  | x :: rest => x ++ madeToken (.op ",") :: joinComma rest

def Node.structTokens (n : Node) : List Code.Token :=
  madeToken (.opening .brace) :: joinComma (n.fields.map fun f =>
    [madeToken (.ident "pub" false), f.name.token, madeToken (.op ":")] ++ f.typeTokens) ++
    [madeToken (.closing .brace)]

def Node.paramTokens (n : Node) : List Code.Token :=
  madeToken (.opening .paren) :: joinComma (n.fields.map fun f =>
    [f.name.token, madeToken (.op ":")] ++ f.typeTokens) ++ [madeToken (.closing .paren)]

/-- A node's generated code as the compiler reads it: the struct's fields and the constructor's
parameters. -/
structure NodeReading where
  fields : Code.Reading (List Code.FieldDef)
  params : Code.Reading (List Code.Param)

def Node.read (n : Node) : NodeReading :=
  ⟨Code.readStructBody n.structTokens, Code.readParams n.paramTokens⟩

namespace Tree

def visitName (t : Tree) (n : Node) : String :=
  "visit_" ++ Text.snakeCase n.name.written ++ "_" ++ Text.lowercase t.name.written

/-- The visit method's name as the compiler keeps it, in composed normal form. -/
def visitIdent (t : Tree) (n : Node) : String := Text.toNfc (t.visitName n)

def newName (n : Node) : String := Text.toNfc ("new_" ++ Text.snakeCase n.name.written)

def declaredNames (t : Tree) : List Name :=
  t.name :: t.nodes.map (·.name)

def typeCount (t : Tree) (name : String) : Nat :=
  (t.name.printed :: t.nodes.map (·.name.printed)).count name

/-- The derives of a generated type named `name`: each derived trait once per type of that
name, sorted. -/
def derives (t : Tree) (name : String) : List String :=
  let k := t.typeCount name
  List.replicate k "Clone" ++ List.replicate k "Debug" ++ List.replicate k "PartialEq"

def enumItem (t : Tree) : Item :=
  .enum "pub" t.name.printed (t.nodes.map fun n => ⟨n.name.printed, [n.name.printed]⟩)
    (t.derives t.name.printed)

def structPieces (n : Node) (fields : List Code.FieldDef) : Code.Pieces :=
  [.begin true 4, .begin false 0, .text "pub", .nbsp, .text "struct", .nbsp, .text n.name.printed,
      .nbsp, .text "\x7b", .close] ++
    fields.flatMap (fun f => [.softHard, .text "pub", .nbsp, .text f.name.printed, .text ":", .nbsp] ++
      f.ty.print ++ [.text ","]) ++
    (if fields.isEmpty then [] else [.brk 1 (-4) false true]) ++ [.text "\x7d", .close, .hard]

def structItem (t : Tree) (n : Node) (r : NodeReading) : Item :=
  let fields := r.fields.value
  let step := fun (acc : List FieldDecl × List Bool) (f : Code.FieldDef) =>
    let (text, rest) := f.ty.print.renderWith acc.2
    (acc.1 ++ [⟨"pub", f.name.printed, text⟩], rest)
  .struct "pub" n.name.printed (fields.foldl step ([], (structPieces n fields).commaBreaks)).1
    (t.derives n.name.printed)

def traitItem (t : Tree) : Item :=
  .trait "pub" "Visitor" "<T>" (t.nodes.map fun n =>
    { sig := render ["fn", t.visitIdent n, "(", "&", "mut", "self", ",", "e", ":", "&",
        n.name.printed, ")", "->", "T"] })

def constructorHead (n : Node) (params : List Code.Param) : Code.Pieces :=
  [.text "fn", .nbsp, .text (newName n), .text "("] ++
    Code.Pieces.commaSep (params.map Code.Param.print) ++ [.text ")", .softSpace] ++
    Code.Pieces.ibox 4 [.text "->", .space, .begin false 0, .text "Self", .close]

/-- The body of a node's constructor, `{ T::N(N { f, ... }) }`, after its head: the struct is
built from the fields whose names the compiler reads as names. The `{` closes the head's box,
and the `}` the box around the whole method. -/
def constructorBody (t : Tree) (n : Node) : Code.Pieces :=
  let names := (n.fields.filter fun f => f.name.raw || !Code.Kind.isReservedIdent
    (.ident f.name.text false)).map (·.name.printed)
  let count := names.length
  let fields := names.zipIdx.flatMap fun (name, i) =>
    (if i == 0 then [Code.Piece.softSpace] else []) ++ Code.Pieces.ibox 4 [.text name] ++
      (if i + 1 < count then [.text ",", .space] else [.brk 1 (-4) true false])
  let literal := Code.Pieces.ibox 4 ([.text n.name.printed, .nbsp, .text "\x7b"] ++
    (if names.isEmpty then [] else Code.Pieces.cbox 0 fields) ++ [.text "\x7d"])
  let callee := Code.Pieces.ibox 4 [.text t.name.printed, .text "::", .text n.name.printed]
  [.text "\x7b", .close, .softSpace] ++
    Code.Pieces.ibox 4 (callee ++ [.text "("] ++ Code.Pieces.commaSepSoft false [literal] ++
      [.text ")"]) ++ [.brk 1 (-4) false true, .text "\x7d", .close]

/-- The constructors of the nodes as the compiler prints them in the impl, each on lines of its
own after the impl's head; the method that follows them starts a line of its own too. -/
def implPieces (t : Tree) (nodes : List (Node × NodeReading)) : Code.Pieces :=
  [.begin true 4, .begin false 0, .text "impl", .nbsp, .begin false 0, .text t.name.printed,
      .close, .space, .text "\x7b", .close] ++
    nodes.flatMap (fun (n, r) => [.softHard, .begin true 4, .begin false 0, .text "pub", .nbsp] ++
      constructorHead n r.params.value ++ [.nbsp] ++ t.constructorBody n) ++
    [.hard, .text "\x7d", .close, .hard]

def constructors (t : Tree) (nodes : List (Node × NodeReading)) : List Method :=
  let step := fun (acc : List Method × List Bool) (nr : Node × NodeReading) =>
    let (n, r) := nr
    let (sig, rest) := (constructorHead n r.params.value).renderWith acc.2
    let (body, rest) := (t.constructorBody n).renderWith rest
    (acc.1 ++ [{ vis := "pub", sig, body }], rest)
  (nodes.foldl step ([], (t.implPieces nodes).commaBreaks)).1

def acceptMethod (t : Tree) : Method :=
  let arms := t.nodes.flatMap fun n =>
    [t.name.printed, "::", n.name.printed, "(", "n", ")", "=>", "v", ".", t.visitIdent n, "(", "n",
      ")", ","]
  { vis := "pub", sig := "fn accept<T,V:Visitor<T>>(&self,v:&mut V)->T",
    body := render (["\x7b", "match", "self", "\x7b"] ++ arms ++ ["\x7d", "\x7d"]) }

def implItem (t : Tree) (nodes : List (Node × NodeReading)) : Item :=
  .impl t.name.printed (t.constructors nodes ++ [t.acceptMethod])

/-- The warnings the compiler gives about the generated code, in order: names not in upper camel
case (the enum's, its variants', then each struct's followed by the warnings about its fields'
types), then those about the constructors' parameters, which repeat the fields' word for word. -/
def warnings (t : Tree) (readings : List NodeReading) : List Code.Diag :=
  Code.camelCaseWarning "type" t.name.text t.name.span ++
    t.nodes.flatMap (fun n => Code.camelCaseWarning "variant" n.name.text n.name.span) ++
    (t.nodes.zip readings).flatMap (fun (n, r) =>
      Code.camelCaseWarning "type" n.name.text n.name.span ++
        Code.Part.warnings (r.fields.value.map fun f => .ty f.ty)) ++
    Code.Part.warnings (readings.flatMap fun r => r.params.value.map .param)

/-- The generated items, or why there are none: a visit method name that is not an identifier,
or a tree or node name that is a keyword of the edition. -/
def generate (t : Tree) : Except Failure (List Item) := do
  if let some n := t.nodes.find? fun n => !isIdentifier (t.visitName n) then
    throw (.badName (t.visitName n))
  if let some n := t.declaredNames.find? fun n => !n.raw && editionKeywords.contains n.text then
    throw (.keyword n.text n.span)
  let readings := t.nodes.map Node.read
  let fieldTypes := readings.map fun r => r.fields.value.map (·.ty)
  let params := readings.map (·.params.value)
  let checked := Code.Part.check
    (fieldTypes.flatten.map Code.Part.ty ++ params.flatten.map Code.Part.param)
  let items : Code.Items := { tree := t.name.text, nodes := t.nodes.map (·.name.text) }
  let parsing := readings.flatMap (·.fields.errors) ++ readings.flatMap (·.params.errors)
  let found := items.resolve fieldTypes params
  let warnings := if parsing.isEmpty then t.warnings readings else []
  let stashed := readings.flatMap (·.fields.stashed) ++ readings.flatMap (·.params.stashed)
  let printed := (parsing ++ checked.definitions ++ checked.macros ++ checked.rules).map .error ++
    Code.Finding.timeline found warnings stashed
  let readable := readings.all fun r =>
    !r.fields.typeFailed && !r.params.typeFailed &&
      r.fields.value.all (·.ty.readable) && r.params.value.all Code.Param.readable
  if !readable then
    match Code.Printed.firstError (Code.Printed.distinct printed) with
    | some e => throw (.compile e.message e.span)
    | none => throw .unreadable
  let nodes := t.nodes.zip readings
  pure (t.enumItem :: nodes.map (fun (n, r) => t.structItem n r) ++
    [t.traitItem, t.implItem nodes])

end Tree

/-- The code a macro call with the schema text `schema` generates, or why it generates none.
When the macro fails, the first fault of reading the call, if any, is reported before the
macro's own error; a malformed literal makes it fail. -/
def expand (schema : String) : Except Failure (List Item) := do
  let call ← (readCall schema).mapError Failure.source
  let reported (f : Failure) : Failure := match call.faults with
    | e :: _ => .source e
    | [] => f
  if call.malformed then throw (reported (.source ⟨"malformed literal", .call⟩))
  let tree ← (Tree.parse call.trees).mapError fun e => reported (.grammar e)
  tree.generate.mapError reported

/-- The line and column, both from one, of an offset of a text, counting characters. An offset
past the end stands on the last line, after its last character. -/
def position (text : String) (offset : Nat) : Nat × Nat :=
  let before := text.toList.take offset
  let line := before.count '\n'
  let lineStart := before.length - (before.reverse.takeWhile (· != '\n')).length
  (line + 1, offset - lineStart + 1)

def Span.locate (schema : String) : Span → Option (Nat × Nat)
  | .call => none
  | .at offset => some (position (schema ++ ");") offset)

end LoxFront.Schema
