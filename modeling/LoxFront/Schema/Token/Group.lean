import LoxFront.Schema.Token.Lex
import LoxFront.Text.Escaped
/-!
From pieces to token trees. Delimiters are matched innermost first. A closing delimiter that
does not match the innermost open group closes that group anyway and is recorded as a mismatch;
it is consumed unless an outer open group has its kind, in which case it goes on to close groups
outward. A closing delimiter with no group open, and the end of the text with a group still open,
stop grouping.

`readCall` reads the text of a macro call: the schema followed by the call's closing parenthesis
and semicolon. Faults of reading come before any other error, but only those before the point
where grouping stopped, since nothing after it is read. When reading stopped at a fault, that is
the answer. Otherwise the call fails with the first of: those faults, the mismatches in the order
found, then the fault that stopped grouping (a fault that stopped grouping takes the mismatches of
closing parentheses and brackets into itself), and a call not followed by a semicolon. A call
that reads gives its trees with its faults, which the macro reports if it fails.
-/
namespace LoxFront.Schema

structure SourceError where
  message : String
  span : Span

structure OpenGroup where
  delim : Delimiter
  openSpan : Span
  trees : Array TokenTree

structure Mismatch where
  found : Delimiter
  foundAt : Nat
  unclosed : Span

/-- The fault of a mismatch; it points at the earlier of the delimiter and the group it met. -/
def Mismatch.error (m : Mismatch) : SourceError :=
  ⟨"mismatched closing delimiter: " ++ "`" ++ m.found.closing.toString ++ "`",
    Span.min (.at m.foundAt) m.unclosed⟩

def attachTree (t : TokenTree) : List OpenGroup → Array TokenTree → List OpenGroup × Array TokenTree
  | [], top => ([], top.push t)
  | g :: rest, top => ({ g with trees := g.trees.push t } :: rest, top)

theorem attachTree_length (t : TokenTree) (gs : List OpenGroup) (top : Array TokenTree) :
    (attachTree t gs top).1.length = gs.length := by
  cases gs <;> rfl

/-- State of grouping: open groups (innermost first), the top level, the position of the last
recorded mismatch and the mismatches in order. -/
structure Grouping where
  groups : List OpenGroup
  top : Array TokenTree := #[]
  lastFound : Option Nat := none
  mismatches : Array Mismatch := #[]

def closeGroups (d : Delimiter) (pos : Nat) (groups : List OpenGroup) (top : Array TokenTree)
    (last : Option Nat) (ms : Array Mismatch) : Option Grouping :=
  match groups with
  | [] => none
  | g :: rest =>
    let done := attachTree (.group g.delim g.trees.toList g.openSpan (.at pos)) rest top
    if g.delim = d then some ⟨done.1, done.2, last, ms⟩
    else
      let consumed := !(rest.any fun o => o.delim == d)
      let ms := if last = some pos then ms else ms.push ⟨d, pos, g.openSpan⟩
      if consumed then some ⟨done.1, done.2, some pos, ms⟩
      else closeGroups d pos done.1 done.2 (some pos) ms
termination_by groups.length
decreasing_by simp [attachTree_length]

def Grouping.add (g : Grouping) (t : TokenTree) : Grouping :=
  let done := attachTree t g.groups g.top
  { g with groups := done.1, top := done.2 }

def pieceTrees (p : Located) (joint : Bool) : List TokenTree :=
  let sp := Span.at p.start
  match p.piece with
  | .ident name raw => [.ident name raw sp]
  | .lifetime name => [.punct '\'' true sp, .ident name false sp]
  | .literal text => [.literal text sp]
  | .punct c => [.punct c joint sp]
  | .doc inner text =>
    [.punct '#' false sp] ++ (if inner then [.punct '!' false sp] else []) ++
      [.group .bracket [.ident "doc" false sp, .punct '=' false sp, .literal (Text.quote text) sp]
        sp sp]
  | .opening _ | .closing _ => []

def joinsNext (p : Located) : List Located → Bool
  | q :: _ =>
    match p.piece, q.piece with
    | .punct _, .punct _ => q.start == p.stop
    | _, _ => false
  | [] => false

/-- Groups pieces, and gives the fault that stopped grouping, if any: a closing delimiter with no
open group, with its offset. -/
def groupPieces : List Located → Grouping → Grouping × Option (SourceError × Nat)
  | [], g => (g, none)
  | p :: rest, g =>
    match p.piece with
    | .opening d => groupPieces rest { g with groups := ⟨d, .at p.start, #[]⟩ :: g.groups }
    | .closing d =>
      match closeGroups d p.start g.groups g.top g.lastFound g.mismatches with
      | some g => groupPieces rest g
      | none => (g, some (⟨"unexpected closing delimiter: " ++ "`" ++ d.closing.toString ++ "`",
          .at p.start⟩, p.start))
    | _ => groupPieces rest ((pieceTrees p (joinsNext p rest)).foldl Grouping.add g)

/-- The text of a call as the macro receives it: its trees, the faults reported while reading
it, and whether one of its literals is malformed, which makes the macro fail. -/
structure CallText where
  trees : List TokenTree
  faults : List SourceError
  malformed : Bool

/-- The text of the call, or its first error. -/
def readCall (schema : String) : Except SourceError CallText := do
  let lexed := lex (schema.toList ++ [')', ';', '\n'])
  let (g, stray) := groupPieces lexed.pieces { groups := [⟨.paren, .call, #[]⟩] }
  let read : List Fault := match stray with
    | some (_, stop) => lexed.faults.filter fun f => f.offset < stop
    | none => lexed.faults
  let faults := read.map fun f => (⟨f.message, .at f.offset⟩ : SourceError)
  let first (e : SourceError) : SourceError := faults.head?.getD e
  if stray.isNone && lexed.stopped then
    if let f :: _ := faults then throw f
  let stopped := match stray with
    | some (e, _) => some e
    | none => if g.groups.isEmpty then none
        else some ⟨"this file contains an unclosed delimiter", .at (schema.length + 3)⟩
  let mismatches := match stopped with
    | some _ => g.mismatches.toList.filter fun (m : Mismatch) => m.found == Delimiter.brace
    | none => g.mismatches.toList
  if let m :: _ := mismatches then throw (first m.error)
  if let some e := stopped then throw (first e)
  let trees ← match g.top.toList with
    | .group .paren trees _ _ :: .punct ';' _ _ :: _ => pure trees
    | _ => throw (first ⟨"macros that expand to items must be delimited with braces or " ++
        "followed by a semicolon", .call⟩)
  pure ⟨trees, faults, lexed.malformed⟩

end LoxFront.Schema
