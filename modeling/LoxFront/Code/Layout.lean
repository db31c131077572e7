import LoxFront.Schema.Token
/-!
How printed code is broken into lines, the way the compiler's pretty-printer breaks them.

Printed code is a sequence of pieces: texts, breaks, and boxes around pieces. A break is a place
where the line may end; when it does not, it stands for its blanks. A box breaks when what it
holds, with the text that follows it up to the next break, does not fit in the rest of the line.
In a box that breaks, a consistent box ends the line at each of its own breaks, an inconsistent
one at a break only when what follows up to the next break does not fit. A line that ends goes
on at the indentation of the box around the break plus the break's offset. Lines are 78 bytes
wide, and at least 60 bytes are left for text however deep the indentation.

A break may carry a comma, printed only when the line ends there: a struct literal that spreads
over lines ends its last field so. A soft break stands only where the line does not start right
there, and a hard break always ends the line.

Widths count UTF-8 bytes.
-/
namespace LoxFront.Code

/-- A piece of printed code. -/
inductive Piece where
  | text (s : String)
  /-- A place where the line may end, standing for `blank` blanks when it does not. The line
  that follows is indented by `offset` more than the box around it; `comma` prints a comma
  before the end of the line; a `soft` break is left out right after a hard one. -/
  | brk (blank : Nat) (offset : Int) (comma : Bool) (soft : Bool)
  /-- The start of a box, consistent or not, whose broken lines are indented by `indent`. -/
  | begin (consistent : Bool) (indent : Int)
  | close

abbrev Pieces := List Piece

def hardBlank : Nat := 0xffff

namespace Piece

def nbsp : Piece := .text " "

def space : Piece := .brk 1 0 false false

def softSpace : Piece := .brk 1 0 false true

def hard : Piece := .brk hardBlank 0 false false

def softHard : Piece := .brk hardBlank 0 false true

def isHard : Piece → Bool
  | .brk blank _ _ _ => blank == hardBlank
  | _ => false

end Piece

namespace Pieces

def ibox (indent : Int) (ps : Pieces) : Pieces := .begin false indent :: ps ++ [.close]

def cbox (indent : Int) (ps : Pieces) : Pieces := .begin true indent :: ps ++ [.close]

def commaSep (items : List Pieces) : Pieces :=
  ibox 0 (items.intersperse [.text ",", .space]).flatten

def commaSepSoft (consistent : Bool) (items : List Pieces) : Pieces :=
  .begin consistent 0 :: (items.intersperse [.text ",", .softSpace]).flatten ++ [.close]

/-- The pieces with soft breaks settled: a soft break at the start of a line (right after a
hard break, or first of all) is left out, and gives that hard break its offset when it has
one. -/
def settle (ps : Pieces) : Pieces :=
  let step := fun (acc : Pieces) (p : Piece) =>
    match p with
    | .brk b offset c true =>
      match acc with
      | last :: before =>
        if last.isHard then
          if offset != 0 then .brk hardBlank offset false false :: before else acc
        else .brk b offset c false :: acc
      | [] => acc
    | _ => p :: acc
  (ps.foldl step []).reverse

inductive Pending where
  | box
  | brk
  | close

def sizeStack (total : Int) : Nat → Nat → List (Nat × Pending) → Array Int →
    List (Nat × Pending) × Array Int
  | 0, _, stack, sizes => (stack, sizes)
  | _ + 1, _, [], sizes => ([], sizes)
  | fuel + 1, depth, (i, kind) :: rest, sizes =>
    match kind with
    | .box =>
      if depth == 0 then ((i, kind) :: rest, sizes)
      else sizeStack total fuel (depth - 1) rest (sizes.modify i (· + total))
    | .close => sizeStack total fuel (depth + 1) rest (sizes.set! i 1)
    | .brk =>
      let sizes := sizes.modify i (· + total)
      if depth == 0 then (rest, sizes) else sizeStack total fuel depth rest sizes

/-- The sizes of all pieces, computed as the printer scans them: a box's is the width from its
start to the first break after its end, a break's the width from it, its blanks included, to
the next break outside any box opened after it; what the end of the code leaves unsized reaches
to the end. -/
def sizes (ps : Array Piece) : Array Int :=
  let step := fun (acc : Int × List (Nat × Pending) × Array Int) (i : Nat) =>
    let (total, stack, sizes) := acc
    match ps[i]? with
    | some (.text s) => (total + s.utf8ByteSize, stack, sizes)
    | some (.begin _ _) => (total, (i, .box) :: stack, sizes.set! i (-total))
    | some .close => (total, (i, .close) :: stack, sizes)
    | some (.brk b _ _ _) =>
      let (stack, sizes) := sizeStack total (stack.length + 1) 0 stack sizes
      (total + b, (i, .brk) :: stack, sizes.set! i (-total))
    | none => acc
  let (total, stack, sizes) :=
    (List.range ps.size).foldl step (0, [], Array.replicate ps.size 0)
  stack.foldl (fun sizes (i, kind) => match kind with
    | .close => sizes.set! i 1
    | _ => sizes.modify i (· + total)) sizes

end Pieces

structure Frame where
  broken : Bool
  consistent : Bool
  outer : Int

/-- Where the printer stands: the room left on the line, the indentation of broken lines, the
boxes open, and, for each comma break passed, newest first, whether the line ended there. -/
structure Printing where
  room : Int := 78
  indent : Int := 0
  frames : List Frame := []
  commas : List Bool := []

def lineWidth : Int := 78

def leastRoom : Int := 60

def Printing.step (st : Printing) (p : Piece) (size : Int) : Printing :=
  match p with
  | .text s => { st with room := st.room - s.utf8ByteSize }
  | .begin consistent indent =>
    if size > st.room then
      { st with frames := ⟨true, consistent, st.indent⟩ :: st.frames,
                indent := st.indent + indent }
    else { st with frames := ⟨false, consistent, st.indent⟩ :: st.frames }
  | .close => match st.frames with
    | f :: rest => { st with frames := rest, indent := if f.broken then f.outer else st.indent }
    | [] => st
  | .brk blank offset comma _ =>
    let fits := match st.frames with
      | [] => size ≤ st.room
      | f :: _ => !f.broken || (!f.consistent && size ≤ st.room)
    let commas := if comma then (!fits) :: st.commas else st.commas
    bif fits then { st with room := st.room - blank, commas }
    else { st with room := max (lineWidth - (st.indent + offset)) leastRoom, commas }

/-- For each comma break of printed code, in order, whether the line ends there. The code starts
a line of its own. -/
def Pieces.commaBreaks (ps : Pieces) : List Bool :=
  let arr := (Pieces.settle ps).toArray
  let sizes := Pieces.sizes arr
  let st := (List.range arr.size).foldl (fun (st : Printing) i => match arr[i]? with
    | some p => st.step p (sizes[i]?.getD 0)
    | none => st) {}
  st.commas.reverse

def Pieces.renderWith (ps : Pieces) (decisions : List Bool) : String × List Bool :=
  let step := fun (acc : List String × List Bool) (p : Piece) =>
    match p with
    | .text s => if s == " " then acc else (s :: acc.1, acc.2)
    | .brk _ _ true _ => match acc.2 with
      | true :: rest => ("," :: acc.1, rest)
      | false :: rest => (acc.1, rest)
      | [] => acc
    | _ => acc
  let (texts, rest) := (Pieces.settle ps).foldl step ([], decisions)
  (Schema.render texts.reverse, rest)

def Pieces.render (ps : Pieces) : String := (ps.renderWith []).1

end LoxFront.Code
