import LoxFront.Text.WordBreak
/-!
Snake case: the words of a name, each cut again where lowercase meets uppercase (`varDecl`),
before the last capital of a capital run that a lowercase letter follows (`XMLHttp`), and at
underscores, then lowercased and joined by underscores. Underscores themselves are dropped.
-/
namespace LoxFront.Text

inductive CaseRun where
  | none
  | lower
  | upper
  deriving DecidableEq

structure SnakeOutput where
  text : String := ""
  first : Bool := true

/-- Lowercases a part; a capital sigma at its end becomes the final small sigma. -/
def lowerPart (part : List Char) : String :=
  String.ofList <| (part.zipIdx.map fun (c, i) =>
    if c.toNat = 0x3a3 && i + 1 = part.length then [Char.ofNat 0x3c2] else lowerChar c).flatten

def SnakeOutput.add (out : SnakeOutput) (part : List Char) : SnakeOutput :=
  { text := (if out.first then out.text else out.text.push '_') ++ lowerPart part, first := false }

/-- Cuts one word into parts and appends them. `init` is where the current part starts and
`run` the case of its last cased character. -/
def snakeWord (w : Array Char) (out : SnakeOutput) : SnakeOutput :=
  loop 0 0 .none out
where
  loop (i init : Nat) (run : CaseRun) (out : SnakeOutput) : SnakeOutput :=
    if h : i < w.size then
      let c := w[i]
      if c = '_' then loop (i + 1) (if init = i then init + 1 else init) run out
      else if h2 : i + 1 < w.size then
        let next := w[i + 1]
        let nextRun :=
          if isLowercase c then CaseRun.lower else if isUppercase c then .upper else run
        if next = '_' || (nextRun = .lower && isUppercase next) then
          loop (i + 1) (i + 1) .none (out.add (w.extract init (i + 1)).toList)
        else if run = .upper && isUppercase c && isLowercase next then
          loop (i + 1) i .none (out.add (w.extract init i).toList)
        else loop (i + 1) init nextRun out
      else out.add (w.extract init w.size).toList
    else out
  termination_by w.size - i

def snakeCase (s : String) : String :=
  ((words s).foldl (fun out word => snakeWord word.toList.toArray out) {}).text

end LoxFront.Text
