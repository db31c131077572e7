import LoxFront.Token.Basic
import LoxFront.Error
import LoxFront.Number.Read
/-!
Scanning source text into tokens. `Scanner.step` reads one lexeme: one- and two-character
operators, a `//` comment up to the end of its line, a string up to the next double quote
(line breaks included), a number of digits with a fraction only when a digit follows the point,
and a word, which is a keyword or an identifier. Blanks and line breaks yield nothing, and any
other character is reported and skipped. `Scanner.items` repeats the step to the end of the
input, each token carrying the line on which it starts.
-/
namespace LoxFront

inductive LexFault where
  | unexpected (c : Char)
  | unterminatedString

def LexFault.message : LexFault → String
  | .unexpected c => "Unexpected character: " ++ c.toString
  | .unterminatedString => "Unterminated string."

namespace Scanner

def isWordStart (c : Char) : Bool := c.isAlpha || c == '_'

def isWordPart (c : Char) : Bool := isWordStart c || c.isDigit

/-- What reading one lexeme gives: an item, if any, the input left after the lexeme, which is
no longer than the input after its first character, and the line where reading stops. -/
structure Step (input : List Char) where
  item : Option (Except Error Token)
  rest : List Char
  line : Nat
  shorter : rest.length ≤ input.length

def skip (input : List Char) (line : Nat) : Step input := ⟨none, input, line, Nat.le_refl _⟩

def emit {input : List Char} (kind : TokenKind) (lexeme : List Char) (line : Nat)
    (rest : List Char) (shorter : rest.length ≤ input.length) : Step input :=
  ⟨some (.ok ⟨kind, String.ofList lexeme, none, line⟩), rest, line, shorter⟩

def operator (c second : Char) (long short : TokenKind) (input : List Char) (line : Nat) :
    Step input :=
  match input with
  | d :: rest =>
    if d = second then emit long [c, d] line rest (Nat.le_succ _)
    else emit short [c] line (d :: rest) (Nat.le_refl _)
  | [] => emit short [c] line [] (Nat.le_refl _)

/-- After a slash: a comment when a second slash follows, which runs up to the line break and
leaves it for the next step; otherwise the slash itself. -/
def slash (input : List Char) (line : Nat) : Step input :=
  match input with
  | '/' :: rest =>
    ⟨none, rest.dropWhile (· != '\n'), line,
      Nat.le_succ_of_le (List.dropWhile_sublist _).length_le⟩
  | input => emit .slash ['/'] line input (Nat.le_refl _)

/-- After a double quote: the string up to the next double quote, which may span lines; its
token has the line of the opening quote. Without a closing quote the rest of the input is
consumed and the error has the last line. -/
def string (input : List Char) (line : Nat) : Step input :=
  let body := input.takeWhile (· != '"')
  let last := line + body.count '\n'
  match h : input.dropWhile (· != '"') with
  | [] => ⟨some (.error (Error.lexical last LexFault.unterminatedString.message)), [], last,
      Nat.zero_le _⟩
  | _ :: rest =>
    ⟨some (.ok ⟨.string, String.ofList ('"' :: body ++ ['"']), some (.string (String.ofList body)),
      line⟩), rest, last, by
        have := (List.dropWhile_sublist (l := input) (· != '"')).length_le
        rw [h] at this
        exact Nat.le_of_succ_le this⟩

def fractionOf : List Char → List Char × List Char
  | '.' :: d :: rest =>
    if d.isDigit then ('.' :: d :: rest.takeWhile Char.isDigit, rest.dropWhile Char.isDigit)
    else ([], '.' :: d :: rest)
  | rest => ([], rest)

theorem fractionOf_rest_length (cs : List Char) : (fractionOf cs).2.length ≤ cs.length := by
  unfold fractionOf
  split
  · rename_i rest
    split
    · have := (List.dropWhile_sublist (l := rest) Char.isDigit).length_le
      simp only [List.length_cons]
      omega
    · exact Nat.le_refl _
  · exact Nat.le_refl _

def number (c : Char) (input : List Char) (line : Nat) : Step input :=
  let afterWhole := input.dropWhile Char.isDigit
  let fraction := fractionOf afterWhole
  let lexeme := String.ofList (c :: input.takeWhile Char.isDigit ++ fraction.1)
  let item := match Binary64.ofString? lexeme with
    | some x => .ok ⟨.number, lexeme, some (.number x), line⟩
    | none => .error (Error.invalidNumber line lexeme)
  ⟨some item, fraction.2, line,
    Nat.le_trans (fractionOf_rest_length _) (List.dropWhile_sublist _).length_le⟩

def word (c : Char) (input : List Char) (line : Nat) : Step input :=
  let lexeme := String.ofList (c :: input.takeWhile isWordPart)
  emit ((TokenKind.keyword? lexeme).getD .identifier) (c :: input.takeWhile isWordPart) line
    (input.dropWhile isWordPart) (List.dropWhile_sublist _).length_le

def step (c : Char) (input : List Char) (line : Nat) : Step input :=
  match c with
  | '(' => emit .leftParen [c] line input (Nat.le_refl _)
  | ')' => emit .rightParen [c] line input (Nat.le_refl _)
  | '{' => emit .leftBrace [c] line input (Nat.le_refl _)
  | '}' => emit .rightBrace [c] line input (Nat.le_refl _)
  | ',' => emit .comma [c] line input (Nat.le_refl _)
  | '.' => emit .dot [c] line input (Nat.le_refl _)
  | '-' => emit .minus [c] line input (Nat.le_refl _)
  | '+' => emit .plus [c] line input (Nat.le_refl _)
  | ';' => emit .semicolon [c] line input (Nat.le_refl _)
  | '?' => emit .question [c] line input (Nat.le_refl _)
  | ':' => emit .colon [c] line input (Nat.le_refl _)
  | '*' => operator c '*' .starStar .star input line
  | '!' => operator c '=' .bangEqual .bang input line
  | '=' => operator c '=' .equalEqual .equal input line
  | '<' => operator c '=' .lessEqual .less input line
  | '>' => operator c '=' .greaterEqual .greater input line
  | '/' => slash input line
  | ' ' | '\r' | '\t' => skip input line
  | '\n' => skip input (line + 1)
  | '"' => string input line
  | c =>
    if c.isDigit then number c input line
    else if isWordStart c then word c input line
    else ⟨some (.error (Error.lexical line (LexFault.unexpected c).message)), input, line,
      Nat.le_refl _⟩

/-- The items of the input from line `line` on, tokens and errors in source order, and the line
on which the input ends. -/
def items : List Char → Nat → List (Except Error Token) × Nat
  | [], line => ([], line)
  | c :: input, line =>
    let s := step c input line
    let next := items s.rest s.line
    match s.item with
    | some item => (item :: next.1, next.2)
    | none => next
termination_by cs => cs.length
decreasing_by exact Nat.lt_succ_of_le s.shorter

theorem items_cons_step (c : Char) (input : List Char) (line : Nat) :
    items (c :: input) line =
      let s := step c input line
      let next := items s.rest s.line
      (s.item.toList ++ next.1,next.2) := by
  rw [items]
  split <;> simp_all

def itemsOf (source : String) : List (Except Error Token) := (items source.toList 1).1

def lastLine (source : String) : Nat := (items source.toList 1).2

end Scanner
end LoxFront
