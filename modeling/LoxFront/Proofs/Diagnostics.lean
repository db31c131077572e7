import LoxFront.Proofs.Scanner.Lines
import LoxFront.Diagnostics

/-! Scanning a whole source into a sink of errors. Main statement: `Diagnostics.scan` never fails.
It returns the tokens of the scan in order followed by one end-of-input token on the last line,
and appends the errors of the scan, in order, to those the sink already holds. No token of the
scan marks the end of input, so the end-of-input token comes exactly once, last. -/
namespace LoxFront
namespace Scanner
open LongestMatch Lexeme

/-- What a scan yields: a token that does not mark the end of input, or a lexical error, which
does not stop a scan. -/
def Yieldable : Except Error Token → Prop
  | .ok t => t.kind ≠ .endOfFile
  | .error e => e.kind = .lexical

theorem move_yieldable {c : Char} {rest : List Char} {line : Nat} {x : Except Error Token}
    (read : (move c rest line).1 = some x) : Yieldable x := by
  cases x with
  | ok t =>
    rw [move_token read]
    exact kindOf_ne_endOfFile _
  | error e =>
    rcases move_error read with ⟨-,rfl⟩ | ⟨-,-,rfl⟩ <;> rfl

theorem items_yieldable (input : List Char) (line : Nat) :
    ∀ x ∈ (items input line).1, Yieldable x := by
  induction input,line using locatedFrom.induct with
  | case1 line => simp [items]
  | case2 c input line s ih =>
    obtain ⟨-,dropped,counted⟩ := step_agrees c input line
    simp only [s,dropped,counted] at ih
    rw [items_cons]
    intro x member
    rcases List.mem_append.mp member with here | later
    · exact move_yieldable (Option.mem_toList.mp here)
    · exact ih x later

def errorOf : Except Error Token → Option Error
  | .error e => some e
  | .ok _ => none

def tokensOf (items : List (Except Error Token)) : List Token := items.filterMap Except.toOption

def errorsOf (items : List (Except Error Token)) : List Error := items.filterMap errorOf

@[simp] theorem tokensOf_nil : tokensOf [] = [] := rfl

@[simp] theorem tokensOf_ok (t : Token) (rest : List (Except Error Token)) :
    tokensOf (.ok t :: rest) = t :: tokensOf rest := rfl

@[simp] theorem tokensOf_error (e : Error) (rest : List (Except Error Token)) :
    tokensOf (.error e :: rest) = tokensOf rest := rfl

@[simp] theorem errorsOf_nil : errorsOf [] = [] := rfl

@[simp] theorem errorsOf_ok (t : Token) (rest : List (Except Error Token)) :
    errorsOf (.ok t :: rest) = errorsOf rest := rfl

@[simp] theorem errorsOf_error (e : Error) (rest : List (Except Error Token)) :
    errorsOf (.error e :: rest) = e :: errorsOf rest := rfl

theorem mem_tokensOf {t : Token} {items : List (Except Error Token)} :
    t ∈ tokensOf items ↔ .ok t ∈ items := by
  induction items with
  | nil => simp
  | cons x rest ih => cases x <;> simp [ih]

theorem mem_errorsOf {e : Error} {items : List (Except Error Token)} :
    e ∈ errorsOf items ↔ .error e ∈ items := by
  induction items with
  | nil => simp
  | cons x rest ih => cases x <;> simp [ih]

end Scanner

namespace Diagnostics
open Scanner

theorem record_lexical (d : Diagnostics) {e : Error} (lexical : e.kind = .lexical) :
    d.record e.line e.message = ⟨d.errors ++ [e]⟩ := by
  obtain ⟨kind,line,message⟩ := e
  simp only at lexical
  subst lexical
  rfl

theorem absorb_lexical (d : Diagnostics) (items : List (Except Error Token))
    (lexical : ∀ e ∈ errorsOf items, e.kind = .lexical) :
    d.absorb items = (.ok (tokensOf items),⟨d.errors ++ errorsOf items⟩) := by
  induction items generalizing d with
  | nil => simp [absorb]
  | cons x rest ih =>
    cases x with
    | ok t => simp [absorb,ih d lexical,Except.map]
    | error e =>
      have kept : e.kind = .lexical := lexical e List.mem_cons_self
      have mild : e.isFatal = false := by simp [Error.isFatal,kept]
      have later := fun e' member => lexical e' (List.mem_cons_of_mem e member)
      rw [absorb,if_neg (by simp [mild]),record_lexical d kept,ih _ later]
      simp

/-- What a scan does to a sink, by the scan's own items: the tokens come back with the
end-of-input token on the last line, and the errors are appended. -/
theorem scan_eq (d : Diagnostics) (s : String) :
    d.scan s = (.ok (tokensOf (itemsOf s) ++ [Token.eof (lastLine s)]),
      ⟨d.errors ++ errorsOf (itemsOf s)⟩) := by
  have lexical : ∀ e ∈ errorsOf (itemsOf s), e.kind = .lexical :=
    fun e member => items_yieldable s.toList 1 _ (mem_errorsOf.mp member)
  rw [scan,show items s.toList 1 = (itemsOf s,lastLine s) from rfl]
  simp only [absorb_lexical d _ lexical,Except.map]

/-- Scanning a source into a sink never fails: it returns the tokens of the scan followed by the
end-of-input token on the last line, and appends the lexical errors of the scan in order. -/
theorem scan_eq_ok_tokens_eof (d : Diagnostics) (s : String) :
    d.scan s = (.ok (tokensOf (itemsOf s) ++ [Token.eof (1 + s.toList.count '\n')]),
      ⟨d.errors ++ errorsOf (itemsOf s)⟩) ∧
    (∀ t ∈ tokensOf (itemsOf s), t.kind ≠ .endOfFile) ∧
    ∀ e ∈ errorsOf (itemsOf s), e.kind = .lexical := by
  have yieldable : ∀ x ∈ itemsOf s, Yieldable x := items_yieldable s.toList 1
  have lexical : ∀ e ∈ errorsOf (itemsOf s), e.kind = .lexical :=
    fun e member => yieldable _ (mem_errorsOf.mp member)
  refine ⟨?_,fun t member => yieldable _ (mem_tokensOf.mp member),lexical⟩
  have last : (items s.toList 1).2 = 1 + s.toList.count '\n' := by
    rw [items_line,Nat.add_comm]
  rw [scan,show items s.toList 1 = (itemsOf s,(items s.toList 1).2) from rfl,last]
  simp only [absorb_lexical d _ lexical,Except.map]

end Diagnostics
end LoxFront
