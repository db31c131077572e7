import LoxFront.Proofs.Diagnostics
import LoxFront.Proofs.Scanner.Stray

/-! Scanning across a line break. Main statement: when a first text leaves no string open,
scanning it, a line break and a second text yields the items of the first text, then the items of
the second moved down by the lines of the first and the break, and the scan ends that many lines
below the second text's own end. So a program can be scanned line by line, as a prompt does, and
the lines shifted afterwards. The only state that a line break between lexemes passes on is the
line: a comment stops before it, only strings hold one, and no other lexeme reaches over it. -/
namespace LoxFront
namespace Scanner

def shift (k : Nat) : Except Error Token → Except Error Token
  | .ok t => .ok { t with line := t.line + k }
  | .error e => .error { e with line := e.line + k }

end Scanner

namespace LongestMatch
open Lexeme

theorem move_shift (c : Char) (rest : List Char) (line k : Nat) :
    move c rest (line + k) = ((move c rest line).1.map (Scanner.shift k),(move c rest line).2) := by
  unfold move
  split_ifs <;> simp [Scanner.shift,tokenOf,Error.lexical,Nat.add_right_comm]

theorem items_shift (input : List Char) (line k : Nat) :
    Scanner.items input (line + k) =
      ((Scanner.items input line).1.map (Scanner.shift k),(Scanner.items input line).2 + k) := by
  induction input,line using Scanner.locatedFrom.induct with
  | case1 line => simp [Scanner.items]
  | case2 c input line s ih =>
    obtain ⟨-,dropped,counted⟩ := step_agrees c input line
    simp only [s,dropped,counted] at ih
    rw [items_cons,items_cons,move_shift]
    simp only [Nat.add_right_comm line k,ih]
    cases (move c input line).1 <;> simp

theorem takeWhile_append_newline {p : Char → Bool} (stop : p '\n' = false) (rest b : List Char) :
    (rest ++ '\n' :: b).takeWhile p = rest.takeWhile p := by
  induction rest with
  | nil => simp [stop]
  | cons c rest ih => cases kept : p c <;> simp [kept,ih]

/-- A line break put after the input leaves a move as it was, unless the move opens a string
that never closes: a comment stops before the line break, and no lexeme reaches over it. -/
theorem move_append_newline {c : Char} {rest : List Char} {line : Nat} (b : List Char)
    (closed : ∀ e, (move c rest line).1 = some (.error e) → e.message ≠ "Unterminated string.") :
    move c (rest ++ '\n' :: b) line = move c rest line := by
  by_cases blank : isBlank c
  · simp [move,blank]
  have head : (rest ++ '\n' :: b).head? = some '/' ↔ rest.head? = some '/' := by
    cases rest <;> simp
  by_cases comment : c = '/' ∧ rest.head? = some '/'
  · obtain ⟨rfl,first⟩ := comment
    simp [move,blank,first,head.mpr first,takeWhile_append_newline]
  have comment' : ¬(c = '/' ∧ (rest ++ '\n' :: b).head? = some '/') := by rwa [head]
  by_cases lexeme : 0 < longest (c :: rest)
  · -- the longest lexeme is read from the front of the input and ends before the line break
    have fits : longest (c :: rest) ≤ (c :: rest).length := Nat.findGreatest_le _
    have front := List.take_append_drop (longest (c :: rest)) (c :: rest)
    have read : longest ((c :: rest).take (longest (c :: rest)) ++ (c :: rest).drop (longest (c :: rest))) =
        ((c :: rest).take (longest (c :: rest))).length := by
      rw [front,List.length_take,Nat.min_eq_left fits]
    have same : longest (c :: (rest ++ '\n' :: b)) = longest (c :: rest) := by
      have stays := longest_append_stop (r := b) (d := '\n') (by simp; omega) read (by decide)
      rwa [← List.append_assoc,front,List.length_take,Nat.min_eq_left fits] at stays
    have taken : (c :: (rest ++ '\n' :: b)).take (longest (c :: rest)) =
        (c :: rest).take (longest (c :: rest)) := by
      rw [← List.cons_append,List.take_append_of_le_length fits]
    simp only [move,blank,comment,comment',lexeme,same,taken,if_false,if_true,Bool.false_eq_true]
  by_cases quote : c = '"'
  · -- a string that never closes: the one move that the hypothesis rules out
    subst quote
    have read : (move '"' rest line).1 =
        some (.error (Error.lexical (line + rest.count '\n') "Unterminated string.")) := by
      simp [move,blank,lexeme]
    exact absurd rfl (closed _ read)
  · have alone : isLexeme [c] = false := by
      cases found : isLexeme [c] with
      | false => rfl
      | true => exact absurd (longest_pos found) lexeme
    have slash : c ≠ '/' := by
      rintro rfl
      exact absurd alone (by decide)
    have none : longest (c :: (rest ++ '\n' :: b)) = 0 := longest_stray alone quote
    simp [move,blank,slash,lexeme,none,quote]

/-- Scanning a text, a line break and a second text, when the first text leaves no string open,
yields the items of the first text, then those of the second scanned from the line after the
first text ends. -/
theorem items_append_newline (a b : List Char) (line : Nat)
    (closed : ∀ e ∈ Scanner.errorsOf (Scanner.items a line).1, e.message ≠ "Unterminated string.") :
    Scanner.items (a ++ '\n' :: b) line =
      ((Scanner.items a line).1 ++ (Scanner.items b ((Scanner.items a line).2 + 1)).1,
        (Scanner.items b ((Scanner.items a line).2 + 1)).2) := by
  induction a,line using Scanner.locatedFrom.induct with
  | case1 line =>
    -- the line break itself yields nothing and moves the line
    rw [List.nil_append,items_cons]
    simp [move,isBlank,Scanner.items]
  | case2 c input line s ih =>
    obtain ⟨-,dropped,counted⟩ := step_agrees c input line
    simp only [s,dropped,counted] at ih
    -- the errors of the first text are those of its first move and of the rest
    have errors : ∀ e, e ∈ Scanner.errorsOf (Scanner.items (c :: input) line).1 ↔
        (move c input line).1 = some (.error e) ∨
          e ∈ Scanner.errorsOf (Scanner.items ((c :: input).drop (move c input line).2)
            (line + ((c :: input).take (move c input line).2).count '\n')).1 := by
      intro e
      rw [items_cons]
      simp [Scanner.mem_errorsOf,eq_comm]
    have first : ∀ e, (move c input line).1 = some (.error e) → e.message ≠ "Unterminated string." :=
      fun e read => closed e ((errors e).mpr (.inl read))
    have later := ih fun e member => closed e ((errors e).mpr (.inr member))
    have fits := move_fits c input line
    rw [List.cons_append,items_cons,move_append_newline b first,items_cons,← List.cons_append]
    dsimp only
    rw [List.drop_append_of_le_length fits,List.take_append_of_le_length fits,later]
    simp

end LongestMatch

namespace Scanner
open LongestMatch

/-- A source split at a line break scans as its two halves: when the first half leaves no string
open, the items of the whole are the items of the first half followed by those of the second moved
down by one more than the line breaks of the first, and the whole ends that many lines below the
second half. -/
theorem itemsOf_append_newline (a b : String)
    (closed : ∀ e ∈ errorsOf (itemsOf a), e.message ≠ "Unterminated string.") :
    itemsOf (a ++ "\n" ++ b) = itemsOf a ++ (itemsOf b).map (shift (1 + a.toList.count '\n')) ∧
      lastLine (a ++ "\n" ++ b) = lastLine b + (1 + a.toList.count '\n') := by
  have joined : (a ++ "\n" ++ b).toList = a.toList ++ '\n' :: b.toList := by simp
  have ends : (items a.toList 1).2 + 1 = 1 + (1 + a.toList.count '\n') := by
    rw [items_line]
    omega
  have split := items_append_newline a.toList b.toList 1 closed
  rw [ends,items_shift] at split
  exact ⟨by rw [itemsOf,joined,split]; rfl,by rw [lastLine,joined,split]; rfl⟩

theorem itemsOf_append_newline_slashes :
    (∀ e ∈ errorsOf (itemsOf "x /"), e.message ≠ "Unterminated string.") ∧
      (itemsOf ("x /" ++ "\n" ++ "/ y") =
          itemsOf "x /" ++ (itemsOf "/ y").map (shift (1 + "x /".toList.count '\n')) ∧
        lastLine ("x /" ++ "\n" ++ "/ y") = lastLine "/ y" + (1 + "x /".toList.count '\n')) := by
  have closed : ∀ e ∈ errorsOf (itemsOf "x /"), e.message ≠ "Unterminated string." := by
    simp [itemsOf,items,step,word,isWordPart,isWordStart,emit,skip,slash,errorsOf,errorOf]
  exact ⟨closed,itemsOf_append_newline "x /" "/ y" closed⟩

end Scanner
end LoxFront
