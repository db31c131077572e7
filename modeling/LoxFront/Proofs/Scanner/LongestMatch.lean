import LoxFront.Proofs.Scanner.Lexeme

/-! A longest-match lexer for the language, written from the token language rather than from the
scanner: blanks are skipped, a line comment runs up to its line break, and otherwise the longest
prefix that is a lexeme becomes a token on the line where it starts. Where no prefix is a lexeme,
a double quote opens a string that never closes and any other character is reported. Main
statement: the scanner yields exactly the items of this lexer, on every source. -/
namespace LoxFront.LongestMatch
open Lexeme

def isBlank (c : Char) : Bool := c == ' ' || c == '\r' || c == '\t' || c == '\n'

theorem isBlank_iff {c : Char} : isBlank c ↔ c = ' ' ∨ c = '\r' ∨ c = '\t' ∨ c = '\n' := by
  simp [isBlank,or_assoc]

/-- What the lexer does at `c :: rest` on line `line`: the item it yields, if any, and how many
characters it reads. -/
def move (c : Char) (rest : List Char) (line : Nat) : Option (Except Error Token) × Nat :=
  if isBlank c then (none,1)
  else if c = '/' ∧ rest.head? = some '/' then (none,1 + (rest.takeWhile (· != '\n')).length)
  else if 0 < longest (c :: rest) then
    (some (.ok (tokenOf ((c :: rest).take (longest (c :: rest))) line)),longest (c :: rest))
  else if c = '"' then
    (some (.error (Error.lexical (line + rest.count '\n') "Unterminated string.")),rest.length + 1)
  else (some (.error (Error.lexical line ("Unexpected character: " ++ c.toString))),1)

theorem move_reads (c : Char) (rest : List Char) (line : Nat) : 0 < (move c rest line).2 := by
  unfold move
  split_ifs with blank comment lexeme
  all_goals dsimp only
  · exact Nat.one_pos
  · omega
  · exact lexeme
  · omega
  · exact Nat.one_pos

def itemsFrom (before : List Char) : List Char → List (Except Error Token)
  | [] => []
  | c :: rest =>
    let m := move c rest (1 + before.count '\n')
    m.1.toList ++ itemsFrom (before ++ (c :: rest).take m.2) ((c :: rest).drop m.2)
termination_by rest => rest.length
decreasing_by
  have := move_reads c rest (1 + before.count '\n')
  simp only [List.length_drop,List.length_cons]
  omega

def items (source : List Char) : List (Except Error Token) := itemsFrom [] source

theorem move_token {c : Char} {rest : List Char} {line : Nat} {t : Token}
    (read : (move c rest line).1 = some (.ok t)) :
    t = tokenOf ((c :: rest).take (move c rest line).2) line := by
  unfold move at read ⊢
  split_ifs at read ⊢ <;> simp_all

theorem move_error {c : Char} {rest : List Char} {line : Nat} {e : Error}
    (read : (move c rest line).1 = some (.error e)) :
    ((move c rest line).2 = 1 ∧ e = Error.lexical line ("Unexpected character: " ++ c.toString)) ∨
      (c = '"' ∧ (move c rest line).2 = rest.length + 1 ∧
        e = Error.lexical (line + rest.count '\n') "Unterminated string.") := by
  unfold move at read ⊢
  split_ifs at read ⊢ <;> simp_all

/-! ### The scanner's steps are moves -/

/-- A step of the scanner agrees with a move of the lexer: it yields the same item and leaves the
input after the characters the move reads, on the line after their line breaks. -/
def Agrees (c : Char) (rest : List Char) (line : Nat) (s : Scanner.Step rest) : Prop :=
  s.item = (move c rest line).1 ∧ s.rest = (c :: rest).drop (move c rest line).2 ∧
    s.line = line + ((c :: rest).take (move c rest line).2).count '\n'

theorem agrees_single {o : Char} {rest : List Char} {line : Nat} {kind : TokenKind}
    (symbol : [o] ∈ operators.map Prod.fst)
    (alone : ∀ key ∈ operators.map Prod.fst, key.head? = some o → key = [o])
    (named : operatorKind? [o] = some kind) (blank : isBlank o = false) (slash : o ≠ '/') :
    Agrees o rest line (Scanner.emit kind [o] line rest (Nat.le_refl _)) := by
  have read : move o rest line = (some (.ok (tokenOf [o] line)),1) := by
    simp [move,blank,slash,longest_single symbol alone]
  have newline : o ≠ '\n' := by rintro rfl; simp [isBlank] at blank
  simp [Agrees,read,Scanner.emit,tokenOf,kindOf_symbol symbol,literalOf_symbol symbol,named,newline]

theorem agrees_operator {o second : Char} {input : List Char} {line : Nat} {long short : TokenKind}
    (symbol : [o] ∈ operators.map Prod.fst) (pair : [o,second] ∈ operators.map Prod.fst)
    (only : ∀ key ∈ operators.map Prod.fst, key.head? = some o → key = [o] ∨ key = [o,second])
    (named : operatorKind? [o,second] = some long ∧ operatorKind? [o] = some short)
    (blank : isBlank o = false) (slash : o ≠ '/') (newline : second ≠ '\n') :
    Agrees o input line (Scanner.operator o second long short input line) := by
  have first : o ≠ '\n' := by rintro rfl; simp [isBlank] at blank
  cases input with
  | nil =>
    have read : move o [] line = (some (.ok (tokenOf [o] line)),1) := by
      simp [move,blank,slash,longest_pair symbol pair only]
    simp [Agrees,read,Scanner.operator,Scanner.emit,tokenOf,kindOf_symbol symbol,
      literalOf_symbol symbol,named,first]
  | cons d rest =>
    by_cases paired : d = second
    · subst d
      have read : move o (second :: rest) line = (some (.ok (tokenOf [o,second] line)),2) := by
        simp [move,blank,slash,longest_pair symbol pair only]
      simp [Agrees,read,Scanner.operator,Scanner.emit,tokenOf,kindOf_symbol pair,
        literalOf_symbol pair,named,first,newline]
    · have read : move o (d :: rest) line = (some (.ok (tokenOf [o] line)),1) := by
        simp [move,blank,slash,longest_pair symbol pair only,paired]
      simp [Agrees,read,Scanner.operator,Scanner.emit,tokenOf,kindOf_symbol symbol,
        literalOf_symbol symbol,named,first,paired]

theorem drop_takeWhile {p : Char → Bool} {l : List Char} :
    l.drop (l.takeWhile p).length = l.dropWhile p := by
  have split := List.takeWhile_append_dropWhile (p := p) (l := l)
  calc l.drop (l.takeWhile p).length
      = (l.takeWhile p ++ l.dropWhile p).drop (l.takeWhile p).length := by rw [split]
    _ = l.dropWhile p := List.drop_left' rfl

theorem take_takeWhile {p : Char → Bool} {l : List Char} :
    l.take (l.takeWhile p).length = l.takeWhile p :=
  (List.prefix_iff_eq_take.mp (List.takeWhile_prefix p)).symm

private theorem count_takeWhile {l : List Char} : (l.takeWhile (· != '\n')).count '\n' = 0 :=
  List.count_eq_zero.mpr fun inside => by simpa using List.mem_takeWhile_imp inside

theorem agrees_slash {input : List Char} {line : Nat} :
    Agrees '/' input line (Scanner.slash input line) := by
  unfold Scanner.slash
  split
  · rename_i rest
    have read : move '/' ('/' :: rest) line = (none,(rest.takeWhile (· != '\n')).length + 2) := by
      simp [move,isBlank]
      omega
    refine ⟨by simp [read],?_,?_⟩
    · simp only [read,List.drop_succ_cons]
      exact drop_takeWhile.symm
    · simp [read,List.take_succ_cons,take_takeWhile,count_takeWhile]
  · rename_i other
    have first : input.head? ≠ some '/' := by
      intro head
      obtain ⟨rest,rfl⟩ : ∃ rest, input = '/' :: rest := by
        cases input with
        | nil => simp at head
        | cons d rest => exact ⟨rest,by simpa using head⟩
      exact other _ rfl
    have read : move '/' input line = (some (.ok (tokenOf ['/'] line)),1) := by
      have alone : longest ('/' :: input) = 1 := longest_single (by decide) (by decide)
      simp [move,isBlank,first,alone]
    have named : operatorKind? ['/'] = some .slash := by decide
    simp [Agrees,read,Scanner.emit,tokenOf,kindOf_symbol (p := ['/']) (by decide),
      literalOf_symbol (p := ['/']) (by decide),named]

theorem agrees_space {c : Char} {input : List Char} {line : Nat} (blank : isBlank c)
    (newline : c ≠ '\n') : Agrees c input line (Scanner.skip input line) := by
  simp [Agrees,move,blank,Scanner.skip,newline]

theorem agrees_newline {input : List Char} {line : Nat} :
    Agrees '\n' input line (Scanner.skip input (line + 1)) := by
  simp [Agrees,move,isBlank,Scanner.skip]

theorem agrees_string {input : List Char} {line : Nat} :
    Agrees '"' input line (Scanner.string input line) := by
  unfold Scanner.string
  split
  · rename_i unclosed
    have all : ∀ d ∈ input, (d != '"') = true := List.dropWhile_eq_nil_iff.mp unclosed
    have outside : '"' ∉ input := fun inside => by simpa using all _ inside
    have body : input.takeWhile (· != '"') = input := List.takeWhile_eq_self_iff.mpr all
    have read : move '"' input line = (some (.error (Error.lexical (line + input.count '\n')
        "Unterminated string.")),input.length + 1) := by
      simp [move,isBlank,longest_open outside]
    refine ⟨by simp only [read,body]; rfl,by simp [read],?_⟩
    simp only [read,body,List.take_succ_cons,List.take_length,List.count_cons]
    simp
  · rename_i q rest closed
    have quote : q = '"' := by
      have head := List.head_dropWhile_not (· != '"') (l := input) (by simp [closed])
      simp only [closed,List.head_cons] at head
      simpa using head
    subst q
    have split : input = input.takeWhile (· != '"') ++ '"' :: rest := by
      conv_lhs => rw [← List.takeWhile_append_dropWhile (p := (· != '"')) (l := input),closed]
    have outside : '"' ∉ input.takeWhile (· != '"') := fun inside => by
      simpa using List.mem_takeWhile_imp inside
    generalize input.takeWhile (· != '"') = body at split outside ⊢
    subst input
    have read : move '"' (body ++ '"' :: rest) line =
        (some (.ok (tokenOf ('"' :: (body ++ ['"'])) line)),body.length + 2) := by
      simp [move,isBlank,longest_closed outside,List.take_append,List.take_of_length_le]
    simp [Agrees,read,tokenOf,kindOf_quote outside,literalOf_quote outside,List.take_append,
      List.drop_append,List.take_of_length_le]

theorem plain_of_start {c : Char} (start : c.isDigit ∨ Scanner.isWordStart c) :
    isBlank c = false ∧ c ≠ '/' := by
  constructor
  · cases found : isBlank c with
    | false => rfl
    | true =>
      rcases isBlank_iff.mp found with rfl | rfl | rfl | rfl <;> exact absurd start (by decide)
  · rintro rfl
    exact absurd start (by decide)

theorem agrees_number {c : Char} {input : List Char} {line : Nat} (digit : c.isDigit) :
    Agrees c input line (Scanner.number c input line) := by
  -- the numeral is the run of digits and the fraction that follows it
  have split : c :: input = (c :: input.takeWhile Char.isDigit ++
      (Scanner.fractionOf (input.dropWhile Char.isDigit)).1) ++
        (Scanner.fractionOf (input.dropWhile Char.isDigit)).2 := by
    simp [fractionOf_append]
  have size : longest (c :: input) = (c :: input.takeWhile Char.isDigit ++
      (Scanner.fractionOf (input.dropWhile Char.isDigit)).1).length := by
    rw [longest_numeral digit]
    simp
    omega
  generalize numeralIs : c :: input.takeWhile Char.isDigit ++
    (Scanner.fractionOf (input.dropWhile Char.isDigit)).1 = p at split size
  have numeral : isNumeral p := by
    have lexeme := (maximal_of_longest (by simp [← numeralIs]) (split ▸ size)).1
    rw [← numeralIs,List.cons_append,isLexeme_digit digit,← List.cons_append,numeralIs] at lexeme
    exact lexeme
  obtain ⟨blank,slash⟩ := plain_of_start (.inl digit)
  have read : move c input line = (some (.ok (tokenOf p line)),p.length) := by
    simp only [move,blank,slash,size,Bool.false_eq_true,if_false,false_and]
    rw [if_pos (by simp [← numeralIs]),split,List.take_left' rfl]
  have newlines : p.count '\n' = 0 := List.count_eq_zero.mpr fun inside => by
    rcases isNumeral_mem numeral inside with digit | point
    · simp at digit
    · simp at point
  refine ⟨?_,?_,?_⟩
  · simp only [Scanner.number,read]
    rw [numeralIs,ofString?_numeral numeral]
    simp [tokenOf,kindOf_numeral numeral,literalOf,numeral]
  · simp only [Scanner.number,read]
    rw [split,List.drop_left' rfl]
  · simp only [Scanner.number,read]
    rw [split,List.take_left' rfl,newlines,Nat.add_zero]

theorem agrees_word {c : Char} {input : List Char} {line : Nat} (start : Scanner.isWordStart c) :
    Agrees c input line (Scanner.word c input line) := by
  have split : c :: input = (c :: input.takeWhile Scanner.isWordPart) ++
      input.dropWhile Scanner.isWordPart := by simp
  have word : isWord (c :: input.takeWhile Scanner.isWordPart) := by
    simp [isWord_cons,start,List.all_takeWhile]
  obtain ⟨blank,slash⟩ := plain_of_start (.inr start)
  have read : move c input line =
      (some (.ok (tokenOf (c :: input.takeWhile Scanner.isWordPart) line)),
        (input.takeWhile Scanner.isWordPart).length + 1) := by
    simp only [move,blank,slash,longest_word start,Bool.false_eq_true,if_false,false_and]
    rw [if_pos (by omega),Nat.add_comm,List.take_succ_cons,take_takeWhile]
  have newlines : (c :: input.takeWhile Scanner.isWordPart).count '\n' = 0 :=
    List.count_eq_zero.mpr fun inside => absurd (isWord_mem word inside) (by decide)
  refine ⟨?_,?_,?_⟩
  · simp [Scanner.word,Scanner.emit,read,tokenOf,kindOf,word,literalOf_word start]
  · simp only [Scanner.word,Scanner.emit,read]
    rw [List.drop_succ_cons,drop_takeWhile]
  · simp only [Scanner.word,Scanner.emit,read]
    rw [List.take_succ_cons,take_takeWhile,newlines,Nat.add_zero]

theorem agrees_stray {c : Char} {input : List Char} {line : Nat}
    (symbol : [c] ∉ operators.map Prod.fst) (digit : c.isDigit = false)
    (start : Scanner.isWordStart c = false) (blank : isBlank c = false) (quote : c ≠ '"') :
    Agrees c input line
      ⟨some (.error (Error.lexical line (LexFault.unexpected c).message)),input,line,Nat.le_refl _⟩ := by
  have alone : isLexeme [c] = false := by
    rw [isLexeme_of_symbol digit start quote]
    exact Bool.eq_false_iff.mpr fun found => symbol (operatorKind_isSome.mp found)
  have slash : c ≠ '/' := by rintro rfl; exact symbol (by decide)
  have newline : c ≠ '\n' := by rintro rfl; simp [isBlank] at blank
  have read : move c input line =
      (some (.error (Error.lexical line ("Unexpected character: " ++ c.toString))),1) := by
    simp only [move,blank,slash,longest_stray alone quote,quote,Bool.false_eq_true,if_false,
      false_and,Nat.lt_irrefl]
  refine ⟨by simp only [read]; rfl,by simp [read],by simp [read,newline]⟩

/-- Every step of the scanner is a move of the longest-match lexer. -/
theorem step_agrees (c : Char) (rest : List Char) (line : Nat) :
    Agrees c rest line (Scanner.step c rest line) := by
  unfold Scanner.step
  split
  case h_12 | h_13 | h_14 | h_15 | h_16 =>
    exact agrees_operator (by decide) (by decide) (by decide) (by decide) rfl (by decide) (by decide)
  case h_17 => exact agrees_slash
  case h_18 | h_19 | h_20 => exact agrees_space (by decide) (by decide)
  case h_21 => exact agrees_newline
  case h_22 => exact agrees_string
  case h_23 =>
    -- any other character: a digit, a letter or underscore, or a character no lexeme starts with
    split
    · exact agrees_number ‹_›
    split
    · exact agrees_word ‹_›
    apply agrees_stray
    · simp only [operators,List.map_cons,List.map_nil,List.mem_cons,List.cons.injEq,and_true,
        List.not_mem_nil,or_false]
      grind
    · simpa using ‹¬c.isDigit = true›
    · simpa using ‹¬Scanner.isWordStart c = true›
    · simp only [isBlank,Bool.or_eq_false_iff,beq_eq_false_iff_ne]
      grind
    · grind
  all_goals exact agrees_single (by decide) (by decide) (by decide) rfl (by decide)

theorem items_cons (c : Char) (rest : List Char) (line : Nat) :
    Scanner.items (c :: rest) line =
      let m := move c rest line
      let next := Scanner.items ((c :: rest).drop m.2) (line + ((c :: rest).take m.2).count '\n')
      (m.1.toList ++ next.1,next.2) := by
  obtain ⟨item,dropped,counted⟩ := step_agrees c rest line
  simp only [Scanner.items_cons_step,item,dropped,counted]

theorem items_eq_itemsFrom (before rest : List Char) :
    (Scanner.items rest (1 + before.count '\n')).1 = itemsFrom before rest := by
  induction before,rest using itemsFrom.induct with
  | case1 before => simp [Scanner.items,itemsFrom]
  | case2 before c rest m ih =>
    rw [items_cons,itemsFrom]
    simp only [m,List.count_append,Nat.add_assoc] at ih ⊢
    rw [ih]

end LoxFront.LongestMatch

namespace LoxFront.Scanner

/-- The scanner is the longest-match lexer of its token language: on every source it yields
exactly the items of `LongestMatch.items`, tokens and errors alike, in order and with their
lines. -/
theorem itemsOf_eq_longestMatch (source : String) :
    itemsOf source = LongestMatch.items source.toList :=
  LongestMatch.items_eq_itemsFrom [] source.toList

end LoxFront.Scanner
