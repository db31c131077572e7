import LoxFront.Proofs.Scanner.Lines
import Mathlib.Data.List.Forall2

/-! Characters that start no lexeme. The scanner reports each one as unexpected and goes on with
the next character. Main statement: replacing every reported character by a blank leaves the
scan as it was, less those reports, so a stray character never disturbs the tokens or the lines
of anything around it. The proof reads the scanner as the longest-match lexer: a reported
character stands where a move starts, never inside what a move reads, and a lexeme that would
reach over a blank is a string, which no reported character ends. -/
namespace LoxFront
namespace Scanner

/-- An item that reports a character no lexeme starts with. -/
def IsUnexpected : Except Error Token → Prop
  | .ok _ => False
  | .error e => e.kind = .lexical ∧ ∃ c : Char, e.message = "Unexpected character: " ++ c.toString

def reportsUnexpected : Except Error Token → Bool
  | .ok _ => false
  | .error e =>
    match e.message.toList.getLast? with
    | some c => e.kind == .lexical && e.message == "Unexpected character: " ++ c.toString
    | none => false

theorem reportsUnexpected_iff (x : Except Error Token) :
    reportsUnexpected x = true ↔ IsUnexpected x := by
  cases x with
  | ok t => simp [reportsUnexpected,IsUnexpected]
  | error e =>
    simp only [reportsUnexpected,IsUnexpected]
    constructor
    · intro named
      split at named
      · simp only [Bool.and_eq_true,beq_iff_eq] at named
        exact ⟨named.1,_,named.2⟩
      · cases named
    · rintro ⟨lexical,c,named⟩
      simp [named,lexical]

instance : DecidablePred IsUnexpected := fun x =>
  decidable_of_iff _ (reportsUnexpected_iff x)

theorem isUnexpected_report (line : Nat) (c : Char) :
    IsUnexpected (.error (Error.lexical line ("Unexpected character: " ++ c.toString))) :=
  ⟨rfl,c,rfl⟩

end Scanner

namespace LongestMatch
open Lexeme

def isStray (c : Char) : Bool := !isBlank c && !isLexeme [c] && c != '"'

theorem move_stray {c : Char} (stray : isStray c) (rest : List Char) (line : Nat) :
    move c rest line =
      (some (.error (Error.lexical line ("Unexpected character: " ++ c.toString))),1) := by
  simp only [isStray,Bool.and_eq_true,Bool.not_eq_true',bne_iff_ne,ne_eq] at stray
  obtain ⟨⟨blank,alone⟩,quote⟩ := stray
  have slash : c ≠ '/' := by rintro rfl; exact absurd alone (by decide)
  simp [move,blank,slash,longest_stray alone quote,quote]

theorem stray_ne_newline {c : Char} (stray : isStray c) : c ≠ '\n' := by
  rintro rfl
  simp [isStray,isBlank] at stray

theorem move_width (c : Char) (rest : List Char) (line line' : Nat) :
    (move c rest line).2 = (move c rest line').2 := by
  unfold move
  split_ifs <;> rfl

theorem move_fits (c : Char) (rest : List Char) (line : Nat) :
    (move c rest line).2 ≤ rest.length + 1 := by
  unfold move
  split_ifs
  · simp
  · have := (List.takeWhile_prefix (· != '\n') (l := rest)).length_le
    omega
  · exact Nat.findGreatest_le _
  · exact Nat.le_refl _
  · simp

theorem stray_of_unread {c : Char} {rest : List Char} (blank : ¬isBlank c)
    (lexeme : ¬0 < longest (c :: rest)) (quote : ¬c = '"') : isStray c := by
  have alone : isLexeme [c] = false := by
    cases found : isLexeme [c] with
    | false => rfl
    | true => exact absurd (longest_pos found) lexeme
  simp [isStray,blank,alone,quote]

theorem move_known {c : Char} {rest : List Char} {line : Nat} {x : Except Error Token}
    (known : isStray c = false) (read : (move c rest line).1 = some x) :
    ¬Scanner.IsUnexpected x := by
  unfold move at read
  split_ifs at read with blank comment lexeme quote
  · cases read
    simp [Scanner.IsUnexpected]
  · cases read
    rintro ⟨-,d,named⟩
    have size := congrArg (fun m => m.toList.length) named
    simp [Error.lexical] at size
  · exact absurd (stray_of_unread blank lexeme quote) (by simp [known])

/-- `Y` is `X` with some of the characters that the lexer reports replaced by blanks. -/
def Blanked (X Y : List Char) : Prop :=
  List.Forall₂ (fun a b => b = a ∨ isStray a ∧ b = ' ') X Y

theorem blanked_refl (X : List Char) : Blanked X X :=
  List.forall₂_same.mpr fun _ _ => .inl rfl

theorem blanked_take_append {X Y : List Char} (k : Nat) (blanked : Blanked (X.drop k) Y) :
    Blanked X (X.take k ++ Y) := by
  have joined : Blanked (X.take k ++ X.drop k) (X.take k ++ Y) :=
    List.rel_append (blanked_refl (X.take k)) blanked
  rwa [List.take_append_drop] at joined

theorem head_of_blanked {X Y : List Char} {d : Char} (blanked : Blanked X Y)
    (head : Y.head? = some d) (plain : d ≠ ' ') : X.head? = some d := by
  cases blanked with
  | nil => simp at head
  | cons related _ =>
    simp only [List.head?_cons,Option.some.injEq] at head ⊢
    subst head
    rcases related with same | ⟨-,blank⟩
    · exact same.symm
    · exact absurd blank plain

theorem head_blanked {X Y : List Char} {d : Char} (blanked : Blanked X Y)
    (head : X.head? = some d) (kept : isStray d = false) : Y.head? = some d := by
  cases blanked with
  | nil => simp at head
  | cons related _ =>
    simp only [List.head?_cons,Option.some.injEq] at head ⊢
    subst head
    rcases related with same | ⟨stray,-⟩
    · exact same
    · simp [kept] at stray

theorem prefix_of_blanked {X Y e : List Char} (blanked : Blanked X Y) (prefixed : e <+: Y)
    (plain : ' ' ∉ e) : e <+: X := by
  induction e generalizing X Y with
  | nil => exact List.nil_prefix
  | cons d e ih =>
    cases blanked with
    | nil => exact absurd prefixed (by simp)
    | @cons a b X Y related rest =>
      obtain ⟨rfl,after⟩ := List.cons_prefix_cons.mp prefixed
      have same : d = a := by
        rcases related with same | ⟨-,blank⟩
        · exact same
        · exact absurd (blank ▸ List.mem_cons_self) plain
      subst same
      exact List.cons_prefix_cons.mpr ⟨rfl,ih rest after fun blank => plain (List.mem_cons_of_mem d blank)⟩

theorem longest_blanked {p X Y : List Char} (nonempty : p ≠ [])
    (read : longest (p ++ X) = p.length) (blanked : Blanked X Y) :
    longest (p ++ Y) = p.length := by
  obtain ⟨lexeme,maximal⟩ := maximal_of_longest nonempty read
  apply longest_append lexeme
  intro e extra prefixed longer
  have plain : ' ' ∉ e := fun blank =>
    not_mem_extension nonempty extra lexeme longer (by decide) (List.mem_append_right p blank)
  exact maximal e extra (prefix_of_blanked blanked prefixed plain) longer

theorem move_blanked_comment {rest Y : List Char} {line : Nat} (head : rest.head? = some '/')
    (blanked : Blanked (rest.dropWhile (· != '\n')) Y) :
    move '/' (rest.takeWhile (· != '\n') ++ Y) line = move '/' rest line := by
  have whole : Blanked rest (rest.takeWhile (· != '\n') ++ Y) := by
    have joined := blanked_take_append (rest.takeWhile (· != '\n')).length
      (by rwa [drop_takeWhile] : Blanked (rest.drop (rest.takeWhile (· != '\n')).length) Y)
    rwa [take_takeWhile] at joined
  have head' := head_blanked whole head (by decide)
  -- what follows the comment is empty or starts with its line break, blanked or not
  have stop : Y.takeWhile (· != '\n') = [] := by
    cases after : rest.dropWhile (· != '\n') with
    | nil =>
      rw [after] at blanked
      rw [List.forall₂_nil_left_iff.mp blanked]
      rfl
    | cons d X =>
      have newline : d = '\n' := by simpa [after] using List.head?_dropWhile_not (· != '\n') rest
      rw [after] at blanked
      have first : Y.head? = some '\n' := head_blanked blanked (by simp [newline]) (by decide)
      cases Y with
      | nil => simp at first
      | cons e Y => simp_all
  have kept : (rest.takeWhile (· != '\n') ++ Y).takeWhile (· != '\n') =
      rest.takeWhile (· != '\n') := by
    have inside : ∀ a ∈ rest.takeWhile (· != '\n'), (a != '\n') = true :=
      fun _ member => List.mem_takeWhile_imp (p := (· != '\n')) member
    rw [List.takeWhile_append_of_pos inside,stop,List.append_nil]
  simp [move,isBlank,head,head',kept]

theorem move_blanked_token {c : Char} {rest Y : List Char} {line : Nat} (blank : ¬isBlank c)
    (comment : ¬(c = '/' ∧ rest.head? = some '/')) (lexeme : 0 < longest (c :: rest))
    (blanked : Blanked (rest.drop (longest (c :: rest) - 1)) Y) :
    move c (rest.take (longest (c :: rest) - 1) ++ Y) line = move c rest line := by
  have fits : longest (c :: rest) ≤ rest.length + 1 := Nat.findGreatest_le _
  generalize size : longest (c :: rest) = n at lexeme fits blanked
  obtain ⟨k,rfl⟩ : ∃ k, n = k + 1 := ⟨n - 1,by omega⟩
  simp only [Nat.add_sub_cancel] at blanked ⊢
  have front : (c :: rest).take (k + 1) = c :: rest.take k := List.take_succ_cons
  have read : longest ((c :: rest).take (k + 1) ++ rest.drop k) = ((c :: rest).take (k + 1)).length := by
    rw [front,List.cons_append,List.take_append_drop,size]
    simp
    omega
  have same : longest (c :: (rest.take k ++ Y)) = k + 1 := by
    have := longest_blanked (by simp) read blanked
    rw [front] at this
    simpa [Nat.min_eq_left (show k ≤ rest.length by omega)] using this
  have comment' : ¬(c = '/' ∧ (rest.take k ++ Y).head? = some '/') := by
    rintro ⟨rfl,head⟩
    exact comment ⟨rfl,head_of_blanked (blanked_take_append k blanked) head (by decide)⟩
  have taken : (c :: (rest.take k ++ Y)).take (k + 1) = (c :: rest).take (k + 1) := by
    have short : k ≤ (rest.take k).length := by simp; omega
    rw [front,List.take_succ_cons,List.take_append_of_le_length short,List.take_take,Nat.min_self]
  simp only [move,blank,comment,comment',same,size,taken,if_false]
  simp

theorem move_blanked {c : Char} {rest Y : List Char} {line : Nat} (known : isStray c = false)
    (blanked : Blanked (rest.drop ((move c rest line).2 - 1)) Y) :
    move c (rest.take ((move c rest line).2 - 1) ++ Y) line = move c rest line := by
  by_cases blank : isBlank c
  · simp [move,blank]
  by_cases comment : c = '/' ∧ rest.head? = some '/'
  · obtain ⟨rfl,head⟩ := comment
    have width : (move '/' rest line).2 - 1 = (rest.takeWhile (· != '\n')).length := by
      simp [move,isBlank,head]
    rw [width,drop_takeWhile] at blanked
    rw [width,take_takeWhile]
    exact move_blanked_comment head blanked
  by_cases lexeme : 0 < longest (c :: rest)
  · have width : (move c rest line).2 = longest (c :: rest) := by simp [move,blank,comment,lexeme]
    rw [width] at blanked ⊢
    exact move_blanked_token blank comment lexeme blanked
  by_cases quote : c = '"'
  · -- a string that never closes reads the whole input, so nothing is blanked after it
    subst quote
    have width : (move '"' rest line).2 - 1 = rest.length := by simp [move,blank,lexeme]
    rw [width,List.drop_length] at blanked
    rw [width,List.take_length,List.forall₂_nil_left_iff.mp blanked,List.append_nil]
  · exact absurd (stray_of_unread blank lexeme quote) (by simp [known])

/-- The input with every character that the lexer reports replaced by a blank. The width of a
move does not depend on its line, so the walk takes its moves on the first line. -/
def quiet : List Char → List Char
  | [] => []
  | c :: rest =>
    if isStray c then ' ' :: quiet rest
    else (c :: rest).take (move c rest 1).2 ++ quiet ((c :: rest).drop (move c rest 1).2)
termination_by cs => cs.length
decreasing_by
  · simp
  · have := move_reads c rest 1
    simp only [List.length_drop,List.length_cons]
    omega

theorem blanked_quiet (input : List Char) : Blanked input (quiet input) := by
  induction input using quiet.induct with
  | case1 => rw [quiet]; exact .nil
  | case2 c rest stray ih =>
    rw [quiet,if_pos stray]
    exact .cons (.inr ⟨stray,rfl⟩) ih
  | case3 c rest known ih =>
    rw [quiet,if_neg known]
    exact blanked_take_append _ ih

/-- Scanning the blanked input yields the items of the input less the reports. -/
theorem items_quiet (input : List Char) (line : Nat) :
    (Scanner.items (quiet input) line).1 =
      (Scanner.items input line).1.filter fun x => ¬Scanner.IsUnexpected x := by
  induction input using quiet.induct generalizing line with
  | case1 => simp [quiet,Scanner.items]
  | case2 c rest stray ih =>
    -- the blank is skipped where the character was reported
    have newline := stray_ne_newline stray
    have skip : move ' ' (quiet rest) line = (none,1) := by simp [move,isBlank]
    have report := Scanner.isUnexpected_report line c
    rw [quiet,if_pos stray,items_cons,items_cons,skip,move_stray stray]
    simp only [Option.toList_some,List.singleton_append,Option.toList_none,List.nil_append]
    rw [List.filter_cons_of_neg (by simpa using report)]
    simp [ih,newline]
  | case3 c rest known ih =>
    -- the move reads the same text before the blanks, and yields no report
    have width := move_width c rest line 1
    have fits := move_fits c rest line
    have same : move c (rest.take ((move c rest line).2 - 1) ++
        quiet (rest.drop ((move c rest line).2 - 1))) line = move c rest line :=
      move_blanked (by simpa using known) (blanked_quiet _)
    have kept : ∀ x ∈ (move c rest line).1, ¬Scanner.IsUnexpected x :=
      fun x read => move_known (by simpa using known) read
    obtain ⟨k,wide⟩ : ∃ k, (move c rest line).2 = k + 1 := ⟨_,(Nat.succ_pred_eq_of_pos (move_reads c rest line)).symm⟩
    have short : (rest.take k).length = k := by simp; omega
    rw [quiet,if_neg known,← width,wide,List.take_succ_cons,List.drop_succ_cons,List.cons_append]
    rw [wide,Nat.add_sub_cancel] at same
    rw [items_cons,same,items_cons]
    simp only [wide,List.take_succ_cons,List.drop_succ_cons,List.take_left' short,List.drop_left' short]
    rw [← width,wide,List.drop_succ_cons] at ih
    rw [ih]
    cases found : (move c rest line).1 with
    | none => simp
    | some x => simp [kept x found]

end LongestMatch

namespace Scanner
open LongestMatch

def unexpectedFrom (source input : List Char) (line : Nat) : List Nat :=
  ((locatedFrom source input line).filter fun p => decide (IsUnexpected p.2)).map Prod.fst

def unexpectedOffsets (s : String) : List Nat := unexpectedFrom s.toList s.toList 1

def blankAt (offsets : List Nat) (cs : List Char) : List Char :=
  cs.mapIdx fun i c => if i ∈ offsets then ' ' else c

theorem locatedFrom_after (source input : List Char) (line : Nat) :
    ∀ p ∈ locatedFrom source input line, source.length - input.length ≤ p.1 := by
  induction input,line using locatedFrom.induct with
  | case1 line => simp [locatedFrom]
  | case2 c input line s ih =>
    have shorter := s.shorter
    rw [locatedFrom]
    intro p member
    rcases List.mem_append.mp member with here | later
    · cases found : (step c input line).item with
      | none => simp [found] at here
      | some x =>
        simp only [found,Option.map_some,Option.toList_some,List.mem_singleton] at here
        simp [here]
    · have := ih p later
      simp only [List.length_cons] at this ⊢
      omega

theorem unexpectedFrom_after {source input : List Char} {line i : Nat}
    (member : i ∈ unexpectedFrom source input line) : source.length - input.length ≤ i := by
  obtain ⟨p,found,rfl⟩ := List.mem_map.mp member
  exact locatedFrom_after source input line p (List.mem_filter.mp found).1

theorem mapIdx_keep {cs : List Char} {P : Nat → Prop} [DecidablePred P]
    (none : ∀ j < cs.length, ¬P j) : cs.mapIdx (fun j d => if P j then ' ' else d) = cs := by
  rw [List.mapIdx_eq_iff]
  intro i
  cases found : cs[i]? with
  | none => rfl
  | some d =>
    have bound : i < cs.length := (List.getElem?_eq_some_iff.mp found).1
    simp [none i bound]

theorem mapIdx_unexpectedFrom (source before input : List Char) (line : Nat)
    (whole : source = before ++ input) :
    input.mapIdx (fun j d => if before.length + j ∈ unexpectedFrom source input line then ' ' else d) =
      quiet input := by
  induction input,line using locatedFrom.induct generalizing before with
  | case1 line => simp [quiet]
  | case2 c input line s ih =>
    obtain ⟨same,dropped,counted⟩ := step_agrees c input line
    have offset : source.length - (c :: input).length = before.length := by simp [whole]
    by_cases stray : isStray c
    · -- the character is reported: its offset comes first, and the scan goes on after it
      have read := move_stray stray input line
      have newline := stray_ne_newline stray
      have rest : (step c input line).rest = input := by simp [dropped,read]
      have line' : (step c input line).line = line := by simp [counted,read,newline]
      simp only [s,rest,line'] at ih
      have ih' := ih (before ++ [c]) (by simp [whole])
      have first : unexpectedFrom source (c :: input) line =
          before.length :: unexpectedFrom source input line := by
        rw [unexpectedFrom,locatedFrom]
        simp only [same,read,rest,line',offset,Option.map_some,Option.toList_some,
          List.singleton_append]
        rw [List.filter_cons_of_pos (by simpa using isUnexpected_report line c)]
        rfl
      rw [first,List.mapIdx_cons,quiet,if_pos stray]
      congr 1
      · simp
      · rw [← ih']
        congr 1
        funext j d
        have moved : (before ++ [c]).length + j = before.length + (j + 1) := by simp; omega
        rw [moved]
        simp
    · -- the move yields no report: what it reads is kept, and the offsets are those after it
      have known : isStray c = false := by simpa using stray
      have first : unexpectedFrom source (c :: input) line =
          unexpectedFrom source (step c input line).rest (step c input line).line := by
        rw [unexpectedFrom,locatedFrom]
        cases found : (step c input line).item with
        | none => simp [unexpectedFrom]
        | some x => simp [unexpectedFrom,move_known known (same ▸ found)]
      simp only [s] at ih
      have ih' := ih (before ++ (c :: input).take (move c input line).2)
        (by rw [whole,dropped,List.append_assoc,List.take_append_drop])
      rw [first,quiet,if_neg stray,← move_width c input line 1,← dropped]
      conv_lhs => rw [← List.take_append_drop (move c input line).2 (c :: input)]
      rw [List.mapIdx_append,← dropped,← ih']
      congr 1
      · apply mapIdx_keep
        intro j bound member
        have after := unexpectedFrom_after member
        have fits := move_fits c input line
        rw [dropped] at after
        simp only [List.length_take,List.length_cons,List.length_drop,whole,
          List.length_append] at after bound
        omega
      · congr 1
        funext j d
        have moved : (before ++ (c :: input).take (move c input line).2).length + j =
            before.length + (j + ((c :: input).take (move c input line).2).length) := by
          simp only [List.length_append]
          omega
        rw [moved]

/-- Blanking every character that the scan reports as unexpected leaves the scan as it was, less
those reports: the same tokens on the same lines, and the other errors, in the same order. -/
theorem itemsOf_blankAt_unexpected (s : String) :
    itemsOf (String.ofList (blankAt (unexpectedOffsets s) s.toList)) =
      (itemsOf s).filter fun x => ¬IsUnexpected x := by
  have blanked : blankAt (unexpectedOffsets s) s.toList = quiet s.toList := by
    have walk := mapIdx_unexpectedFrom s.toList [] s.toList 1 rfl
    simp only [List.length_nil,Nat.zero_add] at walk
    exact walk
  rw [itemsOf,String.toList_ofList,blanked,items_quiet]
  rfl

end Scanner
end LoxFront
