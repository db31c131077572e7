import LoxFront.Proofs.Scanner.LongestMatch

/-! Where the items of a scan stand in the source. `Scanner.located` pairs each item with the
offset of the first character of its lexeme. Main statement: a token's line is one more than the
number of line breaks before it, and so is the line of an unexpected character; a string that
never closes is reported on the last line, and the scan ends on the line after the last line
break. The invariant behind it is that the line of a scan is one more than the line breaks it
has read. -/
namespace LoxFront.Scanner
open LongestMatch Lexeme

/-- The items of a scan of `source` that has `input` left on line `line`, each with the offset
of the first character of its lexeme. -/
def locatedFrom (source : List Char) : List Char → Nat → List (Nat × Except Error Token)
  | [],_ => []
  | c :: input,line =>
    let s := step c input line
    (s.item.map ((source.length - (c :: input).length,·))).toList ++ locatedFrom source s.rest s.line
termination_by input => input.length
decreasing_by exact Nat.lt_succ_of_le s.shorter

def located (source : String) : List (Nat × Except Error Token) :=
  locatedFrom source.toList source.toList 1

theorem map_locatedFrom (source input : List Char) (line : Nat) :
    (locatedFrom source input line).map Prod.snd = (items input line).1 := by
  induction input,line using locatedFrom.induct with
  | case1 line => simp [locatedFrom,items]
  | case2 c input line s ih =>
    rw [locatedFrom,items]
    simp only [s] at ih
    cases (step c input line).item <;> simp [ih]

theorem step_consumes (c : Char) (input : List Char) (line : Nat) :
    ∃ read, c :: input = read ++ (step c input line).rest ∧
      (step c input line).line = line + read.count '\n' := by
  obtain ⟨-,dropped,counted⟩ := step_agrees c input line
  exact ⟨_,by rw [dropped,List.take_append_drop],counted⟩

theorem items_line (input : List Char) (line : Nat) :
    (items input line).2 = line + input.count '\n' := by
  induction input,line using locatedFrom.induct with
  | case1 line => simp [items]
  | case2 c input line s ih =>
    obtain ⟨read,split,counted⟩ := step_consumes c input line
    rw [items_cons_step]
    dsimp only
    rw [ih,counted,split,List.count_append,Nat.add_assoc]

/-- What an item at offset `i` of `source` says about its place. A token's lexeme stands at `i`
and its line is one more than the line breaks before `i`; an unexpected character stands at `i`
and is reported on that line; a string that never closes opens at `i` and is reported on the
last line. -/
def Placed (source : List Char) : Nat × Except Error Token → Prop
  | (i,.ok t) =>
    t.lexeme.toList ≠ [] ∧ t.lexeme.toList <+: source.drop i ∧
      t.line = 1 + (source.take i).count '\n'
  | (i,.error e) =>
    (∃ c, source[i]? = some c ∧
      e = Error.lexical (1 + (source.take i).count '\n') ("Unexpected character: " ++ c.toString)) ∨
    (source[i]? = some '"' ∧ e = Error.lexical (1 + source.count '\n') "Unterminated string.")

theorem placed_move {source before input : List Char} {c : Char} {line : Nat}
    {x : Except Error Token} (whole : source = before ++ c :: input)
    (counted : line = 1 + before.count '\n') (read : (move c input line).1 = some x) :
    Placed source (before.length,x) := by
  subst whole counted
  cases x with
  | ok t =>
    have width := move_reads c input (1 + before.count '\n')
    obtain rfl := move_token read
    refine ⟨?_,by simpa [tokenOf] using List.take_prefix _ _,by simp [tokenOf]⟩
    simp only [tokenOf,String.toList_ofList,ne_eq,List.take_eq_nil_iff,reduceCtorEq,or_false]
    omega
  | error e =>
    rcases move_error read with ⟨-,rfl⟩ | ⟨rfl,-,rfl⟩
    · exact .inl ⟨c,by simp,by simp⟩
    · refine .inr ⟨by simp,?_⟩
      simp [List.count_append,Nat.add_assoc]

theorem locatedFrom_placed (source input : List Char) (line : Nat) (before : List Char)
    (whole : source = before ++ input) (counted : line = 1 + before.count '\n') :
    ∀ p ∈ locatedFrom source input line, Placed source p := by
  induction input,line using locatedFrom.induct generalizing before with
  | case1 line => simp [locatedFrom]
  | case2 c input line s ih =>
    obtain ⟨read,split,moved⟩ := step_consumes c input line
    have later := ih (before ++ read) (by rw [whole,split,List.append_assoc])
      (by rw [moved,counted,List.count_append,Nat.add_assoc])
    have offset : source.length - (c :: input).length = before.length := by
      simp [whole]
    rw [locatedFrom]
    simp only [s] at later
    cases found : (step c input line).item with
    | none => simpa using later
    | some x =>
      simp only [Option.map_some,Option.toList_some,List.singleton_append,List.mem_cons,
        forall_eq_or_imp,offset]
      exact ⟨placed_move whole counted ((step_agrees c input line).1 ▸ found),later⟩

/-- The scanner's line follows the source: every token is reported on the line where its first
character stands, an unexpected character on its own line, a string that never closes on the
last line, and the scan ends on the last line, one more than the line breaks of the source. -/
theorem lines_count_line_breaks (s : String) :
    (located s).map Prod.snd = itemsOf s ∧ (∀ p ∈ located s, Placed s.toList p) ∧
      lastLine s = 1 + s.toList.count '\n' ∧ lastLine s ≤ s.length + 1 := by
  have last : lastLine s = 1 + s.toList.count '\n' := by
    rw [lastLine,items_line,Nat.add_comm]
  refine ⟨map_locatedFrom _ _ _,locatedFrom_placed _ _ _ [] (by simp) (by simp),last,?_⟩
  have breaks : s.toList.count '\n' ≤ s.toList.length := List.count_le_length
  rw [last,← String.length_toList]
  omega

end LoxFront.Scanner
