import LoxFront.Expr
import Mathlib.Data.List.TakeWhile

/-! The prefix form of an expression read back. A tree prints as `(op left right)`, `(op right)`,
`(group inner)` or a literal's text, so the text shows the nodes, the lexemes of the operators and
the texts of the literals, and nothing else of the tree: `PrefixForm` is what it shows. Main
statement: when every operator and literal is one piece of text without blanks or parentheses,
and no operator is called `group`, two trees print alike exactly when they have the same prefix
form. The proof reads the form back: `PrefixForm.read` inverts the printer on every text that
follows a form without running into it. -/
namespace LoxFront

/-- What the prefix form of a tree shows: its nodes, the lexeme of each operator and the text of
each literal. -/
inductive PrefixForm where
  | binary (left : PrefixForm) (op : String) (right : PrefixForm)
  | grouping (inner : PrefixForm)
  | literal (text : String)
  | unary (op : String) (right : PrefixForm)
  deriving DecidableEq

def Expr.prefixForm : Expr → PrefixForm
  | binary left op right => .binary left.prefixForm op.lexeme right.prefixForm
  | grouping e => .grouping e.prefixForm
  | literal v => .literal v.text
  | unary op right => .unary op.lexeme right.prefixForm

namespace PrefixForm

def render : PrefixForm → List Char
  | binary left op right => '(' :: (op.toList ++ ' ' :: (left.render ++ ' ' :: (right.render ++ [')'])))
  | grouping f => '(' :: ("group".toList ++ ' ' :: (f.render ++ [')']))
  | literal text => text.toList
  | unary op right => '(' :: (op.toList ++ ' ' :: (right.render ++ [')']))

def isPieceChar (c : Char) : Bool := c != ' ' && c != '(' && c != ')'

def isPiece (s : String) : Bool := !s.toList.isEmpty && s.toList.all isPieceChar

def readable : PrefixForm → Bool
  | binary left op right => isPiece op && op != "group" && left.readable && right.readable
  | grouping f => f.readable
  | literal text => isPiece text
  | unary op right => isPiece op && op != "group" && right.readable

def depth : PrefixForm → Nat
  | binary left _ right => max left.depth right.depth + 1
  | grouping f => f.depth + 1
  | literal _ => 1
  | unary _ right => right.depth + 1

/-- A text that no form runs into: empty, or starting with a blank or a closing parenthesis. -/
def isBoundary : List Char → Bool
  | [] => true
  | c :: _ => c == ' ' || c == ')'

/-- Reads one form, nested at most `n` deep, from the front of a text. A node is an opening
parenthesis, a name up to a blank, the blank and a first child, then either the closing
parenthesis or a blank, a second child and the closing parenthesis; a node of one child called
`group` is a grouping. Any other text is a literal, up to a blank or a parenthesis. -/
def read : Nat → List Char → Option (PrefixForm × List Char)
  | 0, _ => none
  | _ + 1, [] => none
  | n + 1, c :: cs =>
    if c = '(' then
      let name := cs.takeWhile (· != ' ')
      match read n ((cs.dropWhile (· != ' ')).drop 1) with
      | some (first, d :: rest) =>
        if d = ')' then
          some (if name = "group".toList then .grouping first else .unary (String.ofList name) first,
            rest)
        else if d = ' ' then
          match read n rest with
          | some (second, e :: rest') =>
            if e = ')' then some (.binary first (String.ofList name) second, rest') else none
          | _ => none
        else none
      | _ => none
    else
      let piece := (c :: cs).takeWhile isPieceChar
      if piece.isEmpty then none
      else some (.literal (String.ofList piece), (c :: cs).dropWhile isPieceChar)

theorem split_run {p : Char → Bool} {s r : List Char} (inside : ∀ c ∈ s, p c)
    (stop : ∀ c ∈ r.head?, p c = false) :
    (s ++ r).takeWhile p = s ∧ (s ++ r).dropWhile p = r := by
  rw [List.takeWhile_append_of_pos inside,List.dropWhile_append_of_pos inside]
  cases r with
  | nil => simp
  | cons c r =>
    have failed : p c = false := stop c rfl
    simp [List.takeWhile_cons_of_neg,List.dropWhile_cons_of_neg,failed]

theorem blank_not_mem_piece {s : String} (piece : isPiece s) : ∀ c ∈ s.toList, c ≠ ' ' := by
  intro c member
  have := List.all_eq_true.mp (Bool.and_eq_true_iff.mp piece).2 c member
  simp only [isPieceChar,Bool.and_eq_true,bne_iff_ne] at this
  exact this.1.1

theorem read_literal {text : String} (piece : isPiece text) {rest : List Char}
    (after : isBoundary rest) (n : Nat) :
    read (n + 1) (text.toList ++ rest) = some (.literal text,rest) := by
  simp only [isPiece,Bool.and_eq_true,Bool.not_eq_true',List.isEmpty_eq_false_iff] at piece
  obtain ⟨nonempty,pieceChars⟩ := piece
  have ⟨taken,dropped⟩ : (text.toList ++ rest).takeWhile isPieceChar = text.toList ∧
      (text.toList ++ rest).dropWhile isPieceChar = rest := by
    apply split_run (List.all_eq_true.mp pieceChars)
    cases rest with
    | nil => simp
    | cons c rest =>
      simp only [isBoundary,Bool.or_eq_true,beq_iff_eq] at after
      rcases after with rfl | rfl <;> simp [isPieceChar]
  obtain ⟨c,cs,split⟩ := List.exists_cons_of_ne_nil nonempty
  have opening : c ≠ '(' := by
    have := List.all_eq_true.mp pieceChars c (by simp [split])
    rintro rfl
    simp [isPieceChar] at this
  have named : text ≠ "" := fun empty => nonempty (by simp [empty])
  rw [split,List.cons_append] at taken dropped ⊢
  simp [read,opening,taken,dropped,← split,named]

theorem read_node {name body : List Char} (named : ∀ c ∈ name, c ≠ ' ') (n : Nat) :
    read (n + 1) ('(' :: (name ++ ' ' :: body)) =
      match read n body with
      | some (first, d :: rest) =>
        if d = ')' then
          some (if name = "group".toList then .grouping first else .unary (String.ofList name) first,
            rest)
        else if d = ' ' then
          match read n rest with
          | some (second, e :: rest') =>
            if e = ')' then some (.binary first (String.ofList name) second, rest') else none
          | _ => none
        else none
      | _ => none := by
  have ⟨taken,dropped⟩ := split_run (p := (· != ' ')) (s := name) (r := ' ' :: body)
    (by simpa using named) (by simp)
  simp only [read,if_true,taken,dropped,List.drop_succ_cons,List.drop_zero]

theorem exists_eq_succ_of_depth_le {f : PrefixForm} {n : Nat} (enough : f.depth ≤ n) :
    ∃ m, n = m + 1 := by
  have deep : 0 < f.depth := by cases f <;> simp [depth]
  exact ⟨n - 1,by omega⟩

/-- Printing a readable form and reading it back gives the form, and leaves whatever follows it,
as long as that does not run into it. -/
theorem read_render {f : PrefixForm} (readable : f.readable) (rest : List Char)
    (after : isBoundary rest) {n : Nat} (enough : f.depth ≤ n) :
    read n (f.render ++ rest) = some (f,rest) := by
  -- induction on the form; every child is read before a blank or a closing parenthesis
  induction f generalizing n rest with
  | literal text =>
    obtain ⟨n,rfl⟩ := exists_eq_succ_of_depth_le enough
    exact read_literal readable after n
  | grouping f ih =>
    obtain ⟨n,rfl⟩ := exists_eq_succ_of_depth_le enough
    have fits : f.depth ≤ n := by simpa [depth] using enough
    have inner := ih readable (')' :: rest) rfl fits
    have text : (grouping f).render ++ rest =
        '(' :: ("group".toList ++ ' ' :: (f.render ++ ')' :: rest)) := by simp [render]
    rw [text,read_node (by simp)]
    simp [inner]
  | unary op right ih =>
    obtain ⟨n,rfl⟩ := exists_eq_succ_of_depth_le enough
    simp only [PrefixForm.readable,Bool.and_eq_true,bne_iff_ne] at readable
    obtain ⟨⟨piece,named⟩,readableRight⟩ := readable
    have fits : right.depth ≤ n := by simpa [depth] using enough
    have inner := ih readableRight (')' :: rest) rfl fits
    have unnamed : op.toList ≠ "group".toList := fun same => named (String.toList_inj.mp same)
    have text : (unary op right).render ++ rest =
        '(' :: (op.toList ++ ' ' :: (right.render ++ ')' :: rest)) := by simp [render]
    rw [text,read_node (blank_not_mem_piece piece)]
    simpa [inner] using unnamed
  | binary left op right ihl ihr =>
    obtain ⟨n,rfl⟩ := exists_eq_succ_of_depth_le enough
    simp only [PrefixForm.readable,Bool.and_eq_true,bne_iff_ne] at readable
    obtain ⟨⟨⟨piece,-⟩,readableLeft⟩,readableRight⟩ := readable
    obtain ⟨leftFits,rightFits⟩ : left.depth ≤ n ∧ right.depth ≤ n :=
      Nat.max_le.mp (by simpa [depth] using enough)
    have first := ihl readableLeft (' ' :: (right.render ++ ')' :: rest)) rfl leftFits
    have second := ihr readableRight (')' :: rest) rfl rightFits
    have text : (binary left op right).render ++ rest =
        '(' :: (op.toList ++ ' ' :: (left.render ++ ' ' :: (right.render ++ ')' :: rest))) := by
      simp [render]
    rw [text,read_node (blank_not_mem_piece piece)]
    simp [first,second]

end PrefixForm

namespace Expr

theorem toList_printTo (e : Expr) (acc : String) :
    (e.printTo acc).toList = acc.toList ++ e.prefixForm.render := by
  induction e generalizing acc with
  | binary left op right ihl ihr => simp [printTo,prefixForm,PrefixForm.render,ihl,ihr]
  | grouping e ih => simp [printTo,prefixForm,PrefixForm.render,ih]
  | literal v => simp [printTo,prefixForm,PrefixForm.render]
  | unary op right ih => simp [printTo,prefixForm,PrefixForm.render,ih]

theorem toList_print (e : Expr) : e.print.toList = e.prefixForm.render := by
  simp [print,toList_printTo]

example : (binary (grouping (literal (.bool true))) ⟨.star,"*",none,1⟩
    (unary ⟨.minus,"-",none,1⟩ (literal .nil))).print = "(* (group true) (- nil))" := by
  decide

/-- Trees whose operators and literals print as single pieces, no operator being called `group`,
print alike exactly when they have the same prefix form: the same node at every position, the same
operator lexeme at every operation and the same literal text at every leaf. -/
theorem print_eq_iff_prefixForm_eq {e₁ e₂ : Expr} (readable₁ : e₁.prefixForm.readable)
    (readable₂ : e₂.prefixForm.readable) : e₁.print = e₂.print ↔ e₁.prefixForm = e₂.prefixForm := by
  constructor
  · intro same
    have rendered : e₁.prefixForm.render = e₂.prefixForm.render := by
      rw [← toList_print,← toList_print,same]
    -- both forms are read back from the one text
    have read₁ := PrefixForm.read_render readable₁ [] rfl
      (Nat.le_max_left e₁.prefixForm.depth e₂.prefixForm.depth)
    have read₂ := PrefixForm.read_render readable₂ [] rfl
      (Nat.le_max_right e₁.prefixForm.depth e₂.prefixForm.depth)
    rw [rendered,read₂] at read₁
    simpa using read₁.symm
  · intro same
    rw [← String.toList_inj,toList_print,toList_print,same]

theorem print_eq_iff_prefixForm_eq_of_lines :
    ((binary (grouping (literal (.bool true))) ⟨.star,"*",none,1⟩
        (unary ⟨.minus,"-",none,1⟩ (literal .nil))).prefixForm.readable ∧
      (binary (grouping (literal (.bool true))) ⟨.star,"*",none,3⟩
        (unary ⟨.minus,"-",none,2⟩ (literal .nil))).prefixForm.readable) ∧
    ((binary (grouping (literal (.bool true))) ⟨.star,"*",none,1⟩
        (unary ⟨.minus,"-",none,1⟩ (literal .nil))).print =
      (binary (grouping (literal (.bool true))) ⟨.star,"*",none,3⟩
        (unary ⟨.minus,"-",none,2⟩ (literal .nil))).print ↔
      (binary (grouping (literal (.bool true))) ⟨.star,"*",none,1⟩
        (unary ⟨.minus,"-",none,1⟩ (literal .nil))).prefixForm =
      (binary (grouping (literal (.bool true))) ⟨.star,"*",none,3⟩
        (unary ⟨.minus,"-",none,2⟩ (literal .nil))).prefixForm) :=
  ⟨⟨by decide,by decide⟩,print_eq_iff_prefixForm_eq (by decide) (by decide)⟩

end Expr
end LoxFront
