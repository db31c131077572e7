import LoxFront.Proofs.Diagnostics

/-! Why a scan ends, and how much it yields. Every step reads at least the character it starts on,
from the front of what is left; the runs a step reads further (a comment, a string, a number, a
word) are taken one character at a time up to the first character that ends them. So the scan's
loop, given a budget of as many steps as the source has characters, reads the whole source
within it. Main statement: a scan yields at most one item, token or error, per character of its
source, and scanning into a sink returns at most one token more, the end-of-input token. -/
namespace LoxFront.Scanner
open LongestMatch

/-- The scan's loop with a budget of `fuel` steps: its items and last line when the input runs
out within the budget, and nothing when the budget runs out first. -/
def itemsWithin : Nat → List Char → Nat → Option (List (Except Error Token) × Nat)
  | _,[],line => some ([],line)
  | 0,_ :: _,_ => none
  | fuel + 1,c :: input,line =>
    let s := step c input line
    (itemsWithin fuel s.rest s.line).map fun next => (s.item.toList ++ next.1,next.2)

theorem step_reads_nonempty (c : Char) (input : List Char) (line : Nat) :
    ∃ read, read ≠ [] ∧ c :: input = read ++ (step c input line).rest := by
  obtain ⟨-,dropped,-⟩ := step_agrees c input line
  have reads := move_reads c input line
  refine ⟨(c :: input).take (move c input line).2,?_,by rw [dropped,List.take_append_drop]⟩
  simp only [ne_eq,List.take_eq_nil_iff,reduceCtorEq,or_false]
  omega

theorem itemsWithin_length (fuel : Nat) (input : List Char) (line : Nat) :
    ∀ found ∈ itemsWithin fuel input line, found.1.length ≤ fuel := by
  induction fuel,input,line using itemsWithin.induct with
  | case1 fuel line => simp [itemsWithin]
  | case2 c input line => simp [itemsWithin]
  | case3 fuel c input line s ih =>
    -- one step yields at most one item, and the later steps stay within the budget left
    intro found ran
    simp only [itemsWithin,Option.mem_def,Option.map_eq_some_iff] at ran
    obtain ⟨next,later,rfl⟩ := ran
    have yielded := Option.length_toList_le (o := (step c input line).item)
    have := ih next later
    simp only [List.length_append]
    omega

theorem itemsWithin_eq_items {fuel : Nat} {input : List Char} (line : Nat)
    (enough : input.length ≤ fuel) : itemsWithin fuel input line = some (items input line) := by
  induction fuel,input,line using itemsWithin.induct with
  | case1 fuel line => simp [itemsWithin,items]
  | case2 c input line => simp at enough
  | case3 fuel c input line s ih =>
    -- the step reads its first character, so what it leaves fits in the budget left
    have shorter : (step c input line).rest.length ≤ fuel := by
      have := (step c input line).shorter
      simp only [List.length_cons] at enough
      omega
    rw [itemsWithin,ih shorter,items_cons_step]
    rfl

end LoxFront.Scanner

namespace LoxFront.Diagnostics
open Scanner

/-- Scanning makes progress. Every step reads at least one character from the front of what is
left, so the scan's loop reads the whole source within as many steps as it has characters, the
scan yields at most one item per character, and scanning into a sink returns its tokens, at most
one more than the source has characters. -/
theorem scan_items_le_length (d : Diagnostics) (s : String) :
    (∀ c input line, ∃ read, read ≠ [] ∧ c :: input = read ++ (step c input line).rest) ∧
    itemsWithin s.length s.toList 1 = some (items s.toList 1) ∧
    (itemsOf s).length ≤ s.length ∧
    ∃ ts, (d.scan s).1 = .ok ts ∧ ts.length ≤ s.length + 1 := by
  have within : itemsWithin s.length s.toList 1 = some (items s.toList 1) :=
    itemsWithin_eq_items 1 (by rw [String.length_toList])
  have items : (itemsOf s).length ≤ s.length := itemsWithin_length _ _ _ _ within
  have tokens : (tokensOf (itemsOf s)).length ≤ (itemsOf s).length := List.length_filterMap_le _ _
  refine ⟨step_reads_nonempty,within,items,_,by rw [scan_eq],?_⟩
  simp only [List.length_append,List.length_singleton]
  omega

end LoxFront.Diagnostics
