/-!
Tables of code point ranges. A character property is a sorted array of closed ranges, and a
character has the property when its code lies in one of them.
-/
namespace LoxFront.Text

/-- Whether `n` lies in one of the closed ranges of a table. -/
def inRanges (table : Array (Nat × Nat)) (n : Nat) : Bool :=
  table.any fun r => r.1 ≤ n && n ≤ r.2

end LoxFront.Text
