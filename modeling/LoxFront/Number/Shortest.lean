import LoxFront.Number.Binary64
/-!
Shortest decimals of binary64 values. Of the decimals that read back to a finite nonzero value,
`Binary64.shortest` takes those with the fewest significant digits and of them the nearest; two
equally near ones are split by a tie rule. All comparisons are exact, in natural numbers.

The search tries one digit, two digits and so on. With `n` digits the grid is `10 ^ k` for the
`k` that gives the value `n` digits before the point; if any point of that grid reads back,
then so does one of the value's two neighbours on it, so only those two are tested.
-/
namespace LoxFront

structure Decimal where
  digits : Nat
  exponent : Int

namespace Decimal

def trim (d : Decimal) : Decimal :=
  if h : d.digits ≠ 0 ∧ d.digits % 10 = 0 then
    trim ⟨d.digits / 10, d.exponent + 1⟩
  else d
termination_by d.digits
decreasing_by exact Nat.div_lt_self (Nat.pos_of_ne_zero h.1) (by decide)

def digitList (d : Decimal) : List Char := Nat.toDigits 10 d.digits

def point (d : Decimal) : Int := d.exponent + d.digitList.length

end Decimal

namespace Binary64

def decimalMagnitude (num den : Nat) : Int :=
  let guess : Int := (digitCount num : Int) - digitCount den
  let reached := if 0 ≤ guess then den * Nat.pow 10 guess.toNat ≤ num
    else den ≤ num * Nat.pow 10 guess.natAbs
  if reached then guess else guess - 1

/-- The reals that read back to a finite positive value, and the value, scaled to natural
numbers against a grid whose spacing is `unit` in the same scale. -/
structure Window where
  low : Nat
  value : Nat
  high : Nat
  unit : Nat
  inclusive : Bool

namespace Window

def contains (w : Window) (c : Nat) : Bool :=
  if w.inclusive then w.low ≤ c * w.unit && c * w.unit ≤ w.high
  else w.low < c * w.unit && c * w.unit < w.high

def pick (w : Window) (tiesUp : Bool) : Option Nat :=
  let down := w.value / w.unit
  let up := down + 1
  let downIn := w.contains down
  let upIn := w.value % w.unit != 0 && w.contains up
  if downIn && upIn then
    let below := w.value - down * w.unit
    let above := up * w.unit - w.value
    if below < above then some down
    else if above < below then some up
    else if tiesUp then some up else some down
  else if downIn then some down
  else if upIn then some up
  else none

end Window

/-- The window of `m * 2 ^ q` against the grid `10 ^ k`. Below a power of two of a normal value
the next pattern is half as far, so the lower end is half as far too. -/
def window (m : Nat) (q : Int) (boundary : Bool) (k : Int) : Window :=
  let base2 := min (q - 2) 0
  let base10 := min k 0
  let scale (a : Nat) (i j : Int) : Nat :=
    a * Nat.pow 2 (i - base2).toNat * Nat.pow 10 (j - base10).toNat
  { low := scale (4 * m - if boundary then 1 else 2) (q - 2) 0
    value := scale (4 * m) (q - 2) 0
    high := scale (4 * m + 2) (q - 2) 0
    unit := scale 1 0 k
    inclusive := m % 2 == 0 }

/-- The shortest decimal of a finite nonzero value, its sign aside. Seventeen digits always read
back, so the search ends there. -/
def shortest (x : Binary64) (tiesUp : Bool) : Decimal :=
  let (m, q) := x.decode
  let boundary := x.fraction == 0 && x.exponentField != 0
  let top := decimalMagnitude (m * Nat.pow 2 q.toNat) (Nat.pow 2 (-q).toNat)
  let grid (n : Nat) : Int := top - n + 1
  let attempt (n : Nat) : Option Decimal :=
    (window m q boundary (grid n) |>.pick tiesUp).map fun c => ⟨c, grid n⟩
  let below : Decimal :=
    let w := window m q boundary (grid 17)
    ⟨w.value / w.unit, grid 17⟩
  ((List.range' 1 17).findSome? attempt |>.getD below).trim

end Binary64
end LoxFront
