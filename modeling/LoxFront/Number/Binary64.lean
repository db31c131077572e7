/-!
IEEE 754 binary64 numbers, held as their 64-bit patterns. The module gives the fields of a
pattern, its class (zero, infinite, NaN), the exact value `m * 2 ^ q` of a finite pattern,
equality as the standard defines it (a NaN equals nothing, the two zeros are equal), and the
pattern nearest to a decimal `m * 10 ^ e`.
-/
namespace LoxFront

/-- An IEEE 754 binary64 number, held as its bit pattern. -/
structure Binary64 where
  bits : UInt64

namespace Binary64

def sign (x : Binary64) : Bool := decide (Nat.pow 2 63 ≤ x.bits.toNat)

def exponentField (x : Binary64) : Nat := x.bits.toNat / Nat.pow 2 52 % Nat.pow 2 11

def fraction (x : Binary64) : Nat := x.bits.toNat % Nat.pow 2 52

/-- The pattern without its sign bit; for two non-NaN patterns it orders their absolute values. -/
def magnitude (x : Binary64) : Nat := x.bits.toNat % Nat.pow 2 63

def isNaN (x : Binary64) : Bool := x.exponentField == 2047 && x.fraction != 0

def isInfinite (x : Binary64) : Bool := x.exponentField == 2047 && x.fraction == 0

def isZero (x : Binary64) : Bool := x.magnitude == 0

/-- Equality of values: a NaN equals nothing, `0` equals `-0`, and otherwise the patterns agree. -/
def equals (x y : Binary64) : Bool :=
  !x.isNaN && !y.isNaN && (x.bits == y.bits || (x.isZero && y.isZero))

def nan : Binary64 := ⟨0x7ff8000000000000⟩

def infinity : Binary64 := ⟨0x7ff0000000000000⟩

def zero : Binary64 := ⟨0⟩

def neg (x : Binary64) : Binary64 := ⟨x.bits ^^^ 0x8000000000000000⟩

def decode (x : Binary64) : Nat × Int :=
  if x.exponentField = 0 then (x.fraction, -1074)
  else (x.fraction + Nat.pow 2 52, (x.exponentField : Int) - 1075)

def digitCount (n : Nat) : Nat := (Nat.toDigits 10 n).length

/-- The pattern nearest to `m * 10 ^ e`, a tie going to the even significand. A decimal at or
above `10 ^ 310` is infinite and one below `10 ^ -330` is zero, so no huge power is formed. -/
def ofDecimal (m : Nat) (e : Int) : Binary64 :=
  if m = 0 then zero
  else if 310 < e + digitCount m then infinity
  else if e + digitCount m < -330 then zero
  else ⟨(Float.ofScientific m (decide (e < 0)) e.natAbs).toBits⟩

end Binary64
end LoxFront
