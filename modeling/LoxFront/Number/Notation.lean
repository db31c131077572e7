import LoxFront.Number.Shortest
/-!
How a binary64 value is written. A `Notation` record holds the decisions of one format: where
exponent form takes over from positional form, how many digits follow the point at least, the
tie rule of the digit search, and the texts of NaN and infinity. `Binary64.write` applies one to
the shortest decimal of the value. Two records are used: `Notation.plain`, the language's own
text of a number, and `Notation.dump`, the text inside structure dumps.
-/
namespace LoxFront

/-- The decisions of one way of writing binary64 values. -/
structure Notation where
  exponentBelow : Option Binary64
  exponentFrom : Option Binary64
  minFraction : Nat
  tiesUp : Bool
  nanText : String
  infinityText : String
  exponentMark : String

namespace Notation

/-- The language's own text of a number: always positional, the fewest digits that read back,
no point for whole numbers, `inf` and `NaN`. -/
def plain : Notation :=
  { exponentBelow := none, exponentFrom := none, minFraction := 0, tiesUp := true,
    nanText := "NaN", infinityText := "inf", exponentMark := "e" }

/-- The text inside structure dumps: a point and a digit always follow a whole number, and
magnitudes below `1e-4` or from `1e16` on take the form `1.5e16`. -/
def dump : Notation :=
  { plain with
    exponentBelow := some (Binary64.ofDecimal 1 (-4)), exponentFrom := some (Binary64.ofDecimal 1 16),
    minFraction := 1 }

end Notation

namespace Decimal

def zeros (n : Nat) : List Char := List.replicate n '0'

def positional (d : Decimal) (minFraction : Nat) : String :=
  let ds := d.digitList
  let len := ds.length
  let point := d.point
  if point ≤ 0 then
    let lead := point.natAbs
    String.ofList ('0' :: '.' :: zeros lead ++ ds ++ zeros (minFraction - (lead + len)))
  else if len ≤ point.toNat then
    let whole := ds ++ zeros (point.toNat - len)
    String.ofList (if minFraction = 0 then whole else whole ++ '.' :: zeros minFraction)
  else
    let p := point.toNat
    String.ofList (ds.take p ++ '.' :: ds.drop p ++ zeros (minFraction - (len - p)))

def scientific (d : Decimal) (mark : String) : String :=
  let ds := d.digitList
  let lead := String.ofList (ds.take 1)
  let rest := ds.drop 1
  let fractionPart := if rest.isEmpty then "" else "." ++ String.ofList rest
  lead ++ fractionPart ++ mark ++ toString (d.point - 1)

end Decimal

namespace Binary64

def usesExponent (style : Notation) (x : Binary64) : Bool :=
  (match style.exponentBelow with
    | some bound => x.magnitude < bound.magnitude
    | none => false) ||
  (match style.exponentFrom with
    | some bound => bound.magnitude ≤ x.magnitude
    | none => false)

/-- The text of a value under a notation. A minus sign stands before every negative value,
`-0` and negative infinity included, but never before a NaN. -/
def write (style : Notation) (x : Binary64) : String :=
  if x.isNaN then style.nanText
  else
    let minus := if x.sign then "-" else ""
    if x.isInfinite then minus ++ style.infinityText
    else if x.isZero then
      minus ++ (if style.minFraction = 0 then "0"
        else String.ofList ('0' :: '.' :: Decimal.zeros style.minFraction))
    else
      let d := x.shortest style.tiesUp
      minus ++ (if usesExponent style x then d.scientific style.exponentMark
        else d.positional style.minFraction)

end Binary64
end LoxFront
