import LoxFront.Number.Binary64
/-!
Reading number text. A numeral is an optional sign and then either a decimal, with digits before
or after an optional point and an optional exponent `e` or `E` with its own optional sign and
digits, or one of the words `inf`, `infinity` and `nan` in any case. The value is the pattern
nearest to the decimal; a minus sign negates it, also a zero, an infinity or a NaN.
-/
namespace LoxFront.Binary64

def digitsValue (ds : List Char) : Nat :=
  ds.foldl (fun n c => 10 * n + (c.toNat - '0'.toNat)) 0

def exponentOf? (cs : List Char) : Option Int :=
  let (negative, digits) := match cs with
    | '-' :: r => (true, r)
    | '+' :: r => (false, r)
    | r => (false, r)
  if !digits.isEmpty && digits.all Char.isDigit then
    let e : Int := digitsValue digits
    some (if negative then -e else e)
  else none

def unsignedOf? (cs : List Char) : Option Binary64 :=
  let word := String.ofList (cs.map Char.toLower)
  if word = "inf" || word = "infinity" then some infinity
  else if word = "nan" then some nan
  else
    let whole := cs.takeWhile Char.isDigit
    let afterWhole := cs.dropWhile Char.isDigit
    let (part, afterPart) := match afterWhole with
      | '.' :: r => (r.takeWhile Char.isDigit, r.dropWhile Char.isDigit)
      | r => ([], r)
    if whole.isEmpty && part.isEmpty then none
    else
      let power? : Option Int := match afterPart with
        | [] => some 0
        | c :: r => if c = 'e' || c = 'E' then exponentOf? r else none
      power?.map fun e => ofDecimal (digitsValue (whole ++ part)) (e - part.length)

/-- The value of a numeral, or `none` when the text is not one. -/
def ofString? (s : String) : Option Binary64 :=
  match s.toList with
  | '-' :: r => if r.isEmpty then none else (unsignedOf? r).map neg
  | '+' :: r => if r.isEmpty then none else unsignedOf? r
  | r => if r.isEmpty then none else unsignedOf? r

end LoxFront.Binary64
