/-
# The text of a float

A float is written with the shortest digits that read back, positionally while
the decimal point stays near them and with an exponent beyond.  Reading is the
other direction; numbers far out of range are settled before any power of ten
is formed.
-/
import MigrationConfig.Decimal.Fields
import MigrationConfig.Text.Digit

namespace MigrationConfig.Decimal

/-- The decisions of a float format. -/
structure FloatFormat where
  /-- the point is written positionally above this place … -/
  least : Int
  /-- … and up to this one -/
  most : Int
  /-- an exponent has at least so many digits -/
  exponentDigits : Nat

/-- Floats are positional from four places after the point to sixteen before
it, and an exponent has two digits at least. -/
def plainFormat : FloatFormat := ⟨-4, 16, 2⟩

/-- The digits written without an exponent, with a digit on either side of the
point. -/
def positional (d : Digits) : List Char :=
  if d.point ≤ 0 then '0' :: '.' :: List.replicate d.point.natAbs '0' ++ d.digits
  else
    let whole := d.point.natAbs
    let head := d.digits.take whole
    let tail := d.digits.drop whole
    head ++ List.replicate (whole - head.length) '0' ++ '.' ::
      (if tail.isEmpty then ['0'] else tail)

/-- The digits written with one digit before the point and an exponent. -/
def scientific (f : FloatFormat) (d : Digits) : List Char :=
  let e := d.point - 1
  let ds := Text.digitsOf e.natAbs
  let head := d.digits.take 1
  let tail := d.digits.drop 1
  head ++ (if tail.isEmpty then [] else '.' :: tail) ++
    ['e', if e < 0 then '-' else '+'] ++
    List.replicate (f.exponentDigits - ds.length) '0' ++ ds

/-- The digits in the notation that the format chooses. -/
def notated (f : FloatFormat) (d : Digits) : List Char :=
  if f.least < d.point && d.point ≤ f.most then positional d else scientific f d

/-- The text of a float: `nan`, `inf` and `-inf`, a signed zero, and otherwise
the shortest digits that read back. -/
def floatText (x : Float) : String :=
  let f := Fields.of x
  if f.exponent == beyond && f.fraction != 0 then "nan"
  else
    let magnitude :=
      if f.exponent == beyond then "inf".toList
      else if f.exponent == 0 && f.fraction == 0 then "0.0".toList
      else notated plainFormat f.magnitude.shortest
    String.ofList (if f.isNegative then '-' :: magnitude else magnitude)

/-- The double nearest to `mantissa · 10 ^ power`. -/
def readFloat (mantissa : Nat) (power : Int) : Float :=
  let size := Int.ofNat (Text.digitsOf mantissa).length + power
  if mantissa == 0 || size < -400 then 0.0
  else if 400 < size then Float.ofScientific 1 false 400
  else if power < 0 then Float.ofScientific mantissa true power.natAbs
  else Float.ofScientific mantissa false power.natAbs

end MigrationConfig.Decimal
