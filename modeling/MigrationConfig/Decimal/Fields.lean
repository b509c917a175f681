/-
# The fields of a float

A double is a sign, an exponent and a fraction.  The exponent field tells apart
the numbers near zero, the ordinary ones, and those that are infinite or no
number at all; the magnitude of the finite ones is `mantissa · 2 ^ exponent`.
-/
import MigrationConfig.Decimal.Shortest

namespace MigrationConfig.Decimal

/-- The sign, the exponent field and the fraction field of a double. -/
structure Fields where
  isNegative : Bool
  exponent : Nat
  fraction : Nat

/-- The exponent field of the doubles that are not finite. -/
def beyond : Nat := 2047

/-- The fields of a double. -/
def Fields.of (x : Float) : Fields :=
  let bits := x.toBits.toNat
  ⟨bits / Nat.pow 2 63 == 1, bits / hidden % Nat.pow 2 11, bits % hidden⟩

/-- The magnitude of a finite double. -/
def Fields.magnitude (f : Fields) : Dyadic :=
  if f.exponent == 0 then ⟨f.fraction, -1074⟩
  else ⟨hidden + f.fraction, Int.ofNat f.exponent - 1075⟩

/-- The value of a magnitude that is a whole number. -/
def Dyadic.whole? (d : Dyadic) : Option Nat :=
  let power := Nat.pow 2 d.exponent.natAbs
  if 0 ≤ d.exponent then some (d.mantissa * power)
  else if d.mantissa % power == 0 then some (d.mantissa / power)
  else none

/-- The integer that a float is equal to, if there is one. -/
def integer? (x : Float) : Option Int :=
  let f := Fields.of x
  if f.exponent == beyond then none
  else f.magnitude.whole?.map fun n => if f.isNegative then -Int.ofNat n else Int.ofNat n

end MigrationConfig.Decimal
