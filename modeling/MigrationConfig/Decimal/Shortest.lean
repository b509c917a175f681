/-
# Shortest decimal digits

A finite double is `mantissa · 2 ^ exponent`, and the reals that round to it
form an interval around it.  `Dyadic.shortest` gives the fewest decimal digits
whose value lies in that interval, and of the candidates with so few digits the
one nearest to the double.

For each number of digits only the two neighbours of the double on that decimal
grid are tried: if any point of a grid lies in the interval, so does one of
these two.  All comparisons are between natural numbers.
-/

namespace MigrationConfig.Decimal

/-- The leading bit of a mantissa, which is not stored. -/
def hidden : Nat := Nat.pow 2 52

/-- A positive double, `mantissa · 2 ^ exponent`. -/
structure Dyadic where
  mantissa : Nat
  exponent : Int

/-- A decimal number below one, `0.digits · 10 ^ point`. -/
structure Digits where
  digits : List Char
  point : Int

structure Ratio where
  num : Nat
  den : Nat

namespace Ratio

/-- The ratio times a power of ten. -/
def scale (r : Ratio) (power : Int) : Ratio :=
  if power < 0 then ⟨r.num, r.den * Nat.pow 10 power.natAbs⟩
  else ⟨r.num * Nat.pow 10 power.natAbs, r.den⟩

/-- How many places the point of a ratio below one has to move for the ratio to
reach one: the least `k` with `1 ≤ r · 10 ^ k`, looked for among the next `fuel`
numbers. -/
def shift (r : Ratio) : Nat → Nat → Nat
  | 0, k => k
  | fuel + 1, k => if r.den ≤ r.num * Nat.pow 10 k then k else shift r fuel (k + 1)

/-- The place of the decimal point: `10 ^ (p - 1) ≤ r < 10 ^ p`. -/
def point (r : Ratio) : Int :=
  if r.den ≤ r.num then Int.ofNat (Nat.toDigits 10 (r.num / r.den)).length
  else 1 - Int.ofNat (shift r 400 1)

end Ratio

namespace Dyadic

/-- The double times four, over the power of two that makes both whole. -/
def quarters (d : Dyadic) (k : Nat) : Ratio :=
  let e := d.exponent - 2
  if e < 0 then ⟨k, Nat.pow 2 e.natAbs⟩ else ⟨k * Nat.pow 2 e.natAbs, 1⟩

/-- The double itself. -/
def value (d : Dyadic) : Ratio := d.quarters (4 * d.mantissa)

/-- The lower end of the interval that rounds to the double.  It is half as far
away as the upper end when the next double below lies in the finer binade. -/
def lower (d : Dyadic) : Ratio :=
  if d.mantissa == hidden && d.exponent > -1074 then d.quarters (4 * d.mantissa - 1)
  else d.quarters (4 * d.mantissa - 2)

/-- The upper end of the interval that rounds to the double. -/
def upper (d : Dyadic) : Ratio := d.quarters (4 * d.mantissa + 2)

/-- The whole number `n`, counted in steps of `10 ^ (-power)`, rounds to the
double.  The ends belong to the interval when the mantissa is even. -/
def accepts (d : Dyadic) (power : Int) (n : Nat) : Bool :=
  let lo := d.lower.scale power
  let hi := d.upper.scale power
  if d.mantissa % 2 == 0 then lo.num ≤ n * lo.den && n * hi.den ≤ hi.num
  else lo.num < n * lo.den && n * hi.den < hi.num

/-- The candidate with steps of `10 ^ (-power)`: of the two neighbours of the
double those that round to it, of both the nearer, and of a tie the even one. -/
def candidate (d : Dyadic) (power : Int) : Option Nat :=
  let v := d.value.scale power
  let below := v.num / v.den
  let twice := 2 * (v.num % v.den)
  match d.accepts power below, d.accepts power (below + 1) with
  | true, true =>
      some (if twice < v.den then below
        else if v.den < twice then below + 1
        else if below % 2 == 0 then below else below + 1)
  | true, false => some below
  | false, true => some (below + 1)
  | false, false => none

/-- Tries the grids of `count`, `count + 1`, … digits. -/
def shortestFrom (d : Dyadic) (place : Int) : Nat → Nat → Nat × Int
  | 0, _ => (0, 0)
  | fuel + 1, count =>
      let power := Int.ofNat count - place
      match d.candidate power with
      | some n => (n, -power)
      | none => shortestFrom d place fuel (count + 1)

/-- The shortest digits that round to the double, without trailing zeros. -/
def shortest (d : Dyadic) : Digits :=
  let found := shortestFrom d d.value.point 18 1
  let ds := Nat.toDigits 10 found.1
  ⟨(ds.reverse.dropWhile (· == '0')).reverse, Int.ofNat ds.length + found.2⟩

end Dyadic

end MigrationConfig.Decimal
