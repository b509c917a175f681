/-
# Bytes written as text

Four characters of the alphabet stand for three bytes, six bits each.  Characters
outside of it are passed over.  At the end two or three characters may be left,
which are filled up with equals signs; behind those nothing is read.  A text that
breaks off inside four characters holds no bytes.
-/
import MigrationConfig.Text.Digit

namespace MigrationConfig.Yaml.Base64

/-- The character that fills up the last four. -/
def filler : Char := '='

/-- The six bits that a character stands for. -/
def sextet? (c : Char) : Option Nat :=
  let n := c.toNat
  if 'A'.toNat ≤ n && n ≤ 'Z'.toNat then some (n - 'A'.toNat)
  else if 'a'.toNat ≤ n && n ≤ 'z'.toNat then some (n - 'a'.toNat + 26)
  else if Text.isDigit c then some (n - '0'.toNat + 52)
  else if c == '+' then some 62
  else if c == '/' then some 63
  else none

/-- The bytes of a text of which `count` characters of the four at hand have been
read, with `fillers` behind them; `left` are the bits that have gone into no byte. -/
def decodeFrom? (count left fillers : Nat) : List Char → Option (List UInt8)
  | [] => if count == 0 then some [] else none
  | c :: rest =>
      if c == filler then
        if count < 2 then decodeFrom? count left fillers rest
        else if 4 ≤ count + fillers + 1 then some []
        else decodeFrom? count left (fillers + 1) rest
      else
        match sextet? c, count with
        | none, _ => decodeFrom? count left fillers rest
        | some n, 0 => decodeFrom? 1 n 0 rest
        | some n, 1 =>
            (decodeFrom? 2 (n % 16) 0 rest).map (UInt8.ofNat (4 * left + n / 16) :: ·)
        | some n, 2 =>
            (decodeFrom? 3 (n % 4) 0 rest).map (UInt8.ofNat (16 * left + n / 4) :: ·)
        | some n, _ => (decodeFrom? 0 0 0 rest).map (UInt8.ofNat (64 * left + n) :: ·)

/-- The bytes of a text, which is ASCII. -/
def decode? (s : List Char) : Option (List UInt8) :=
  if s.all fun c => c.toNat < 0x80 then decodeFrom? 0 0 0 s else none

end MigrationConfig.Yaml.Base64
