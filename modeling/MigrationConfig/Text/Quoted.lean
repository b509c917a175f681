/-
# Quoted literals

The form in which a text stands inside a list or a mapping that is shown to
the user: between single quotes, or between double quotes when it holds a
single quote and no double one.  The quote in use and the backslash are
escaped, so are the line feed, the carriage return and the tab, and every
character that is not printable is written by its number.  The literal of bytes
is marked with a letter in front, and only ASCII is printable in it.
-/
import MigrationConfig.Text.Digit
import MigrationConfig.Text.Printable

namespace MigrationConfig.Text

/-- The quote that a literal of `s` stands between. -/
def quoteFor (s : List Char) : Char :=
  if s.contains '\'' && !s.contains '"' then '"' else '\''

/-- A character by its number: two, four or eight hexadecimal digits. -/
def numbered (n : Nat) : List Char :=
  if n < 0x100 then '\\' :: 'x' :: hexText 2 n
  else if n < 0x10000 then '\\' :: 'u' :: hexText 4 n
  else '\\' :: 'U' :: hexText 8 n

/-- One character of a literal that stands between the quotes `q`. -/
def quotedChar (q c : Char) : List Char :=
  if c == q || c == '\\' then ['\\', c]
  else if c == '\n' then ['\\', 'n']
  else if c == '\r' then ['\\', 'r']
  else if c == '\t' then ['\\', 't']
  else if isPrintable c then [c]
  else numbered c.toNat

/-- The literal of a text. -/
def quoted (s : String) : String :=
  let q := quoteFor s.toList
  String.ofList (q :: s.toList.flatMap (quotedChar q) ++ [q])

/-- One byte of a literal that stands between the quotes `q`. -/
def quotedByte (q : Char) (b : UInt8) : List Char :=
  if b.toNat < 0x80 then quotedChar q (Char.ofNat b.toNat) else numbered b.toNat

/-- The literal of bytes. -/
def quotedBytes (bs : List UInt8) : String :=
  let q := quoteFor (bs.map fun b => Char.ofNat b.toNat)
  String.ofList ('b' :: q :: bs.flatMap (quotedByte q) ++ [q])

end MigrationConfig.Text
