/-
# Writing JSON

A property map is written as one object with a member on each line, indented by
two spaces and without a line end after the closing brace.  Strings are written
in ASCII: a character beyond it stands as one escape, or as two for the halves
of its surrogate pair.
-/
import MigrationConfig.Property.Map
import MigrationConfig.Text.Digit

namespace MigrationConfig.Json

/-- An escape by number, of four hexadecimal digits. -/
def unicodeEscape (n : Nat) : List Char := '\\' :: 'u' :: Text.hexText 4 n

def stringChar (c : Char) : List Char :=
  let n := c.toNat
  if c == '"' || c == '\\' then ['\\', c]
  else if 0x20 ≤ n && n ≤ 0x7E then [c]
  else if c == '\n' then ['\\', 'n']
  else if c == '\r' then ['\\', 'r']
  else if c == '\t' then ['\\', 't']
  else if n == 0x0C then ['\\', 'f']
  else if n == 0x08 then ['\\', 'b']
  else if n < 0x10000 then unicodeEscape n
  else
    unicodeEscape (0xD800 + (n - 0x10000) / 0x400) ++
      unicodeEscape (0xDC00 + (n - 0x10000) % 0x400)

/-- A string between its quotes. -/
def string (s : String) : List Char := '"' :: s.toList.flatMap stringChar ++ ['"']

/-- One member of an object, on a line of its own. -/
def member (e : String × String) : List Char :=
  '\n' :: ' ' :: ' ' :: string e.1 ++ ':' :: ' ' :: string e.2

/-- A property map as an object. -/
def print (m : PropertyMap) : String :=
  if m.isEmpty then "\x7b\x7d"
  else String.ofList ('{' :: [','].intercalate (m.entries.map member) ++ ['\n', '}'])

end MigrationConfig.Json
