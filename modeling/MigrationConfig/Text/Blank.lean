/-
# Blank characters

What counts as white space when a value is trimmed, when a list is cut into
tokens and when a line of a properties file is split.  The class is wider than
the one of `Char.isWhitespace`: it has the four information separators, the
next-line character and the spaces of the other scripts, but neither the
zero-width space nor the byte order mark.

Everything is stated over `List Char`; the versions on `String` at the end only
convert.
-/

namespace MigrationConfig.Text

/-- The blank characters: tab to carriage return, the information separators,
the space, and the spaces beyond ASCII. -/
def isBlank (c : Char) : Bool :=
  let n := c.toNat
  (0x09 ≤ n && n ≤ 0x0D) || (0x1C ≤ n && n ≤ 0x20) || n == 0x85 || n == 0xA0 ||
    n == 0x1680 || (0x2000 ≤ n && n ≤ 0x200A) || n == 0x2028 || n == 0x2029 ||
    n == 0x202F || n == 0x205F || n == 0x3000

/-- Drops the leading blanks. -/
def trimStart (s : List Char) : List Char := s.dropWhile isBlank

/-- Drops the trailing blanks. -/
def trimEnd (s : List Char) : List Char := (s.reverse.dropWhile isBlank).reverse

/-- Drops the blanks at both ends. -/
def trim (s : List Char) : List Char := trimEnd (trimStart s)

/-- A text has only blanks, or nothing at all. -/
def isBlankText (s : String) : Bool := s.toList.all isBlank

/-- A setting *has text* when it is present and not all blank. -/
def hasText : Option String → Bool
  | none => false
  | some s => !isBlankText s

end MigrationConfig.Text
