/-
# Writing properties text

Each entry is a line, the key before an equals sign and the value behind it.  In
a key, what would end it is escaped; in a value, the backslash, the control
characters that an escape exists for, and a space in front.
-/
import MigrationConfig.Property.Map

namespace MigrationConfig.PropertiesText

/-- A character of a key. -/
def escapeKeyChar (c : Char) : List Char :=
  if c == '\\' || c == '=' || c == ':' || c == ' ' then ['\\', c] else [c]

def escapeKey (s : List Char) : List Char := s.flatMap escapeKeyChar

/-- A character of a value. -/
def escapeValueChar (c : Char) : List Char :=
  if c == '\\' then ['\\', '\\']
  else if c == '\n' then ['\\', 'n']
  else if c == '\r' then ['\\', 'r']
  else if c == '\t' then ['\\', 't']
  else if c == '\x0c' then ['\\', 'f']
  else [c]

def escapeValue (s : List Char) : List Char :=
  match s.flatMap escapeValueChar with
  | ' ' :: rest => '\\' :: ' ' :: rest
  | cs => cs

def line (e : String × String) : List Char :=
  escapeKey e.1.toList ++ '=' :: escapeValue e.2.toList

/-- Writes a property map, with a line feed behind every line; a map without
entries is an empty line. -/
def write (m : PropertyMap) : List Char :=
  List.intercalate ['\n'] (m.entries.map line) ++ ['\n']

end MigrationConfig.PropertiesText
