/-
# Reading properties text

A properties text is a sequence of logical lines.  A line that ends in an odd
number of backslashes goes on in the next one; blank lines and lines that start
with a hash or an exclamation mark are passed over, unless they continue a line.
A logical line is a key and a value, with an equals sign, a colon or blanks
between them; a backslash takes the special meaning from the character behind it.
-/
import MigrationConfig.Property.Map
import MigrationConfig.Text.Blank
import MigrationConfig.Text.Lines

namespace MigrationConfig.PropertiesText

/-- What an escaped character stands for: a control character for four letters,
itself otherwise. -/
def escaped (c : Char) : Char :=
  if c == 't' then '\t'
  else if c == 'n' then '\n'
  else if c == 'r' then '\r'
  else if c == 'f' then '\x0c'
  else c

/-- Resolves the escapes of a text; a backslash at its end stands for nothing. -/
def unescape : List Char → List Char
  | [] => []
  | ['\\'] => []
  | '\\' :: c :: rest => escaped c :: unescape rest
  | c :: rest => c :: unescape rest

/-- The number of backslashes at the end. -/
def trailingBackslashes (s : List Char) : Nat := (s.reverse.takeWhile (· == '\\')).length

/-- The line goes on in the next one. -/
def goesOn (line : List Char) : Bool := trailingBackslashes line % 2 == 1

/-- The line is blank or a comment; leading blanks are gone already. -/
def isPassedOver : List Char → Bool
  | [] => true
  | c :: _ => c == '#' || c == '!'

/-- The logical lines of a list of lines that follow the begun line `begun`. -/
def logicalLines (begun : List Char) : List (List Char) → List (List Char)
  | [] => if begun.isEmpty then [] else [begun]
  | raw :: rest =>
      let line := if begun.isEmpty then Text.trimStart raw else Text.trim raw
      if begun.isEmpty && isPassedOver line then logicalLines begun rest
      else if goesOn line then logicalLines (begun ++ line.dropLast) rest
      else (begun ++ line) :: logicalLines [] rest

/-- A character that ends a key and begins a value. -/
def isSeparator (c : Char) : Bool := c == '=' || c == ':'

/-- What follows the blanks behind a key: at most one separator is dropped. -/
def afterBlanks (s : List Char) : List Char :=
  match Text.trimStart s with
  | [] => []
  | c :: rest => if isSeparator c then rest else c :: rest

/-- The key and the value of a line, neither of them trimmed or unescaped;
`protect` tells that a backslash stands in front. -/
def splitLine (protect : Bool) : List Char → List Char × List Char
  | [] => ([], [])
  | c :: rest =>
      if protect then let (k, v) := splitLine false rest; (c :: k, v)
      else if c == '\\' then let (k, v) := splitLine true rest; (c :: k, v)
      else if isSeparator c then ([], rest)
      else if Text.isBlank c then ([], afterBlanks rest)
      else let (k, v) := splitLine false rest; (c :: k, v)

/-- The entry of a logical line, unless its key is empty. -/
def entry? (line : List Char) : Option (String × String) :=
  let (k, v) := splitLine false line
  let key := Text.trim k
  if key.isEmpty then none
  else some (String.ofList (unescape key), String.ofList (unescape (Text.trim v)))

/-- The entries of a text, in order; a key may occur more than once. -/
def entries (text : List Char) : List (String × String) :=
  (logicalLines [] (Text.lines text)).filterMap entry?

def read (text : List Char) : PropertyMap := .ofList (entries text)

end MigrationConfig.PropertiesText
