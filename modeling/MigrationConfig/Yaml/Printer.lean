/-
# Writing YAML

A property map as a block mapping, an entry a line.  A text is written plain if
it reads back as the same text, else between single quotes, and between double
quotes with escapes when it has characters that are not to be written as they
are.  Lines are broken at single spaces once they are longer than eighty columns.
-/
import MigrationConfig.Property.Map
import MigrationConfig.Yaml.Tag
import MigrationConfig.Yaml.PlainText

namespace MigrationConfig.Yaml.Printer

/-- The column behind which a line is broken. -/
def width : Nat := 80

/-- The line end and the indentation of a line that goes on. -/
def newLine : List Char := ['\n', ' ', ' ']

/-! ## Which form a text takes -/

/-- A character that is written as it is. -/
def isPrintable (c : Char) : Bool := c == '\n' || (' ' ≤ c && c ≤ '~')

/-- A text with a mark at its start that would not begin a plain scalar. -/
def startsWithIndicator : List Char → Bool
  | [] => false
  | c :: rest =>
      let isApart := rest.head?.all isBlank
      "#,[]\x7b\x7d&*!|>'\"%@\x60".toList.contains c ||
        ((c == '-' || c == '?' || c == ':') && isApart)

/-- A text in which a colon or a hash would end a plain scalar; `apart` tells that
a blank stands in front. -/
def endsEarly (apart : Bool) : List Char → Bool
  | [] => false
  | c :: rest =>
      (c == ':' && rest.head?.all isBlank) || (c == '#' && apart) || endsEarly (isBlank c) rest

/-- A text that starts with a mark between documents. -/
def startsWithMark (s : List Char) : Bool :=
  s.take 3 == "---".toList || s.take 3 == "...".toList

/-- Characters of the class `p` with one of the class `q` behind them. -/
def hasPair (p q : Char → Bool) : List Char → Bool
  | c :: d :: rest => (p c && q d) || hasPair p q (d :: rest)
  | _ => false

def isSpaceOrEnd (c : Char) : Bool := c == ' ' || c == '\n'

/-- The forms of a text. -/
inductive Form where
  | plain
  | single
  | double
  deriving DecidableEq

/-- The text has to be escaped. -/
def needsEscape (s : List Char) : Bool :=
  !s.all isPrintable || hasPair (· == ' ') (· == '\n') s

/-- The text can be written plain. -/
def allowsPlain (s : List Char) : Bool :=
  !s.isEmpty && Plain.tag s == .text && !needsEscape s && !s.contains '\n' &&
    s.head? != some ' ' && s.getLast? != some ' ' &&
    !startsWithMark s && !startsWithIndicator s && !endsEarly false (s.drop 1)

/-- The text can be written between single quotes. -/
def allowsSingle (isKey : Bool) (s : List Char) : Bool :=
  !needsEscape s && !hasPair (· == '\n') (· == ' ') s && !(isKey && s.contains '\n')

def form (isKey : Bool) (s : List Char) : Form :=
  if allowsPlain s then .plain else if allowsSingle isKey s then .single else .double

/-! ## Writing a text from a column on -/

/-- Cuts a text into runs of one class: spaces, line ends, and all else. -/
def runs : List Char → List (List Char)
  | [] => []
  | c :: rest =>
      match runs rest with
      | (d :: run) :: more =>
          let alike := if isSpaceOrEnd c || isSpaceOrEnd d then c == d else true
          if alike then (c :: d :: run) :: more else [c] :: (d :: run) :: more
      | more => [c] :: more

/-- Writes the runs of a plain text.  A single space behind the width becomes a
line end, if the text may go over several lines. -/
def plainRuns (breaks : Bool) (column : Nat) : List (List Char) → List Char
  | [] => []
  | run :: rest =>
      if run == [' '] && breaks && width < column then newLine ++ plainRuns breaks 2 rest
      else run ++ plainRuns breaks (column + run.length) rest

/-- Doubles the quotes of a text. -/
def doubled (s : List Char) : List Char :=
  s.flatMap fun c => if c == '\'' then ['\'', '\''] else [c]

/-- Writes the runs of a text between single quotes.  A line end is written as an
empty line; a single space behind the width becomes a line end, but not at the
ends of the text. -/
def singleRuns (breaks : Bool) (first : Bool) (column : Nat) : List (List Char) → List Char
  | [] => []
  | run :: rest =>
      if run.head? == some '\n' then
        '\n' :: run ++ newLine.drop 1 ++ singleRuns breaks false 2 rest
      else if run == [' '] && breaks && width < column && !first && !rest.isEmpty then
        newLine ++ singleRuns breaks false 2 rest
      else
        let text := doubled run
        text ++ singleRuns breaks false (column + text.length) rest

/-- The letter of an escape. -/
def letter? (c : Char) : Option Char :=
  match c with
  | '\x00' => some '0'
  | '\x07' => some 'a'
  | '\x08' => some 'b'
  | '\t' => some 't'
  | '\n' => some 'n'
  | '\x0b' => some 'v'
  | '\x0c' => some 'f'
  | '\r' => some 'r'
  | '\x1b' => some 'e'
  | '"' => some '"'
  | '\\' => some '\\'
  | '\x85' => some 'N'
  | '\xa0' => some '_'
  | '\u2028' => some 'L'
  | '\u2029' => some 'P'
  | _ => none

/-- A number in hexadecimal capitals. -/
def capitals (digits n : Nat) : List Char := (Text.hexText digits n).map Char.toUpper

/-- The escape of a character that is not written as it is between double
quotes. -/
def escape? (c : Char) : Option (List Char) :=
  match letter? c with
  | some l => some ['\\', l]
  | none =>
      let n := c.toNat
      if ' ' ≤ c && c ≤ '~' then none
      else if n ≤ 0xFF then some ('\\' :: 'x' :: capitals 2 n)
      else if n ≤ 0xFFFF then some ('\\' :: 'u' :: capitals 4 n)
      else some ('\\' :: 'U' :: capitals 8 n)

/-- The start of a line that goes on with `next`, and its column: a space in front
is protected by a backslash. -/
def lineStart (next : Option Char) : List Char × Nat :=
  if next == some ' ' then (newLine ++ ['\\'], 3) else (newLine, 2)

/-- Writes what stands between double quotes.  `column` is the one behind the last
escape or line start, and `pending` the number of characters written since.  The
line is broken in front of a space or behind an escape, but not at the ends of the
text. -/
def doubleChars (breaks first : Bool) (column pending : Nat) : List Char → List Char
  | [] => []
  | c :: rest =>
      let mayBreak := breaks && !first && !rest.isEmpty
      match escape? c with
      | none =>
          if mayBreak && (c == ' ' || pending == 0) && width < column + pending then
            let (start, column) := lineStart (some c)
            '\\' :: start ++ c :: doubleChars breaks false column 1 rest
          else c :: doubleChars breaks false column (pending + 1) rest
      | some text =>
          let behind := column + pending + text.length
          if mayBreak && width + 1 < behind then
            let (start, column) := lineStart rest.head?
            text ++ '\\' :: start ++ doubleChars breaks false column 0 rest
          else text ++ doubleChars breaks false behind 0 rest

/-- Writes a text from a column on. -/
def scalar (isKey : Bool) (column : Nat) (s : List Char) : List Char :=
  match form isKey s with
  | .plain => plainRuns (!isKey) column (runs s)
  | .single => '\'' :: singleRuns (!isKey) true (column + 1) (runs s) ++ ['\'']
  | .double => '"' :: doubleChars (!isKey) true (column + 1) 0 s ++ ['"']

/-- The key can stand in front of its colon on one line. -/
def isSimpleKey (s : List Char) : Bool := !s.isEmpty && !s.contains '\n' && s.length < 123

def entry (e : String × String) : List Char :=
  let key := e.1.toList
  let value := e.2.toList
  if isSimpleKey key then
    let written := scalar true 0 key
    written ++ ':' :: ' ' :: scalar false (written.length + 2) value ++ ['\n']
  else
    '?' :: ' ' :: scalar false 2 key ++ '\n' :: ':' :: ' ' :: scalar false 2 value ++ ['\n']

def print (m : PropertyMap) : String :=
  if m.isEmpty then "\x7b\x7d\n" else String.ofList (m.entries.flatMap entry)

end MigrationConfig.Yaml.Printer
