/-
# Places in a YAML text

Whether a mark starts a value, a comment or a nested block depends on the line
and the column it stands at, so a text is read through a cursor: the characters
that follow, with their place.  The end of the text counts as the end of a line.
-/

namespace MigrationConfig.Yaml

/-- A character that ends a line. -/
def isBreak (c : Char) : Bool :=
  c == '\n' || c == '\r' || c == '\x85' || c == '\u2028' || c == '\u2029'

def isWhite (c : Char) : Bool := c == ' ' || c == '\t'

/-- A space, a tab or the end of a line. -/
def isBlank (c : Char) : Bool := isWhite c || isBreak c

def isSpaceOrBreak (c : Char) : Bool := c == ' ' || isBreak c

/-- The byte order mark, which takes no column. -/
def isMark (c : Char) : Bool := c == '\uFEFF'

/-- An ASCII letter or digit, a hyphen or an underscore. -/
def isWordChar (c : Char) : Bool := c.isAlphanum || c == '-' || c == '_'

/-- The characters that follow, and the place of the first of them. -/
structure Cursor where
  rest : List Char
  index : Nat
  line : Nat
  column : Nat

namespace Cursor

def start (text : List Char) : Cursor := ⟨text, 0, 0, 0⟩

/-- The next character, if there is one. -/
def next? (c : Cursor) : Option Char := c.rest.head?

def atEnd (c : Cursor) : Bool := c.rest.isEmpty

/-- The next character satisfies a test. -/
def sees (c : Cursor) (p : Char → Bool) : Bool := c.rest.head?.any p

/-- The character `n` places on satisfies a test, or the text ends before it. -/
def endsAt (c : Cursor) (n : Nat) (p : Char → Bool) : Bool :=
  match c.rest[n]? with
  | none => true
  | some x => p x

/-- Goes past one character.  The line feed after a carriage return belongs to
the same line end. -/
def step (c : Cursor) : Cursor :=
  match c.rest with
  | [] => c
  | x :: rest =>
      if isBreak x && !(x == '\r' && rest.head? == some '\n') then
        ⟨rest, c.index + 1, c.line + 1, 0⟩
      else ⟨rest, c.index + 1, c.line, if isMark x then c.column else c.column + 1⟩

/-- Goes past `n` characters. -/
def skip (c : Cursor) : Nat → Cursor
  | 0 => c
  | n + 1 => c.step.skip n

/-- The longest run of characters that satisfy a test, and the place after
it. -/
def span (c : Cursor) (p : Char → Bool) : List Char × Cursor :=
  let run := c.rest.takeWhile p
  (run, c.skip run.length)

/-- The place after a run of characters that satisfy a test. -/
def skipWhile (c : Cursor) (p : Char → Bool) : Cursor := (c.span p).2

/-- The line end that stands here, as one character, and the place after it.
All line ends but the two separators of Unicode become a line feed. -/
def lineEnd? (c : Cursor) : Option (Char × Cursor) :=
  match c.rest with
  | [] => none
  | x :: rest =>
      if !isBreak x then none
      else if x == '\r' && rest.head? == some '\n' then some ('\n', c.skip 2)
      else if x == '\u2028' || x == '\u2029' then some (x, c.step)
      else some ('\n', c.step)

/-- Three equal marks stand here, with a blank or the end behind them. -/
def seesTriple (c : Cursor) (mark : Char) : Bool :=
  c.rest.take 3 == [mark, mark, mark] && c.endsAt 3 isBlank

/-- A mark between documents stands here. -/
def seesDocumentMark (c : Cursor) : Bool := c.seesTriple '-' || c.seesTriple '.'

def skipComment (c : Cursor) : Cursor :=
  if c.sees (· == '#') then c.skipWhile fun x => !isBreak x else c

end Cursor

end MigrationConfig.Yaml
