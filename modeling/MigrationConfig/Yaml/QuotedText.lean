/-
# Quoted scalars

Text between single quotes, where a quote is doubled, or between double quotes,
where a backslash starts an escape.  A line end inside the quotes becomes a
space, empty lines become line feeds, and the blanks around a line end are
dropped.
-/
import MigrationConfig.Text.Digit
import MigrationConfig.Yaml.Cursor
import MigrationConfig.Yaml.Fault

namespace MigrationConfig.Yaml.QuotedText

/-- What the letter of an escape stands for. -/
def letterEscape? : Char → Option Char
  | '0' => some '\x00'
  | 'a' => some '\x07'
  | 'b' => some '\x08'
  | 't' => some '\t'
  | '\t' => some '\t'
  | 'n' => some '\n'
  | 'v' => some '\x0b'
  | 'f' => some '\x0c'
  | 'r' => some '\r'
  | 'e' => some '\x1b'
  | ' ' => some ' '
  | '"' => some '"'
  | '\\' => some '\\'
  | '/' => some '/'
  | 'N' => some '\x85'
  | '_' => some '\xa0'
  | 'L' => some '\u2028'
  | 'P' => some '\u2029'
  | _ => none

/-- The number of hexadecimal digits that follow the letter of an escape. -/
def numberWidth? : Char → Option Nat
  | 'x' => some 2
  | 'u' => some 4
  | 'U' => some 8
  | _ => none

/-- The number that exactly `width` hexadecimal digits write. -/
def hexNumber? (width : Nat) (s : List Char) : Option Nat :=
  let ds := s.take width
  if ds.length == width then
    ds.foldl (fun n c => n.bind fun n => (Text.hexValue? c).map fun d => 16 * n + d) (some 0)
  else none

/-- The character of a number.  One beyond all characters is a fault of its own,
and so is one that does not fit into four bytes with a sign. -/
def charOf (n : Nat) : Except Fault Char :=
  if n.isValidChar then .ok (Char.ofNat n)
  else if n < 0x110000 then .ok '\uFFFD'
  else if n < 0x80000000 then .error (.value .noSuchCharacter)
  else .error (.value .characterTooLarge)

/-- The line ends of empty lines inside the quotes, and the first place after
them that is no blank.  A mark between documents must not stand there. -/
def emptyLines : Nat → Cursor → Except Fault (List Char × Cursor)
  | 0, c => .ok ([], c)
  | steps + 1, c =>
      if c.seesDocumentMark then .error .malformed
      else
        let c := c.skipWhile isWhite
        match c.lineEnd? with
        | none => .ok ([], c)
        | some (e, c) => (emptyLines steps c).map fun (es, c) => (e :: es, c)

/-- What a line end inside the quotes becomes, with the empty lines behind it. -/
def folded (e : Char) (empty : List Char) : List Char :=
  (if e != '\n' then [e] else if empty.isEmpty then [' '] else []) ++ empty

def escape (c : Cursor) : Except Fault (List Char × Cursor) :=
  match c.next? with
  | none => .error .malformed
  | some x =>
      match letterEscape? x, numberWidth? x with
      | some y, _ => .ok ([y], c.step)
      | none, some width =>
          match hexNumber? width (c.rest.drop 1) with
          | none => .error .malformed
          | some n => (charOf n).map fun y => ([y], c.skip (width + 1))
      | none, none =>
          match c.lineEnd? with
          | none => .error .malformed
          | some (_, c) => emptyLines (c.rest.length + 1) c

def blanks (c : Cursor) : Except Fault (List Char × Cursor) :=
  let (white, c) := c.span isWhite
  if c.atEnd then .error .malformed
  else
    match c.lineEnd? with
    | none => .ok (white, c)
    | some (e, c) => (emptyLines (c.rest.length + 1) c).map fun (es, c) => (folded e es, c)

/-- Reads what follows an opening quote, with the closing one. -/
def afterQuote (double : Bool) : Nat → Cursor → Except Fault (List Char × Cursor)
  | 0, _ => .error .malformed
  | steps + 1, c =>
      match c.next? with
      | none => .error .malformed
      | some x =>
          let continueWith (part : Except Fault (List Char × Cursor)) :
              Except Fault (List Char × Cursor) := do
            let (xs, c) ← part
            let (ys, c) ← afterQuote double steps c
            return (xs ++ ys, c)
          if isBlank x then continueWith (blanks c)
          else if double && x == '\\' then continueWith (escape c.step)
          else if double && x == '"' then .ok ([], c.step)
          else if !double && x == '\'' then
            if c.rest[1]? == some '\'' then continueWith (.ok (['\''], c.skip 2))
            else .ok ([], c.step)
          else continueWith (.ok ([x], c.step))

/-- Reads a quoted scalar from its opening quote on. -/
def read (double : Bool) (c : Cursor) : Except Fault (List Char × Cursor) :=
  afterQuote double (c.rest.length + 1) c.step

end MigrationConfig.Yaml.QuotedText
