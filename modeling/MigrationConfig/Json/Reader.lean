/-
# Reading JSON

The grammar of JSON with three more numbers, `NaN`, `Infinity` and `-Infinity`.
A reader takes the characters that are left and gives back a document and what
is left behind it.  A fault remembers the characters from the offending one on,
so that its place in the text is the difference of two lengths and the readers
need no counter.

The depth of nesting and the number of members are bounded by a count of steps
that starts above the length of the text; every step takes a character at
least.
-/
import MigrationConfig.Document

namespace MigrationConfig.Json

/-- What is wrong with a JSON text. -/
inductive Fault where
  | expectingValue
  | expectingName
  | expectingColon
  | expectingComma
  | extraData
  | unterminated
  | controlCharacter
  | badEscape
  | badUnicodeEscape
  | byteOrderMark
  deriving DecidableEq

/-- The wording of a fault, without its place. -/
def Fault.message : Fault → String
  | .expectingValue => "Expecting value"
  | .expectingName => "Expecting property name enclosed in double quotes"
  | .expectingColon => "Expecting ':' delimiter"
  | .expectingComma => "Expecting ',' delimiter"
  | .extraData => "Extra data"
  | .unterminated => "Unterminated string starting at"
  | .controlCharacter => "Invalid control character at"
  | .badEscape => "Invalid \\escape"
  | .badUnicodeEscape => "Invalid \\uXXXX escape"
  | .byteOrderMark => "Unexpected UTF-8 BOM (decode using utf-8-sig)"

/-- Why reading stopped: a fault in front of `rest`, or an integer of so many
digits that it cannot be read. -/
inductive Stop where
  | fault (f : Fault) (rest : List Char)
  | tooManyDigits (count : Nat)

/-- The outcome of reading something: it and what is left, or the reason. -/
abbrev Reading (α : Type) := Except Stop (α × List Char)

/-- The blanks between the parts of a JSON text. -/
def isSpace (c : Char) : Bool := c == ' ' || c == '\t' || c == '\n' || c == '\r'

def skipSpace (s : List Char) : List Char := s.dropWhile isSpace

/-- The character that a one-letter escape stands for. -/
def escapeOf? (c : Char) : Option Char :=
  match c with
  | '"' => some '"'
  | '\\' => some '\\'
  | '/' => some '/'
  | 'b' => some '\x08'
  | 'f' => some '\x0c'
  | 'n' => some '\n'
  | 'r' => some '\r'
  | 't' => some '\t'
  | _ => none

/-- The number that four hexadecimal digits write. -/
def hexNumber? (a b c d : Char) : Option Nat := do
  let w ← Text.hexValue? a
  let x ← Text.hexValue? b
  let y ← Text.hexValue? c
  let z ← Text.hexValue? d
  return ((w * 16 + x) * 16 + y) * 16 + z

/-- The first half of a surrogate pair. -/
def isHighSurrogate (n : Nat) : Bool := 0xD800 ≤ n && n ≤ 0xDBFF

/-- The second half of a surrogate pair. -/
def isLowSurrogate (n : Nat) : Bool := 0xDC00 ≤ n && n ≤ 0xDFFF

/-- The character of a surrogate pair. -/
def joinSurrogates (high low : Nat) : Char :=
  Char.ofNat (0x10000 + (high - 0xD800) * 0x400 + (low - 0xDC00))

/-- The character of a number; half a surrogate pair is replaced. -/
def charOfNumber (n : Nat) : Char :=
  if isHighSurrogate n || isLowSurrogate n then '\uFFFD' else Char.ofNat n

/-- Puts a character in front of what was read. -/
def consChar (c : Char) : Reading (List Char) → Reading (List Char)
  | .ok (cs, rest) => .ok (c :: cs, rest)
  | .error stop => .error stop

/-- The number of the escape `uXXXX` that a text starts with, of which another
character has to follow. -/
def unicodeEscape? (r : List Char) : Option Nat :=
  match r with
  | 'u' :: a :: b :: c :: d :: _ :: _ => hexNumber? a b c d
  | _ => none

/-- The second escape of a surrogate pair may start here: enough characters
follow. -/
def startsEscape : List Char → Bool
  | '\\' :: 'u' :: _ :: _ :: _ :: _ :: _ :: _ => true
  | _ => false

/-- The escape whose backslash stands in front of `r`: the character it stands
for, and how many characters of `r` belong to it. -/
def escape (opening r : List Char) : Except Stop (Char × Nat) :=
  match r with
  | [] => .error (.fault .unterminated opening)
  | 'u' :: _ =>
      match unicodeEscape? r with
      | none => .error (.fault .badUnicodeEscape r)
      | some n =>
          if isHighSurrogate n && startsEscape (r.drop 5) then
            match unicodeEscape? (r.drop 6) with
            | none => .error (.fault .badUnicodeEscape (r.drop 6))
            | some n' =>
                if isLowSurrogate n' then .ok (joinSurrogates n n', 11)
                else .ok (charOfNumber n, 5)
          else .ok (charOfNumber n, 5)
  | e :: _ =>
      match escapeOf? e with
      | some c => .ok (c, 1)
      | none => .error (.fault .badEscape ('\\' :: r))

/-- The rest of a string after its opening quote; `opening` is the text from
that quote on, and the next `skip` characters belong to an escape that has been
read. -/
def stringBody (opening : List Char) : Nat → List Char → Reading (List Char)
  | _, [] => .error (.fault .unterminated opening)
  | skip + 1, _ :: rest => stringBody opening skip rest
  | 0, c :: rest =>
      if c == '"' then .ok ([], rest)
      else if c == '\\' then
        match escape opening rest with
        | .ok (c, used) => consChar c (stringBody opening used rest)
        | .error stop => .error stop
      else if c.toNat < 0x20 then .error (.fault .controlCharacter (c :: rest))
      else consChar c (stringBody opening 0 rest)

/-- The leading ASCII digits. -/
def leadingDigits (s : List Char) : List Char := s.takeWhile Text.isDigit

/-- The text without its leading ASCII digits. -/
def afterDigits (s : List Char) : List Char := s.dropWhile Text.isDigit

/-- The fraction at the start of a text: a point with a digit behind it. -/
def fraction? (s : List Char) : Option (List Char × List Char) :=
  match s with
  | '.' :: r => if (leadingDigits r).isEmpty then none else some (leadingDigits r, afterDigits r)
  | _ => none

/-- The exponent at the start of a text: a letter, perhaps a sign, and a digit
at least. -/
def exponent? (s : List Char) : Option (Int × List Char) :=
  let digits (negative : Bool) (r : List Char) : Option (Int × List Char) :=
    if (leadingDigits r).isEmpty then none
    else
      let n := Int.ofNat (Text.natOfDigits (leadingDigits r))
      some (if negative then -n else n, afterDigits r)
  match s with
  | 'e' :: '-' :: r => digits true r
  | 'E' :: '-' :: r => digits true r
  | 'e' :: '+' :: r => digits false r
  | 'E' :: '+' :: r => digits false r
  | 'e' :: r => digits false r
  | 'E' :: r => digits false r
  | _ => none

/-- The whole part at the start of a text: a zero alone, or digits that do not
begin with one. -/
def whole? (s : List Char) : Option (List Char × List Char) :=
  match s with
  | '0' :: r => some (['0'], r)
  | _ => if (leadingDigits s).isEmpty then none else some (leadingDigits s, afterDigits s)

/-- A number at the start of a text, without its sign. -/
def magnitude (negative : Bool) (start s : List Char) : Reading Scalar :=
  match whole? s with
  | none => .error (.fault .expectingValue start)
  | some (ds, r) =>
      let signed (x : Float) : Scalar := .real (if negative then -x else x)
      match fraction? r with
      | some (fs, r') =>
          let (e, r'') := (exponent? r').getD (0, r')
          .ok (signed (Decimal.readFloat (Text.natOfDigits (ds ++ fs)) (e - fs.length)), r'')
      | none =>
          match exponent? r with
          | some (e, r') => .ok (signed (Decimal.readFloat (Text.natOfDigits ds) e), r')
          | none =>
              if Text.digitLimit < ds.length then .error (.tooManyDigits ds.length)
              else
                let n := Int.ofNat (Text.natOfDigits ds)
                .ok (.number (if negative then -n else n), r)

/-- A scalar other than a string at the start of a text. -/
def scalar (s : List Char) : Reading Scalar :=
  match s with
  | 'n' :: 'u' :: 'l' :: 'l' :: r => .ok (.null, r)
  | 't' :: 'r' :: 'u' :: 'e' :: r => .ok (.flag true, r)
  | 'f' :: 'a' :: 'l' :: 's' :: 'e' :: r => .ok (.flag false, r)
  | 'N' :: 'a' :: 'N' :: r => .ok (.real (0.0 / 0.0), r)
  | 'I' :: 'n' :: 'f' :: 'i' :: 'n' :: 'i' :: 't' :: 'y' :: r => .ok (.real (1.0 / 0.0), r)
  | '-' :: 'I' :: 'n' :: 'f' :: 'i' :: 'n' :: 'i' :: 't' :: 'y' :: r =>
      .ok (.real (-1.0 / 0.0), r)
  | '-' :: r => magnitude true s r
  | _ => magnitude false s s

mutual

/-- A value at the start of a text. -/
def value : Nat → List Char → Except Stop (Document × List Char)
  | 0, s => .error (.fault .expectingValue s)
  | steps + 1, s =>
      match s with
      | '"' :: r => do
          let (cs, rest) ← stringBody s 0 r
          return (.text (String.ofList cs), rest)
      | '{' :: r =>
          match skipSpace r with
          | '}' :: rest => .ok (.mapping [], rest)
          | r' => members steps [] r'
      | '[' :: r =>
          match skipSpace r with
          | ']' :: rest => .ok (.list [], rest)
          | r' => items steps [] r'
      | _ => do
          let (x, rest) ← scalar s
          return (.scalar x, rest)

/-- The members of an object from a name on, after those read before. -/
def members : Nat → List (Scalar × Document) → List Char →
    Except Stop (Document × List Char)
  | 0, _, s => .error (.fault .expectingName s)
  | steps + 1, before, s =>
      match s with
      | '"' :: r => do
          let (name, r₁) ← stringBody s 0 r
          match skipSpace r₁ with
          | ':' :: r₂ => do
              let (d, r₃) ← value steps (skipSpace r₂)
              let entries := Entries.put (.text (String.ofList name)) d before
              match skipSpace r₃ with
              | '}' :: rest => return (.mapping entries, rest)
              | ',' :: r₄ => members steps entries (skipSpace r₄)
              | r₄ => throw (.fault .expectingComma r₄)
          | r₂ => throw (.fault .expectingColon r₂)
      | _ => .error (.fault .expectingName s)

/-- The items of an array from a value on, after those read before (last
first). -/
def items : Nat → List Document → List Char → Except Stop (Document × List Char)
  | 0, _, s => .error (.fault .expectingValue s)
  | steps + 1, before, s => do
      let (d, r₁) ← value steps s
      match skipSpace r₁ with
      | ']' :: rest => return (.list (d :: before).reverse, rest)
      | ',' :: r₂ => items steps (d :: before) (skipSpace r₂)
      | r₂ => throw (.fault .expectingComma r₂)

end

/-- Reads a whole text as one JSON value. -/
def readChars (s : List Char) : Except Stop Document :=
  match s with
  | '\uFEFF' :: _ => .error (.fault .byteOrderMark s)
  | _ => do
      let (d, rest) ← value (2 * s.length + 2) (skipSpace s)
      match skipSpace rest with
      | [] => return d
      | rest' => throw (.fault .extraData rest')

/-- A fault with its place: line and column from one, character from zero. -/
def located (s : List Char) (f : Fault) (rest : List Char) : String :=
  let place := s.length - rest.length
  let before := s.take place
  let line := before.count '\n' + 1
  let column := (before.reverse.takeWhile (· != '\n')).length + 1
  f.message ++ ": line " ++ Text.integerText line ++ " column " ++ Text.integerText column ++
    " (char " ++ Text.integerText place ++ ")"

end MigrationConfig.Json
