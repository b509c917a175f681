/-
# Tags of YAML scalars

The tag of a node says how it is to be understood.  A plain scalar without a tag
is given one by its text: truth values, integers, floats, timestamps and null
are recognized by their form, and everything else is text.
-/
import MigrationConfig.Coercion
import MigrationConfig.Decimal.FloatText
import MigrationConfig.Yaml.Fault

namespace MigrationConfig.Yaml

/-- How a node is to be understood. -/
inductive Tag where
  | null
  | flag
  | integer
  | real
  | timestamp
  | text
  | bytes
  | sequence
  /-- a sequence of mappings of one entry -/
  | pairs
  | mapping
  /-- a mapping of which only the keys count -/
  | set
  /-- the key under which other mappings are merged in -/
  | merge
  /-- the key of a default value -/
  | default
  /-- anything else -/
  | other
  deriving DecidableEq

namespace Tag

/-- What all names of the standard tags begin with. -/
def standardRoot : List Char := "tag:yaml.org,2002:".toList

def ofName (name : List Char) : Tag :=
  if !standardRoot.isPrefixOf name then other
  else
    match String.ofList (name.drop standardRoot.length) with
    | "null" => null
    | "bool" => flag
    | "int" => integer
    | "float" => real
    | "timestamp" => timestamp
    | "str" => text
    | "binary" => bytes
    | "seq" => sequence
    | "omap" | "pairs" => pairs
    | "map" => mapping
    | "set" => set
    | "merge" => merge
    | "value" => default
    | _ => other

end Tag

namespace Plain

/-- One of the words, or one of them with a capital, or in capitals. -/
def isWordOf (words : List String) (s : List Char) : Bool :=
  words.any fun w =>
    let cs := w.toList
    s == cs || s == cs.map Char.toUpper ||
      s == (match cs with
        | [] => []
        | c :: rest => c.toUpper :: rest)

/-- The words for truth values. -/
def isFlag (s : List Char) : Bool := isWordOf ["yes", "no", "true", "false", "on", "off"] s

/-- The forms of null. -/
def isNull (s : List Char) : Bool := s.isEmpty || s == ['~'] || isWordOf ["null"] s

/-- The text behind a sign. -/
def unsigned : List Char → List Char
  | '-' :: rest => rest
  | '+' :: rest => rest
  | s => s

def isDigitOrGap (c : Char) : Bool := Text.isDigit c || c == '_'

/-- Digits and underscores that start with a digit. -/
def isDigits : List Char → Bool
  | [] => false
  | c :: rest => Text.isDigit c && rest.all isDigitOrGap

/-- One digit, or two of which the first is at most five. -/
def isSixtieth : List Char → Bool
  | [c] => Text.isDigit c
  | [b, c] => Text.isDigit b && b.toNat ≤ '5'.toNat && Text.isDigit c
  | _ => false

/-- Digits, and behind colons at least one group of sixtieths. -/
def isSexagesimal (s : List Char) : Bool :=
  match Text.splitOn [':'] s with
  | first :: group :: groups => isDigits first && (group :: groups).all isSixtieth
  | _ => false

/-- The forms of an integer: binary, hexadecimal, octal, decimal, or with groups
of sixtieths. -/
def isInteger (s : List Char) : Bool :=
  match unsigned s with
  | ['0'] => true
  | '0' :: 'b' :: rest => !rest.isEmpty && rest.all fun c => c == '0' || c == '1' || c == '_'
  | '0' :: 'x' :: rest => !rest.isEmpty && rest.all fun c => (Text.hexValue? c).isSome || c == '_'
  | '0' :: rest => !rest.isEmpty && rest.all fun c => ('0' ≤ c && c ≤ '7') || c == '_'
  | rest => isDigits rest || isSexagesimal rest

/-- An exponent with its sign, or nothing. -/
def isExponent : List Char → Bool
  | [] => true
  | e :: sign :: ds =>
      (e == 'e' || e == 'E') && (sign == '-' || sign == '+') && !ds.isEmpty && ds.all Text.isDigit
  | _ => false

/-- What stands behind a decimal point: digits, perhaps none, and an exponent. -/
def isFraction (s : List Char) : Bool := isExponent (s.dropWhile isDigitOrGap)

/-- The forms of a float: with a point, with groups of sixtieths before the
point, infinite, or not a number. -/
def isReal (s : List Char) : Bool :=
  let body := unsigned s
  let whole := body.takeWhile (· != '.')
  match body.dropWhile (· != '.') with
  | [] => false
  | _ :: fraction =>
      if whole.isEmpty then
        isWordOf ["inf"] fraction ||
          (body == s &&
            (fraction == "nan".toList || fraction == "NaN".toList || fraction == "NAN".toList ||
              (fraction.head?.any Text.isDigit && isFraction fraction)))
      else
        (isDigits whole && isFraction fraction) ||
          (isSexagesimal whole && fraction.all isDigitOrGap)

/-- At least `least` and at most `most` digits, and what follows them. -/
def number? (least most : Nat) (s : List Char) : Option (Nat × List Char) :=
  let ds := (s.take most).takeWhile Text.isDigit
  if ds.length < least then none else some (Text.natOfDigits ds, s.drop ds.length)

/-- What follows a character. -/
def behind? (mark : Char) : List Char → Option (List Char)
  | [] => none
  | c :: rest => if c == mark then some rest else none

/-- The fields of a time of day with its offset in minutes. -/
structure TimeFields where
  hour : Nat
  minute : Nat
  second : Nat
  microsecond : Nat
  zone : Option Int

/-- The fields of a timestamp. -/
structure StampFields where
  year : Nat
  month : Nat
  day : Nat
  time : Option TimeFields

/-- A fraction of a second in microseconds, further digits cut off. -/
def microseconds (ds : List Char) : Nat :=
  let six := ds.take 6
  Text.natOfDigits six * Nat.pow 10 (6 - six.length)

/-- The offset at the end of a timestamp, if there is one. -/
def zone? (s : List Char) : Option (Option Int) :=
  match s.dropWhile fun c => c == ' ' || c == '\t' with
  | [] => if s.isEmpty then some none else none
  | ['Z'] => some (some 0)
  | sign :: rest =>
      if sign != '-' && sign != '+' then none
      else do
        let (hours, rest) ← number? 1 2 rest
        let minutes ← match rest with
          | [] => some 0
          | _ => do
              let (m, rest) ← number? 2 2 (← behind? ':' rest)
              if rest.isEmpty then some m else none
        let offset := Int.ofNat (60 * hours + minutes)
        return some (if sign == '-' then -offset else offset)

/-- The time of day behind a date. -/
def time? (s : List Char) : Option TimeFields := do
  let (hour, s) ← number? 1 2 s
  let (minute, s) ← number? 2 2 (← behind? ':' s)
  let (second, s) ← number? 2 2 (← behind? ':' s)
  let (fraction, s) := match s with
    | '.' :: rest => (rest.takeWhile Text.isDigit, rest.dropWhile Text.isDigit)
    | _ => ([], s)
  let zone ← zone? s
  return ⟨hour, minute, second, microseconds fraction, zone⟩

/-- What separates a date from a time of day: a letter, or blanks. -/
def behindDate? : List Char → Option (List Char)
  | [] => none
  | c :: rest =>
      if c == 'T' || c == 't' then some rest
      else if c == ' ' || c == '\t' then some (rest.dropWhile fun c => c == ' ' || c == '\t')
      else none

/-- The fields of a timestamp: a date, and perhaps a time of day. -/
def stamp? (s : List Char) : Option StampFields := do
  let (year, s) ← number? 4 4 s
  let (month, s) ← number? 1 2 (← behind? '-' s)
  let (day, s) ← number? 1 2 (← behind? '-' s)
  match s with
  | [] => return ⟨year, month, day, none⟩
  | _ => return ⟨year, month, day, some (← time? (← behindDate? s))⟩

/-- The forms of a timestamp; a date alone has two digits for the month and for
the day. -/
def isTimestamp (s : List Char) : Bool :=
  match stamp? s with
  | none => false
  | some f => f.time.isSome || s.length == 10

/-- The text without the line feed at its end; the forms above may have one behind
them, but a line feed alone has none of them. -/
def withoutLineFeed (s : List Char) : List Char :=
  if 1 < s.length && s.getLast? == some '\n' then s.dropLast else s

/-- The marks that have a tag of their own, which nothing is made of. -/
def isBareMark (s : List Char) : Bool := s == ['!'] || s == ['&'] || s == ['*']

/-- The tag of a text by its form. -/
def tagOfForm (s : List Char) : Tag :=
  if isFlag s then .flag
  else if isReal s then .real
  else if isInteger s then .integer
  else if s == "<<".toList then .merge
  else if isNull s then .null
  else if isTimestamp s then .timestamp
  else if s == ['='] then .default
  else if isBareMark s then .other
  else .text

def tag (s : List Char) : Tag := tagOfForm (withoutLineFeed s)

end Plain

end MigrationConfig.Yaml
