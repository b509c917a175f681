/-
# Numbers in YAML scalars

How the text of a scalar that is tagged as a number is converted.  Underscores
between digits are dropped.  A tag may stand in front of any text, so the
conversion can fail; the forms that are recognized without a tag fail only where
no digit is left or where there are too many digits.
-/
import MigrationConfig.Yaml.Tag

namespace MigrationConfig.Yaml.Number

/-- The text without underscores. -/
def withoutGaps (s : List Char) : List Char := s.filter (· != '_')

/-- The text behind a mark of its base in front. -/
def behindBase (base : Nat) (s : List Char) : List Char :=
  let mark : Option Char :=
    if base == 2 then some 'b' else if base == 8 then some 'o' else if base == 16 then some 'x' else none
  match s with
  | '0' :: c :: rest => if mark == some c.toLower then rest else s
  | _ => s

/-- The value of a digit in a base; decimal digits of all scripts count. -/
def digitIn? (base : Nat) (c : Char) : Option Nat :=
  let value := match Text.digitValue? c with
    | some d => some d
    | none => Text.hexValue? c
  value.bind fun d => if d < base then some d else none

/-- The value of digits in a base, of which there is at least one. -/
def digits? (base : Nat) (s : List Char) : Option Nat :=
  if s.isEmpty then none
  else s.foldl (fun n c => n.bind fun n => (digitIn? base c).map fun d => base * n + d) (some 0)

/-- A blank that may stand around a number; the information separators may
not. -/
def isMargin (c : Char) : Bool := Text.isBlank c && !(0x1C ≤ c.toNat && c.toNat ≤ 0x1F)

/-- The text without the blanks around it. -/
def withoutMargins (s : List Char) : List Char :=
  ((s.dropWhile isMargin).reverse.dropWhile isMargin).reverse

/-- Reads an integer in a base: blanks around it, a sign, a mark of the base. -/
def inBase (base : Nat) (s : List Char) : Except ValueFault Int :=
  let body := withoutMargins s
  let ds := behindBase base (Plain.unsigned body)
  match digits? base ds with
  | none => .error (.notInBase base (String.ofList s))
  | some n =>
      if base == 10 && Text.digitLimit < ds.length then .error (.tooManyDigits ds.length)
      else .ok (if body.head? == some '-' then -Int.ofNat n else Int.ofNat n)

/-- Reads the groups of a number between its colons. -/
def groups {α : Type} (read : List Char → Except ValueFault α) :
    List (List Char) → Except ValueFault (List α)
  | [] => .ok []
  | g :: rest => do
      let x ← read g
      let xs ← groups read rest
      return x :: xs

/-- The sign of a text, minus one or one, and what follows it. -/
def signed (s : List Char) : Int × List Char :=
  (if s.head? == some '-' then -1 else 1, Plain.unsigned s)

def integer (text : List Char) : Except ValueFault Int := do
  let gapless := withoutGaps text
  if gapless.isEmpty then throw .emptyNumber
  let (sign, s) := signed gapless
  match s with
  | [] => throw .emptyNumber
  | ['0'] => return 0
  | '0' :: 'b' :: rest => return sign * (← inBase 2 rest)
  | '0' :: 'x' :: rest => return sign * (← inBase 16 rest)
  | '0' :: _ => return sign * (← inBase 8 s)
  | _ =>
      if s.contains ':' then
        let parts ← groups (inBase 10) (Text.splitOn [':'] s)
        return sign * parts.foldl (fun n d => 60 * n + d) 0
      else return sign * (← inBase 10 s)

/-- The exponent of a float, zero when it is left out. -/
def exponent? : List Char → Option Int
  | [] => some 0
  | e :: rest =>
      if e != 'e' && e != 'E' then none
      else
        let ds := Plain.unsigned rest
        (digits? 10 ds).map fun n => if rest.head? == some '-' then -Int.ofNat n else Int.ofNat n

/-- The value of an unsigned decimal, with a point and an exponent or without. -/
def decimal? (s : List Char) : Option Float :=
  let whole := s.takeWhile Text.isDecimal
  let behind := s.dropWhile Text.isDecimal
  let (fraction, rest) := match behind with
    | '.' :: r => (r.takeWhile Text.isDecimal, r.dropWhile Text.isDecimal)
    | _ => ([], behind)
  if whole.isEmpty && fraction.isEmpty then none
  else
    (exponent? rest).map fun e =>
      Decimal.readFloat (Text.natOfDigits (whole ++ fraction)) (e - Int.ofNat fraction.length)

/-- The value of an unsigned float: a decimal, infinity, or no number. -/
def float? (s : List Char) : Option Float :=
  let word := String.ofList s
  if word == "inf" || word == "infinity" then some (1.0 / 0.0)
  else if word == "nan" then some (0.0 / 0.0)
  else decimal? s

/-- Reads a float: blanks around it and a sign. -/
def float (s : List Char) : Except ValueFault Float :=
  let body := withoutMargins s
  match float? (Plain.unsigned body) with
  | none => .error (.notFloat (String.ofList s))
  | some x => .ok (if body.head? == some '-' then -x else x)

/-- The float nearest to a natural number. -/
def floatOfNat (n : Nat) : Except ValueFault Float :=
  let x := Decimal.readFloat n 0
  if x.isInf then .error .largerThanFloats else .ok x

/-- The sum of the groups of a number, the last group first, that count `unit`,
sixty times `unit`, and so on.  Every unit is an integer; what is rounded is its
product with a group, and the sum. -/
def sumGroups (sum : Float) (unit : Nat) : List Float → Except ValueFault Float
  | [] => .ok sum
  | d :: rest => do
      let u ← floatOfNat unit
      sumGroups (sum + d * u) (60 * unit) rest

/-- The sign of a float and what follows it, in lower case and without gaps. -/
def signedReal (text : List Char) : Int × List Char := signed (Text.lower (withoutGaps text))

/-- The text of what is no number, as it is recognized without a tag; a sign in
front of it makes no difference. -/
def isPlainNan (text : List Char) : Bool := (signedReal text).2 == ".nan".toList

def real (text : List Char) : Except ValueFault Float := do
  if (withoutGaps text).isEmpty then throw .emptyNumber
  let (sign, s) := signedReal text
  let x ←
    if s == ".inf".toList then pure (1.0 / 0.0 : Float)
    else if isPlainNan text then return 0.0 / 0.0
    else if s.contains ':' then do
      let parts ← groups float (Text.splitOn [':'] s)
      sumGroups 0.0 1 parts.reverse
    else float s
  return if sign < 0 then -x else x

def flag (text : List Char) : Except ValueFault Bool :=
  let word := String.ofList (Text.lower text)
  if word == "yes" || word == "true" || word == "on" then .ok true
  else if word == "no" || word == "false" || word == "off" then .ok false
  else .error (.notFlag word)

/-- Checks the fields of a timestamp against the calendar. -/
def stamp (f : Plain.StampFields) : Except ValueFault Timestamp :=
  let result := match f.time with
    | none => Timestamp.ofDate f.year f.month f.day
    | some t =>
        Timestamp.ofMoment f.year f.month f.day t.hour t.minute t.second t.microsecond t.zone
  match result with
  | .ok t => .ok t
  | .error e => .error (.calendar e)

end MigrationConfig.Yaml.Number
