/-
# Versions

A version is a list of numbers, or one of three special tokens.  Its text is
trimmed, and a dot or an underscore stands between two numbers.  Trailing zeros
do not count, so that a version has one list of parts but many texts.

The order puts the empty schema below all numbers, and the current and the
latest version above them, in this order; numbers compare part by part.
-/
import MigrationConfig.Error
import MigrationConfig.Text.Case

namespace MigrationConfig

/-- A version: a token, or the parts of a number with the text it was given. -/
inductive Version where
  | empty
  | numeric (text : String) (parts : List Nat)
  | current
  | latest
  deriving DecidableEq, Inhabited

namespace Version

/-- The version as it is shown. -/
def text : Version → String
  | empty => "<< Empty Schema >>"
  | numeric t _ => t
  | current => "current"
  | latest => "latest"

/-- The numeric parts; a special token has none. -/
def parts : Version → List Nat
  | numeric _ ps => ps
  | _ => []

/-- The text of a numeric version. -/
def number? : Version → Option String
  | numeric t _ => some t
  | _ => none

/-- Drops the zeros behind the last part that is not zero, but never the only
part. -/
def dropZeros : List Nat → List Nat
  | [] => []
  | [n] => [n]
  | n :: rest =>
      match dropZeros rest with
      | [0] => [n]
      | rest' => n :: rest'

/-- A dot for an underscore. -/
def dotted (s : List Char) : List Char := s.map fun c => if c == '_' then '.' else c

/-- Reads the parts of a version in order; the first that is too long is
refused. -/
def readParts : List (List Char) → Except Error (List Nat)
  | [] => .ok []
  | p :: rest =>
      if Text.digitLimit < p.length then .error (.value (.tooManyDigits p.length))
      else
        match readParts rest with
        | .ok ns => .ok (Text.natOfDigits p :: ns)
        | .error e => .error e

/-- Reads a version; no text at all stands for the empty schema. -/
def parse : Option String → Except Error Version
  | none => .ok empty
  | some raw =>
      let token := Text.trim raw.toList
      if Text.asciiLower token == "latest".toList then .ok latest
      else if Text.asciiLower token == "current".toList then .ok current
      else
        let pieces := Text.splitOn ['.'] (dotted token)
        if pieces.any fun p => p.isEmpty then .error (.invalid (.emptyVersionPart raw))
        else if !pieces.all fun p => p.all Text.isDigit then
          .error (.invalid (.nonNumericVersion raw))
        else
          match readParts pieces with
          | .ok ns => .ok (numeric (String.ofList (dotted token)) (dropZeros ns))
          | .error e => .error e

/-- The place of a kind of version in the order. -/
def rank : Version → Nat
  | empty => 0
  | numeric _ _ => 1
  | current => 2
  | latest => 3

/-- What versions are compared by. -/
def key (v : Version) : Nat × List Nat := (v.rank, v.parts)

/-- Two versions are the same. -/
def same (a b : Version) : Bool := a.key == b.key

/-- The first list comes before the second: the first part that differs decides,
and a list comes before its continuations. -/
def partsBefore : List Nat → List Nat → Bool
  | _, [] => false
  | [], _ :: _ => true
  | a :: as, b :: bs => if a == b then partsBefore as bs else a < b

/-- One version is lower than another. -/
def before (a b : Version) : Bool :=
  if a.rank == b.rank then partsBefore a.parts b.parts else a.rank < b.rank

/-- One version is lower than another or the same. -/
def notAfter (a b : Version) : Bool := a.before b || a.same b

def differs (a b : Version) : Bool := !a.same b

/-- One version is higher than another: neither lower nor the same. -/
def after (a b : Version) : Bool := !a.before b && a.differs b

/-- One version is higher than another or the same. -/
def notBefore (a b : Version) : Bool := !a.before b

/-- Versions in ascending order; equal ones keep their order. -/
def sort (vs : List Version) : List Version := vs.mergeSort notAfter

end Version

end MigrationConfig
