/-
# Coercion

How the text of a property becomes a truth value, an integer or a list of tokens.
Blanks around it do not matter.  A truth value is one of two words, in any case; an integer is
an optional sign and ASCII digits, of which there may be too many to read.
-/
import MigrationConfig.Error
import MigrationConfig.Text.Case

namespace MigrationConfig.Coercion

/-- The truth value of a trimmed word. -/
def flag? (s : List Char) : Option Bool :=
  let word := Text.asciiLower s
  if word == "true".toList then some true
  else if word == "false".toList then some false
  else none

def flag (key raw : String) : Except Error Bool :=
  match flag? (Text.trim raw.toList) with
  | some b => .ok b
  | none => .error (.invalid (.notBoolean key raw))

/-- The sign and the digits of a trimmed integer. -/
def signed? (s : List Char) : Option (Bool × List Char) :=
  let (negative, ds) :=
    match s with
    | '-' :: r => (true, r)
    | '+' :: r => (false, r)
    | _ => (false, s)
  if ds.isEmpty || !ds.all Text.isDigit then none else some (negative, ds)

def integer (key raw : String) : Except Error Int :=
  match signed? (Text.trim raw.toList) with
  | none => .error (.invalid (.notInteger key raw))
  | some (negative, ds) =>
      if Text.digitLimit < ds.length then .error (.value (.tooManyDigits ds.length))
      else
        let n := Int.ofNat (Text.natOfDigits ds)
        .ok (if negative then -n else n)

/-- The tokens of what may be absent, at a separator that must not be empty unless
there is nothing to cut. -/
def tokens (separator : String) (raw : Option String) : Except Error (List String) :=
  match raw with
  | none => .ok []
  | some s =>
      if s.isEmpty then .ok []
      else if separator.isEmpty then .error (.value .emptySeparator)
      else .ok ((Text.tokens separator.toList s.toList).map String.ofList)

/-- Reads what may be absent. -/
def optional {α : Type} (read : String → Except Error α) : Option String → Except Error (Option α)
  | none => .ok none
  | some raw => (read raw).map some

/-- Takes a key out of a map and reads its value, if there is one; the key is
gone whether or not the value can be read. -/
def take {α : Type} (read : String → String → Except Error α) (m : PropertyMap) (key : String) :
    Except Error (Option α) × PropertyMap :=
  (optional (read key) (m.get? key), m.erase key)

end MigrationConfig.Coercion
