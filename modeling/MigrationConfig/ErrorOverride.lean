/-
# Error overrides

A rule that changes how an SQL error is reported.  It is written as state, code
and behavior with colons between them; a star stands for any state or any code,
and a hyphen at the end hides the details of the error.
-/
import MigrationConfig.Error
import MigrationConfig.Text.Blank

namespace MigrationConfig

/-- How a matching error is reported. -/
inductive Behavior where
  | debug
  | info
  | warning
  | error
  deriving DecidableEq

def Behavior.letter : Behavior → Char
  | debug => 'D'
  | info => 'I'
  | warning => 'W'
  | error => 'E'

def Behavior.ofLetter? : Char → Option Behavior
  | 'D' => some debug
  | 'I' => some info
  | 'W' => some warning
  | 'E' => some error
  | _ => none

/-- A rule for errors: the state and the code it applies to, `none` for any,
what to do with them, and whether to hide their details. -/
structure ErrorOverride where
  state : Option String
  code : Option Int
  behavior : Behavior
  hidesDetails : Bool
  deriving DecidableEq

namespace ErrorOverride

/-- A character of an SQL state. -/
def isStateChar (c : Char) : Bool :=
  let n := c.toNat
  (0x30 ≤ n && n ≤ 0x39) || (0x41 ≤ n && n ≤ 0x5A) || (0x61 ≤ n && n ≤ 0x7A)

/-- Reads a state: a star, or five letters or digits. -/
def state? (s : List Char) : Option (Option String) :=
  if s == ['*'] then some none
  else if s.length == 5 && s.all isStateChar then some (some (String.ofList s))
  else none

/-- The sign and the digits of a code, digits of any script. -/
def codeDigits? (s : List Char) : Option (Bool × List Char) :=
  let (negative, ds) :=
    match s with
    | '-' :: r => (true, r)
    | _ => (false, s)
  if ds.isEmpty || !ds.all Text.isDecimal then none else some (negative, ds)

/-- Reads a behavior with its mark for hidden details. -/
def behavior? : List Char → Option (Behavior × Bool)
  | [c] => (Behavior.ofLetter? c).map fun b => (b, false)
  | [c, '-'] => (Behavior.ofLetter? c).map fun b => (b, true)
  | _ => none

/-- The parts of a rule between its colons, if there are three. -/
def sections? (s : List Char) : Option (List Char × List Char × List Char) :=
  match Text.splitOn [':'] s with
  | [a, b, c] => some (a, b, c)
  | _ => none

/-- The code that a sign and digits write. -/
def codeOf (negative : Bool) (ds : List Char) : Int :=
  let n := Int.ofNat (Text.natOfDigits ds)
  if negative then -n else n

/-- Reads a rule.  Only a rule of the right form with a code of too many digits
is no invalid setting but a fault of its own. -/
def parse (text : String) : Except Error ErrorOverride :=
  let malformed : Except Error ErrorOverride := .error (.invalid (.malformedOverride text))
  match sections? (Text.trim text.toList) with
  | none => malformed
  | some (s, c, b) =>
      match state? s, behavior? b with
      | some state, some (behavior, hides) =>
          if c == ['*'] then .ok ⟨state, none, behavior, hides⟩
          else
            match codeDigits? c with
            | none => malformed
            | some (negative, ds) =>
                if Text.digitLimit < ds.length then .error (.value (.tooManyDigits ds.length))
                else .ok ⟨state, some (codeOf negative ds), behavior, hides⟩
      | _, _ => malformed

/-- The state of a rule as it is written. -/
def stateText (o : ErrorOverride) : String := o.state.getD "*"

def text (o : ErrorOverride) : String :=
  o.stateText ++ ":" ++
    (match o.code with
      | none => "*"
      | some n => Text.integerText n) ++
    ":" ++ String.ofList (o.behavior.letter :: (if o.hidesDetails then ['-'] else []))

/-- The rule applies to an error with a state and a code. -/
def applies (o : ErrorOverride) (state : String) (code : Int) : Bool :=
  (match o.state with
    | none => true
    | some s => s == state) &&
  (match o.code with
    | none => true
    | some n => n == code)

end ErrorOverride

end MigrationConfig
