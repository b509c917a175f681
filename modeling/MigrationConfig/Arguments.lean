/-
# Arguments

Records that come from outside are built from named arguments, each of them a
document.  A field takes its argument or says what is wrong with it, so that
all faults of a record can be reported together.
-/
import MigrationConfig.Error

namespace MigrationConfig

/-- The arguments that a record is built from, by their names. -/
abbrev Arguments := List (String × Document)

namespace Arguments

/-- An argument that is given. -/
def given? (args : Arguments) (name : String) : Option Document := Entries.get? name args

/-- A text argument: the text, or what is wrong with it. -/
def textAt (location : List String) : Document → Except (List ArgumentFault) String
  | .scalar (.text s) => .ok s
  | _ => .error [⟨location, .notText⟩]

/-- An optional text argument, absent or null for none. -/
def text? (args : Arguments) (name : String) : Except (List ArgumentFault) (Option String) :=
  match args.given? name with
  | none => .ok none
  | some (.scalar .null) => .ok none
  | some d => (textAt [name] d).map some

def faultsOf {α : Type} : Except (List ArgumentFault) α → List ArgumentFault
  | .ok _ => []
  | .error fs => fs

end Arguments

end MigrationConfig
