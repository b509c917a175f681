/-
# Environment variables

A property can be given by an environment variable.  Its name is the key in
upper case, with an underscore for every dot and before every capital letter
that follows a small one or a digit.  The names of a namespace follow its root;
placeholders are read in lower case, driver properties as they are.
-/
import MigrationConfig.Config.Properties
import MigrationConfig.Text.Case

namespace MigrationConfig.Environment

/-- The key of the list of settings files. -/
def filesKey : String := "flyway.configFiles"

/-- The key of the encoding of the settings files. -/
def fileEncodingKey : String := "flyway.configFileEncoding"

/-- The keys that say where settings are read from, and are no settings
themselves. -/
def sourceKeys : List String := [filesKey, fileEncodingKey]

/-- What all variables of the library begin with. -/
def root : String := "FLYWAY_"

/-- What the variables of placeholders begin with. -/
def placeholderVariables : String := "FLYWAY_PLACEHOLDERS_"

/-- What the variables of driver properties begin with. -/
def driverPropertyVariables : String := "FLYWAY_JDBC_PROPERTIES_"

def isCapital (c : Char) : Bool := 0x41 ≤ c.toNat && c.toNat ≤ 0x5A

/-- An ASCII small letter or digit. -/
def endsWord (c : Char) : Bool := (0x61 ≤ c.toNat && c.toNat ≤ 0x7A) || Text.isDigit c

/-- An underscore between every two words of a name in camel case; `inWord`
tells that a small letter or a digit stands in front. -/
def separateWords (inWord : Bool) : List Char → List Char
  | [] => []
  | c :: rest =>
      (if inWord && isCapital c then ['_'] else []) ++ c :: separateWords (endsWord c) rest

/-- The name of the variable for a key. -/
def variableOf (key : String) : String :=
  let segments := (Text.splitOn ['.'] key.toList).filter fun s => !s.isEmpty
  String.ofList
    (List.intercalate ['_'] (segments.map fun s => Text.upper (separateWords false s)))

/-- The key that each variable stands for; the dry-run output has two
variables. -/
def table : List (String × String) :=
  Entries.put "FLYWAY_DRYRUN_OUTPUT" "flyway.dryRunOutput"
    (Entries.ofPairs ((Setting.recognized.filterMap Setting.key? ++ sourceKeys).map
      fun key => (variableOf key, key)))

/-- The key that a variable stands for. -/
def key? (name : String) : Option String :=
  match Entries.get? name table with
  | some key => some key
  | none =>
      match Namespace.name? placeholderVariables name with
      | some n => some (placeholderRoot ++ String.ofList (Text.lower n.toList))
      | none => (Namespace.name? driverPropertyVariables name).map (driverPropertyRoot ++ ·)

/-- What a variable contributes: nothing, an event that it is unknown, or an
entry. -/
def entryOf (withSourceKeys : Bool) (e : String × String) :
    Option (Event ⊕ (String × String)) :=
  if !Namespace.beginsWith root e.1 then none
  else
    match key? e.1 with
    | none => some (.inl (.variableIgnored e.1))
    | some key =>
        if sourceKeys.contains key && !withSourceKeys then none else some (.inr (key, e.2))

/-- The properties of an environment, and the events of reading it. -/
def read (withSourceKeys : Bool) (environment : List (String × String)) :
    PropertyMap × List Event :=
  let found := environment.filterMap (entryOf withSourceKeys)
  let properties := PropertyMap.ofList (found.filterMap fun
    | .inr e => some e
    | .inl _ => none)
  let ignored := found.filterMap fun
    | .inl e => some e
    | .inr _ => none
  (properties, ignored ++ if properties.isEmpty then [] else [.environmentRead properties.size])

/-- Applies the properties of an environment. -/
def apply (environment : List (String × String)) : Procedure Unit := do
  let (properties, events) := read false environment
  events.forM Procedure.log
  Config.configure properties

end MigrationConfig.Environment
