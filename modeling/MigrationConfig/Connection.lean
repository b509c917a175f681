/-
# Connections

How a database is reached.  A descriptor is either handed in as a record of
arguments or derived from the four connection settings; it is derived only when
the URL has text.  The rest of a connection without a URL is incomplete: it has
no effect, and whoever derives or reads it is warned.
-/
import MigrationConfig.Arguments
import MigrationConfig.Host
import MigrationConfig.Text.Blank

namespace MigrationConfig

/-- How a database is reached. -/
structure Descriptor where
  url : String
  driver : Option String
  user : Option String
  password : Option String
  /-- what else is handed to the driver -/
  properties : PropertyMap
  loader : Option ClassLoader
  deriving DecidableEq

namespace Descriptor

/-- An empty text counts as none. -/
def nonEmpty? (s : Option String) : Option String :=
  match s with
  | some t => if t.isEmpty then none else some t
  | none => none

/-- The descriptor of connection settings whose URL has text. -/
def ofSettings? (driver url user password : Option String) (properties : PropertyMap)
    (loader : Option ClassLoader) : Option Descriptor :=
  match url with
  | some u =>
      if Text.isBlankText u then none
      else some ⟨u, nonEmpty? driver, user, password, properties, loader⟩
  | none => none

/-- Connection settings are incomplete: there is no URL, yet something else. -/
def isIncomplete (driver url user password : Option String) : Bool :=
  !Text.hasText url && (Text.hasText driver || Text.hasText user || Text.hasText password)

/-- Derives a descriptor and reports what came of it. -/
def derive (driver url user password : Option String) (properties : PropertyMap)
    (loader : Option ClassLoader) : HostM (Option Descriptor) := do
  let descriptor := ofSettings? driver url user password properties loader
  match descriptor with
  | some d => HostM.log (.connectionDerived d.url)
  | none =>
      if isIncomplete driver url user password then HostM.log .incompleteConnection
  return descriptor

def optionLiteral : Option String → String
  | none => "None"
  | some s => Text.quoted s

def mapLiteral (m : PropertyMap) : String :=
  Document.literal (.mapping (m.entries.map fun e => (.text e.1, .text e.2)))

/-- A descriptor as it is shown, without its password. -/
def literal (d : Descriptor) : String :=
  "ConnectionDescriptor(url=" ++ Text.quoted d.url ++ ", driver=" ++ optionLiteral d.driver ++
    ", user=" ++ optionLiteral d.user ++ ", properties=" ++ mapLiteral d.properties ++ ")"

/-- The URL argument, which has to have text. -/
def urlArgument (args : Arguments) : Except (List ArgumentFault) String :=
  match args.given? "url" with
  | none => .error [⟨["url"], .missing⟩]
  | some d =>
      match Arguments.textAt ["url"] d with
      | .error fs => .error fs
      | .ok u =>
          if Text.isBlankText u then .error [⟨["url"], .refused "url cannot be empty"⟩] else .ok u

/-- The entries of the properties argument, each of them a text. -/
def propertyEntries :
    List (Scalar × Document) → Except (List ArgumentFault) (List (String × String))
  | [] => .ok []
  | (k, d) :: rest =>
      match Arguments.textAt ["properties", k.plain] d, propertyEntries rest with
      | .ok v, .ok es => .ok ((k.plain, v) :: es)
      | a, b => .error (Arguments.faultsOf a ++ Arguments.faultsOf b)

/-- The properties argument, empty by default. -/
def propertiesArgument (args : Arguments) : Except (List ArgumentFault) PropertyMap :=
  match args.given? "properties" with
  | none => .ok .empty
  | some (.mapping entries) => (propertyEntries entries).map PropertyMap.ofList
  | some _ => .error [⟨["properties"], .notMapping⟩]

/-- The descriptor that arguments describe.  All that is wrong with them is
reported together, in the order of the fields; other arguments have no
meaning. -/
def ofArguments (args : Arguments) : Except Error Descriptor :=
  let url := urlArgument args
  let driver := args.text? "driver"
  let user := args.text? "user"
  let password := args.text? "password"
  let properties := propertiesArgument args
  match url, driver, user, password, properties with
  | .ok url, .ok driver, .ok user, .ok password, .ok properties =>
      .ok ⟨url, driver, user, password, properties, none⟩
  | _, _, _, _, _ =>
      .error (.arguments (Arguments.faultsOf url ++ Arguments.faultsOf driver ++
        Arguments.faultsOf user ++ Arguments.faultsOf password ++ Arguments.faultsOf properties))

end Descriptor

end MigrationConfig
