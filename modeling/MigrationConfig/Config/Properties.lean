/-
# Applying properties

A property map is applied in one pass.  The keys of the settings come first, in
a fixed order whatever the order of the map; a setting whose key is absent keeps
its value.  Then the names under the two namespaces are laid over those that the
configuration has.  The connection is derived last, and only if the map has text
for one of the connection settings, so that it sees all that the pass has set.
What is left under the root of the pass has no meaning and is reported.

A pass stops at the first setting that is refused.
-/
import MigrationConfig.Config.Situation
import MigrationConfig.Property.Namespace

namespace MigrationConfig

/-- The root of all keys of the library. -/
def propertyRoot : String := "flyway."

def placeholderRoot : String := "flyway.placeholders."

/-- The namespace of the properties that are handed to the driver. -/
def driverPropertyRoot : String := "flyway.jdbcProperties."

namespace Config

/-- The text that a map has for a setting. -/
def textFor? (m : PropertyMap) (s : Setting) : Option (String × String) :=
  match s.key? with
  | none => none
  | some key => (m.get? key).map fun raw => (key, raw)

/-- Gives a setting the text that a map has for it. -/
def applySetting (m : PropertyMap) (s : Setting) : Procedure Unit :=
  match textFor? m s with
  | none => return ()
  | some (key, raw) => do
      match ← Procedure.ofExcept (s.kind.read key raw) with
      | some a => Procedure.change fun c => c.assign s a
      | none => return ()

/-- Gives settings the texts that a map has for them, in order. -/
def applySettings (m : PropertyMap) : List Setting → Procedure Unit
  | [] => return ()
  | s :: rest => do
      applySetting m s
      applySettings m rest

/-- The key is the one of a setting. -/
def isSettingKey (key : String) : Bool := Setting.applied.any fun s => s.key? == some key

/-- The entries of a map that are not those of a setting. -/
def beyondSettings (m : PropertyMap) : PropertyMap := m.filter fun e => !isSettingKey e.1

/-- The settings that a connection is derived from. -/
def connectionSettings : List Setting := [.driver, .url, .user, .password]

/-- The map has text for one of the connection settings. -/
def touchesConnection (m : PropertyMap) : Bool :=
  connectionSettings.any fun s => Text.hasText ((textFor? m s).map Prod.snd)

/-- The keys of a map that begin with a root. -/
def keysUnder (root : String) (m : PropertyMap) : List String :=
  m.keys.filter fun key => Namespace.beginsWith root key

/-- Applies a property map; keys that have no meaning are reported if they begin
with `root`. -/
def apply (m : PropertyMap) (root : String) : Procedure Unit := do
  applySettings m Setting.applied
  let (placeholders, rest) := Namespace.extract (beyondSettings m) placeholderRoot
    ((← Procedure.config).get .placeholders)
  Procedure.change fun c => c.assign .placeholders placeholders
  let (driverProperties, rest) := Namespace.extract rest driverPropertyRoot
    ((← Procedure.config).get .jdbcProperties)
  if (← Procedure.config).allows .jdbcProperties then
    Procedure.change fun c => c.assign .jdbcProperties driverProperties
  if touchesConnection m then
    Procedure.change fun c => c.deriveConnection (some driverProperties)
  let unknown := keysUnder root rest
  if !unknown.isEmpty then throw (.unrecognized unknown)
  Procedure.log (.propertiesApplied (m.size - rest.size))

/-- Applies a property map of the library. -/
def configure (m : PropertyMap) : Procedure Unit := apply m propertyRoot

end Config

end MigrationConfig
