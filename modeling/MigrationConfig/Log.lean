/-
# The log

What the library reports while it works, as events.  An event has a level and a
wording; nothing of a password, a token or a license key is part of one.
-/
import MigrationConfig.Path
import MigrationConfig.Text.Quoted

namespace MigrationConfig

/-- The weight of an event. -/
inductive Level where
  | debug
  | info
  | warning
  deriving DecidableEq

/-- What is reported. -/
inductive Event where
  /-- connection settings without a URL have no effect -/
  | incompleteConnection
  /-- a connection was derived for a URL -/
  | connectionDerived (url : String)
  /-- an instance of a class was made -/
  | instantiated (name : String)
  /-- so many properties were applied -/
  | propertiesApplied (count : Nat)
  /-- an environment variable has no meaning -/
  | variableIgnored (name : String)
  /-- so many values came from the environment -/
  | environmentRead (count : Nat)
  /-- a settings file was read -/
  | fileRead (path : Path)
  /-- a settings file was passed over -/
  | filePassedOver (path : Path) (reason : String)
  /-- the file of the dry-run output was opened -/
  | outputOpened (path : Path)
  /-- a configuration was loaded -/
  | configurationLoaded
  /-- warnings about a loaded configuration -/
  | warnings (texts : List String)
  /-- recommendations about a loaded configuration -/
  | recommendations (texts : List String)
  deriving DecidableEq

namespace Event

def listLiteral (xs : List String) : String := "[" ++ ", ".intercalate (xs.map Text.quoted) ++ "]"

def level : Event → Level
  | incompleteConnection => .warning
  | connectionDerived _ => .debug
  | instantiated _ => .debug
  | propertiesApplied _ => .debug
  | variableIgnored _ => .debug
  | environmentRead _ => .info
  | fileRead _ => .info
  | filePassedOver _ _ => .warning
  | outputOpened _ => .info
  | configurationLoaded => .info
  | warnings _ => .warning
  | recommendations _ => .info

def message : Event → String
  | incompleteConnection =>
      "Discarding INCOMPLETE connection configuration! flyway.url must be set."
  | connectionDerived url => "Derived connection descriptor for " ++ url
  | instantiated name => "Instantiated " ++ name
  | propertiesApplied count =>
      "Applied " ++ Text.integerText (Int.ofNat count) ++ " configuration properties"
  | variableIgnored name => "Ignoring unknown environment variable " ++ name
  | environmentRead count =>
      "Loaded " ++ Text.integerText (Int.ofNat count) ++
        " configuration values from environment variables"
  | fileRead path => "Loaded configuration from " ++ path.toString
  | filePassedOver path reason =>
      "Failed to load config from " ++ path.toString ++ ": " ++ reason
  | outputOpened path => "Writing dry run output to " ++ path.toString
  | configurationLoaded => "Configuration loaded successfully"
  | warnings texts => "Configuration warnings: " ++ listLiteral texts
  | recommendations texts => "Configuration recommendations: " ++ listLiteral texts

end Event

end MigrationConfig
