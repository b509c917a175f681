/-
# Editions

The product comes in three editions, each with all that the one below has.  A
gate compares the edition in use with the one that a feature needs; a feature
that its table does not list needs no particular edition.
-/
import MigrationConfig.Error

namespace MigrationConfig

/-- The editions, from the least to the most capable. -/
inductive Edition where
  | community
  | teams
  | enterprise
  deriving DecidableEq, Inhabited

namespace Edition

def all : List Edition := [community, teams, enterprise]

def name : Edition → String
  | community => "community"
  | teams => "teams"
  | enterprise => "enterprise"

/-- The place of an edition in the order. -/
def tier : Edition → Nat
  | community => 0
  | teams => 1
  | enterprise => 2

/-- The edition as it is shown. -/
def description : Edition → String
  | community => "Flyway Community Edition"
  | teams => "Flyway Teams Edition"
  | enterprise => "Flyway Enterprise Edition"

def ofName (name : String) : Except Error Edition :=
  match all.find? fun e => e.name == name with
  | some e => .ok e
  | none => .error (.value (.unknownEdition name))

end Edition

/-- The edition that each listed feature needs. -/
abbrev FeatureTable := List (String × Edition)

/-- The features that need a higher edition than the lowest. -/
def featureTable : FeatureTable :=
  ["cherryPick", "dryRunOutput", "stream", "batch", "undoSqlMigrationPrefix",
    "oracle.sqlplus", "oracle.sqlplusWarn", "oracle.kerberosConfigFile",
    "oracle.kerberosCacheFile", "outputQueryResults", "jdbcProperties", "licenseKey",
    "vaultUrl", "vaultToken", "vaultSecrets", "skipExecutingMigrations",
    "errorOverrides"].map fun f => (f, Edition.teams)

/-- The edition in use together with a table of features. -/
structure Gate where
  edition : Edition
  features : FeatureTable

namespace Gate

/-- The gate of an edition for the built-in features. -/
def standard (e : Edition) : Gate := ⟨e, featureTable⟩

def required (g : Gate) (feature : String) : Edition :=
  (Entries.get? feature g.features).getD .community

/-- The edition in use has the feature. -/
def allows (g : Gate) (feature : String) : Bool := (g.required feature).tier ≤ g.edition.tier

/-- Refuses a feature that the edition in use does not have. -/
def require (g : Gate) (feature : String) : Except Error Unit :=
  if g.allows feature then .ok ()
  else
    .error (.upgradeRequired feature (g.required feature).description g.edition.description)

end Gate

end MigrationConfig
