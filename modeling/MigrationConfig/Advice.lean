/-
# Advice

What a look at a whole configuration finds: warnings about risky combinations of
settings, and recommendations.  Nothing is refused on the ground of them.
-/
import MigrationConfig.Config.Change

namespace MigrationConfig

/-- A risky combination of settings. -/
inductive Warning where
  /-- a validation error wipes the schema -/
  | cleansOnError
  /-- a schema without history is baselined at a version -/
  | baselinesOnMigrate (version : Version)
  /-- there is no URL, yet something else of a connection -/
  | incompleteConnection
  /-- so many placeholders are not replaced -/
  | idlePlaceholders (count : Nat)

/-- Something that had better be changed. -/
inductive Recommendation where
  /-- changed migrations go unnoticed -/
  | validate
  /-- concurrent migrations fail at once -/
  | retryLock
  /-- migrations out of order are not reported -/
  | reportPending
  /-- the default schema is none of the schemas -/
  | listSchema (schema : String) (schemas : List String)

def Warning.message : Warning → String
  | cleansOnError =>
      "cleanOnValidationError is enabled: a validation error will wipe the schema. " ++
        "Do not enable this in production."
  | baselinesOnMigrate version =>
      "baselineOnMigrate is enabled: a non-empty schema without history table will be " ++
        "baselined at version " ++ version.text ++ ". Make sure the " ++
        "connection points at the intended database."
  | incompleteConnection => "Connection settings are incomplete: flyway.url must be set."
  | idlePlaceholders count =>
      Text.integerText (Int.ofNat count) ++ " placeholder(s) are defined but " ++
        "placeholderReplacement is disabled; they will not be applied."

def Recommendation.message : Recommendation → String
  | validate =>
      "validateOnMigrate is disabled. Changed migrations will go unnoticed during migrate."
  | retryLock =>
      "lockRetryCount is 0. Concurrent migrations will fail immediately instead of waiting."
  | reportPending =>
      "outOfOrder is combined with ignorePendingMigrations. Out-of-order migrations " ++
        "will not be reported by validate."
  | listSchema schema schemas =>
      "defaultSchema '" ++ schema ++ "' is not listed in schemas " ++
        (Document.texts schemas).literal ++ "."

structure Findings where
  warnings : List Warning
  recommendations : List Recommendation

namespace Findings

/-- Nothing was found. -/
def none : Findings := ⟨[], []⟩

/-- A finding if a condition holds. -/
def given {α : Type} (b : Bool) (a : α) : List α := if b then [a] else []

/-- The default schema of a configuration is none of its schemas. -/
def unlistedSchema (c : Config) : List Recommendation :=
  let schemas : List String := c.get .schemas
  match Descriptor.nonEmpty? (c.get .defaultSchema) with
  | some s => given (!schemas.isEmpty && !schemas.contains s) (.listSchema s schemas)
  | .none => []

/-- The connection settings of a configuration are incomplete. -/
def isIncomplete (c : Config) : Bool :=
  Descriptor.isIncomplete (c.get .driver) (c.get .url) (c.get .user) (c.get .password)

def of (c : Config) : Findings :=
  let placeholders : PropertyMap := c.get .placeholders
  { warnings :=
      given (c.get .cleanOnValidationError && !c.get .cleanDisabled) .cleansOnError ++
      given (c.get .baselineOnMigrate) (.baselinesOnMigrate (c.get .baselineVersion)) ++
      given (isIncomplete c) .incompleteConnection ++
      given (!c.get .placeholderReplacement && !placeholders.isEmpty)
        (.idlePlaceholders placeholders.size)
    recommendations :=
      given (!c.get .validateOnMigrate) .validate ++
      given ((c.get .lockRetryCount : Int) == 0) .retryLock ++
      given (c.get .outOfOrder && c.get .ignorePendingMigrations) .reportPending ++
      unlistedSchema c }

end Findings

end MigrationConfig
