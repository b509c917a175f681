/-
# Settings

All settings of a migration configuration: what kind each is of, the property
key it is read from, the feature that an edition must have for it, and its
value in a new configuration.
-/
import MigrationConfig.Edition
import MigrationConfig.Setting.Kind

namespace MigrationConfig

/-- The settings, in the order in which a configuration is shown. -/
inductive Setting where
  | driver
  | url
  | user
  | password
  | connectRetries
  | initSql
  | locations
  | encoding
  | defaultSchema
  | schemas
  | table
  | tablespace
  | target
  | cherryPick
  | placeholderReplacement
  | placeholders
  | placeholderPrefix
  | placeholderSuffix
  | sqlMigrationPrefix
  | undoSqlMigrationPrefix
  | repeatableSqlMigrationPrefix
  | sqlMigrationSeparator
  | sqlMigrationSuffixes
  | codeMigrations
  | resourceProvider
  | codeMigrationClassProvider
  | ignoreMissingMigrations
  | ignoreIgnoredMigrations
  | ignorePendingMigrations
  | ignoreFutureMigrations
  | validateMigrationNaming
  | validateOnMigrate
  | cleanOnValidationError
  | cleanDisabled
  | baselineVersion
  | baselineDescription
  | baselineOnMigrate
  | outOfOrder
  | skipExecutingMigrations
  | callbacks
  | skipDefaultCallbacks
  | resolvers
  | skipDefaultResolvers
  | mixed
  | group
  | installedBy
  | createSchemas
  | errorOverrides
  | dryRunOutput
  | stream
  | batch
  | outputQueryResults
  | licenseKey
  | lockRetryCount
  | jdbcProperties
  | oracleSqlplus
  | oracleSqlplusWarn
  | oracleKerberosConfigFile
  | oracleKerberosCacheFile
  | db2zDatabaseName
  | vaultUrl
  | vaultToken
  | vaultSecrets
  deriving DecidableEq, Inhabited

namespace Setting

def all : List Setting := [
    .driver, .url, .user, .password, .connectRetries, .initSql, .locations, .encoding,
    .defaultSchema, .schemas, .table, .tablespace, .target, .cherryPick, .placeholderReplacement,
    .placeholders, .placeholderPrefix, .placeholderSuffix, .sqlMigrationPrefix,
    .undoSqlMigrationPrefix, .repeatableSqlMigrationPrefix, .sqlMigrationSeparator,
    .sqlMigrationSuffixes, .codeMigrations, .resourceProvider, .codeMigrationClassProvider,
    .ignoreMissingMigrations, .ignoreIgnoredMigrations, .ignorePendingMigrations,
    .ignoreFutureMigrations, .validateMigrationNaming, .validateOnMigrate,
    .cleanOnValidationError, .cleanDisabled, .baselineVersion, .baselineDescription,
    .baselineOnMigrate, .outOfOrder, .skipExecutingMigrations, .callbacks, .skipDefaultCallbacks,
    .resolvers, .skipDefaultResolvers, .mixed, .group, .installedBy, .createSchemas,
    .errorOverrides, .dryRunOutput, .stream, .batch, .outputQueryResults, .licenseKey,
    .lockRetryCount, .jdbcProperties, .oracleSqlplus, .oracleSqlplusWarn,
    .oracleKerberosConfigFile, .oracleKerberosCacheFile, .db2zDatabaseName, .vaultUrl,
    .vaultToken, .vaultSecrets]

/-- The kind of a setting. -/
@[reducible] def kind : Setting → Kind
  | driver => .connectionText
  | url => .connectionText
  | user => .connectionText
  | password => .connectionText
  | connectRetries => .counter
  | initSql => .optionalText
  | locations => .texts
  | encoding => .encoding
  | defaultSchema => .optionalText
  | schemas => .texts
  | table => .text
  | tablespace => .optionalText
  | target => .version
  | cherryPick => .patterns
  | placeholderReplacement => .flag
  | placeholders => .table
  | placeholderPrefix => .requiredText
  | placeholderSuffix => .requiredText
  | sqlMigrationPrefix => .text
  | undoSqlMigrationPrefix => .text
  | repeatableSqlMigrationPrefix => .text
  | sqlMigrationSeparator => .requiredText
  | sqlMigrationSuffixes => .texts
  | codeMigrations => .instances .codeMigration
  | resourceProvider => .provider
  | codeMigrationClassProvider => .provider
  | ignoreMissingMigrations => .flag
  | ignoreIgnoredMigrations => .flag
  | ignorePendingMigrations => .flag
  | ignoreFutureMigrations => .flag
  | validateMigrationNaming => .flag
  | validateOnMigrate => .flag
  | cleanOnValidationError => .flag
  | cleanDisabled => .flag
  | baselineVersion => .version
  | baselineDescription => .text
  | baselineOnMigrate => .flag
  | outOfOrder => .flag
  | skipExecutingMigrations => .flag
  | callbacks => .instances .callback
  | skipDefaultCallbacks => .flag
  | resolvers => .instances .resolver
  | skipDefaultResolvers => .flag
  | mixed => .flag
  | group => .flag
  | installedBy => .nonEmptyText
  | createSchemas => .flag
  | errorOverrides => .overrides
  | dryRunOutput => .output
  | stream => .flag
  | batch => .flag
  | outputQueryResults => .flag
  | licenseKey => .optionalText
  | lockRetryCount => .counter
  | jdbcProperties => .table
  | oracleSqlplus => .flag
  | oracleSqlplusWarn => .flag
  | oracleKerberosConfigFile => .optionalText
  | oracleKerberosCacheFile => .optionalText
  | db2zDatabaseName => .optionalText
  | vaultUrl => .optionalText
  | vaultToken => .optionalText
  | vaultSecrets => .texts

/-- What a setting holds. -/
abbrev Value (s : Setting) : Type := s.kind.Value

/-- What a setting can be given. -/
abbrev Argument (s : Setting) : Type := s.kind.Argument

/-- The name of a setting in messages. -/
def name : Setting → String
  | driver => "driver"
  | url => "url"
  | user => "user"
  | password => "password"
  | connectRetries => "connectRetries"
  | initSql => "initSql"
  | locations => "locations"
  | encoding => "encoding"
  | defaultSchema => "defaultSchema"
  | schemas => "schemas"
  | table => "table"
  | tablespace => "tablespace"
  | target => "target"
  | cherryPick => "cherryPick"
  | placeholderReplacement => "placeholderReplacement"
  | placeholders => "placeholders"
  | placeholderPrefix => "placeholderPrefix"
  | placeholderSuffix => "placeholderSuffix"
  | sqlMigrationPrefix => "sqlMigrationPrefix"
  | undoSqlMigrationPrefix => "undoSqlMigrationPrefix"
  | repeatableSqlMigrationPrefix => "repeatableSqlMigrationPrefix"
  | sqlMigrationSeparator => "sqlMigrationSeparator"
  | sqlMigrationSuffixes => "sqlMigrationSuffixes"
  | codeMigrations => "codeMigrations"
  | resourceProvider => "resourceProvider"
  | codeMigrationClassProvider => "codeMigrationClassProvider"
  | ignoreMissingMigrations => "ignoreMissingMigrations"
  | ignoreIgnoredMigrations => "ignoreIgnoredMigrations"
  | ignorePendingMigrations => "ignorePendingMigrations"
  | ignoreFutureMigrations => "ignoreFutureMigrations"
  | validateMigrationNaming => "validateMigrationNaming"
  | validateOnMigrate => "validateOnMigrate"
  | cleanOnValidationError => "cleanOnValidationError"
  | cleanDisabled => "cleanDisabled"
  | baselineVersion => "baselineVersion"
  | baselineDescription => "baselineDescription"
  | baselineOnMigrate => "baselineOnMigrate"
  | outOfOrder => "outOfOrder"
  | skipExecutingMigrations => "skipExecutingMigrations"
  | callbacks => "callbacks"
  | skipDefaultCallbacks => "skipDefaultCallbacks"
  | resolvers => "resolvers"
  | skipDefaultResolvers => "skipDefaultResolvers"
  | mixed => "mixed"
  | group => "group"
  | installedBy => "installedBy"
  | createSchemas => "createSchemas"
  | errorOverrides => "errorOverrides"
  | dryRunOutput => "dryRunOutput"
  | stream => "stream"
  | batch => "batch"
  | outputQueryResults => "outputQueryResults"
  | licenseKey => "licenseKey"
  | lockRetryCount => "lockRetryCount"
  | jdbcProperties => "jdbcProperties"
  | oracleSqlplus => "oracleSqlplus"
  | oracleSqlplusWarn => "oracleSqlplusWarn"
  | oracleKerberosConfigFile => "oracleKerberosConfigFile"
  | oracleKerberosCacheFile => "oracleKerberosCacheFile"
  | db2zDatabaseName => "db2zDatabaseName"
  | vaultUrl => "vaultUrl"
  | vaultToken => "vaultToken"
  | vaultSecrets => "vaultSecrets"

/-- The property key that a setting is read from.  Some settings are not read
from a property, or from those of a whole namespace. -/
def key? : Setting → Option String
  | driver => some "flyway.driver"
  | url => some "flyway.url"
  | user => some "flyway.user"
  | password => some "flyway.password"
  | connectRetries => some "flyway.connectRetries"
  | initSql => some "flyway.initSql"
  | locations => some "flyway.locations"
  | encoding => some "flyway.encoding"
  | defaultSchema => some "flyway.defaultSchema"
  | schemas => some "flyway.schemas"
  | table => some "flyway.table"
  | tablespace => some "flyway.tablespace"
  | target => some "flyway.target"
  | cherryPick => some "flyway.cherryPick"
  | placeholderReplacement => some "flyway.placeholderReplacement"
  | placeholderPrefix => some "flyway.placeholderPrefix"
  | placeholderSuffix => some "flyway.placeholderSuffix"
  | sqlMigrationPrefix => some "flyway.sqlMigrationPrefix"
  | undoSqlMigrationPrefix => some "flyway.undoSqlMigrationPrefix"
  | repeatableSqlMigrationPrefix => some "flyway.repeatableSqlMigrationPrefix"
  | sqlMigrationSeparator => some "flyway.sqlMigrationSeparator"
  | sqlMigrationSuffixes => some "flyway.sqlMigrationSuffixes"
  | ignoreMissingMigrations => some "flyway.ignoreMissingMigrations"
  | ignoreIgnoredMigrations => some "flyway.ignoreIgnoredMigrations"
  | ignorePendingMigrations => some "flyway.ignorePendingMigrations"
  | ignoreFutureMigrations => some "flyway.ignoreFutureMigrations"
  | validateMigrationNaming => some "flyway.validateMigrationNaming"
  | validateOnMigrate => some "flyway.validateOnMigrate"
  | cleanOnValidationError => some "flyway.cleanOnValidationError"
  | cleanDisabled => some "flyway.cleanDisabled"
  | baselineVersion => some "flyway.baselineVersion"
  | baselineDescription => some "flyway.baselineDescription"
  | baselineOnMigrate => some "flyway.baselineOnMigrate"
  | outOfOrder => some "flyway.outOfOrder"
  | skipExecutingMigrations => some "flyway.skipExecutingMigrations"
  | callbacks => some "flyway.callbacks"
  | skipDefaultCallbacks => some "flyway.skipDefaultCallbacks"
  | resolvers => some "flyway.resolvers"
  | skipDefaultResolvers => some "flyway.skipDefaultResolvers"
  | mixed => some "flyway.mixed"
  | group => some "flyway.group"
  | installedBy => some "flyway.installedBy"
  | createSchemas => some "flyway.createSchemas"
  | errorOverrides => some "flyway.errorOverrides"
  | dryRunOutput => some "flyway.dryRunOutput"
  | stream => some "flyway.stream"
  | batch => some "flyway.batch"
  | outputQueryResults => some "flyway.outputQueryResults"
  | licenseKey => some "flyway.licenseKey"
  | lockRetryCount => some "flyway.lockRetryCount"
  | oracleSqlplus => some "flyway.oracle.sqlplus"
  | oracleSqlplusWarn => some "flyway.oracle.sqlplusWarn"
  | oracleKerberosConfigFile => some "flyway.oracle.kerberosConfigFile"
  | oracleKerberosCacheFile => some "flyway.oracle.kerberosCacheFile"
  | db2zDatabaseName => some "flyway.db2z.databaseName"
  | vaultUrl => some "flyway.vault.url"
  | vaultToken => some "flyway.vault.token"
  | vaultSecrets => some "flyway.vault.secrets"
  | _ => none

/-- The feature that an edition must have for a setting. -/
def feature? : Setting → Option String
  | cherryPick => some "cherryPick"
  | undoSqlMigrationPrefix => some "undoSqlMigrationPrefix"
  | skipExecutingMigrations => some "skipExecutingMigrations"
  | errorOverrides => some "errorOverrides"
  | dryRunOutput => some "dryRunOutput"
  | stream => some "stream"
  | batch => some "batch"
  | outputQueryResults => some "outputQueryResults"
  | licenseKey => some "licenseKey"
  | jdbcProperties => some "jdbcProperties"
  | oracleSqlplus => some "oracle.sqlplus"
  | oracleSqlplusWarn => some "oracle.sqlplusWarn"
  | oracleKerberosConfigFile => some "oracle.kerberosConfigFile"
  | oracleKerberosCacheFile => some "oracle.kerberosCacheFile"
  | vaultUrl => some "vaultUrl"
  | vaultToken => some "vaultToken"
  | vaultSecrets => some "vaultSecrets"
  | _ => none

/-- The settings with a property key, in the order in which they are applied:
first the ones that a connection is derived from. -/
def applied : List Setting := [
    .driver, .url, .user, .password, .connectRetries, .initSql, .locations,
    .placeholderReplacement, .placeholderPrefix, .placeholderSuffix, .sqlMigrationPrefix,
    .undoSqlMigrationPrefix, .repeatableSqlMigrationPrefix, .sqlMigrationSeparator,
    .sqlMigrationSuffixes, .encoding, .defaultSchema, .schemas, .table, .tablespace,
    .cleanOnValidationError, .cleanDisabled, .validateOnMigrate, .baselineVersion,
    .baselineDescription, .baselineOnMigrate, .ignoreMissingMigrations, .ignoreIgnoredMigrations,
    .ignorePendingMigrations, .ignoreFutureMigrations, .validateMigrationNaming, .target,
    .cherryPick, .lockRetryCount, .outOfOrder, .skipExecutingMigrations, .outputQueryResults,
    .resolvers, .skipDefaultResolvers, .callbacks, .skipDefaultCallbacks, .mixed, .group,
    .installedBy, .dryRunOutput, .errorOverrides, .stream, .batch, .oracleSqlplus,
    .oracleSqlplusWarn, .oracleKerberosConfigFile, .oracleKerberosCacheFile, .db2zDatabaseName,
    .createSchemas, .licenseKey, .vaultUrl, .vaultToken, .vaultSecrets]

/-- The settings with a property key, in the order in which they are listed. -/
def recognized : List Setting := [
    .driver, .url, .user, .password, .connectRetries, .initSql, .locations,
    .placeholderReplacement, .placeholderPrefix, .placeholderSuffix, .sqlMigrationPrefix,
    .undoSqlMigrationPrefix, .repeatableSqlMigrationPrefix, .sqlMigrationSeparator,
    .sqlMigrationSuffixes, .encoding, .defaultSchema, .schemas, .table, .tablespace,
    .cleanOnValidationError, .cleanDisabled, .validateOnMigrate, .validateMigrationNaming,
    .baselineVersion, .baselineDescription, .baselineOnMigrate, .ignoreMissingMigrations,
    .ignoreIgnoredMigrations, .ignorePendingMigrations, .ignoreFutureMigrations, .target,
    .cherryPick, .lockRetryCount, .outOfOrder, .skipExecutingMigrations, .outputQueryResults,
    .resolvers, .skipDefaultResolvers, .callbacks, .skipDefaultCallbacks, .mixed, .group,
    .installedBy, .dryRunOutput, .errorOverrides, .stream, .batch, .oracleSqlplus,
    .oracleSqlplusWarn, .oracleKerberosConfigFile, .oracleKerberosCacheFile, .db2zDatabaseName,
    .createSchemas, .licenseKey, .vaultUrl, .vaultToken, .vaultSecrets]

/-- The settings that are written as properties: those that need no feature. -/
def exported : List Setting := recognized.filter fun s => s.feature?.isNone

/-- The value of a setting in a new configuration. -/
def initial : (s : Setting) → s.Value
  | driver => none
  | url => none
  | user => none
  | password => none
  | connectRetries => (0 : Int)
  | initSql => none
  | locations => ["db/migration"]
  | encoding => "utf-8"
  | defaultSchema => none
  | schemas => []
  | table => "flyway_schema_history"
  | tablespace => none
  | target => .latest
  | cherryPick => []
  | placeholderReplacement => true
  | placeholders => PropertyMap.empty
  | placeholderPrefix => "$\x7b"
  | placeholderSuffix => "\x7d"
  | sqlMigrationPrefix => "V"
  | undoSqlMigrationPrefix => "U"
  | repeatableSqlMigrationPrefix => "R"
  | sqlMigrationSeparator => "__"
  | sqlMigrationSuffixes => [".sql"]
  | codeMigrations => []
  | resourceProvider => .scalar .null
  | codeMigrationClassProvider => .scalar .null
  | ignoreMissingMigrations => false
  | ignoreIgnoredMigrations => false
  | ignorePendingMigrations => false
  | ignoreFutureMigrations => true
  | validateMigrationNaming => false
  | validateOnMigrate => true
  | cleanOnValidationError => false
  | cleanDisabled => false
  | baselineVersion => .numeric "1" [1]
  | baselineDescription => "<< Flyway Baseline >>"
  | baselineOnMigrate => false
  | outOfOrder => false
  | skipExecutingMigrations => false
  | callbacks => []
  | skipDefaultCallbacks => false
  | resolvers => []
  | skipDefaultResolvers => false
  | mixed => false
  | group => false
  | installedBy => none
  | createSchemas => true
  | errorOverrides => []
  | dryRunOutput => none
  | stream => false
  | batch => false
  | outputQueryResults => true
  | licenseKey => none
  | lockRetryCount => (50 : Int)
  | jdbcProperties => PropertyMap.empty
  | oracleSqlplus => false
  | oracleSqlplusWarn => false
  | oracleKerberosConfigFile => none
  | oracleKerberosCacheFile => none
  | db2zDatabaseName => none
  | vaultUrl => none
  | vaultToken => none
  | vaultSecrets => []

end Setting

end MigrationConfig
