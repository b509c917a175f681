/-
# Formats of a written configuration

The property map of a configuration as a text that a settings file can hold.
-/
import MigrationConfig.Config.Export
import MigrationConfig.Json.Printer
import MigrationConfig.Property.Writer
import MigrationConfig.Text.Case
import MigrationConfig.Yaml.Printer

namespace MigrationConfig

/-- Writes a property map in the format of a name, in any case. -/
def PropertyMap.format (m : PropertyMap) (name : String) : Except Error String :=
  let format := String.ofList (Text.lower name.toList)
  if format == "json" then .ok (Json.print m)
  else if format == "yaml" || format == "yml" then .ok (Yaml.Printer.print m)
  else if format == "properties" || format == "conf" then
    .ok (String.ofList (PropertiesText.write m))
  else .error (.value (.unsupportedFormat name))

/-- Writes a configuration in the format of a name. -/
def Config.format (c : Config) (name : String) : Except Error String := do
  (← c.properties).format name

end MigrationConfig
