/-
# Faults of YAML texts

A text is malformed, or it is well formed and holds a scalar that cannot be
converted.
-/
import MigrationConfig.Error

namespace MigrationConfig.Yaml

/-- Why a YAML text yields no document. -/
inductive Fault where
  | malformed
  | value (fault : ValueFault)

end MigrationConfig.Yaml
