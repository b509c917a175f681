/-
# Copying a configuration

A copy takes the settings of a source one after the other.  Each goes through
the same checks as any other argument, and a setting is left out if the edition
of the copy does not have its feature.  The connection comes along as a
descriptor, and the URL, the user and the password beside it.

A configuration can be copied into itself; it is then read while it changes.
-/
import MigrationConfig.Config.Situation

namespace MigrationConfig.Config

/-- What a copy reads from: the configuration itself, or another one. -/
inductive Source where
  | itself
  | other (c : Config)

/-- The source as it is now. -/
def Source.read : Source → Procedure Config
  | itself => Procedure.config
  | other c => return c

/-- The settings that are copied one by one. -/
def copied : List Setting := Setting.all.filter fun s => s.kind != .connectionText

/-- Copies a setting, unless the edition does not have its feature. -/
def copySetting (source : Source) (s : Setting) : Procedure Unit := do
  if (← Procedure.config).allows s then
    let value := (← source.read).get s
    Procedure.change fun c => c.assign s (s.kind.offer value)

def copySettings (source : Source) : List Setting → Procedure Unit
  | [] => return ()
  | s :: rest => do
      copySetting source s
      copySettings source rest

def copyFrom (source : Source) : Procedure Unit := do
  let descriptor := (← source.read).descriptor
  Procedure.change fun c => return c.withDescriptor descriptor
  copySettings source copied
  let c ← source.read
  Procedure.change fun d => return d.withIdentity (c.get .url) (c.get .user) (c.get .password)

/-- A new configuration for the same edition and with the same loader as a given
one, with all that a copy takes over. -/
def clone (c : Config) (h : Host) : Except Error Unit × Situation :=
  (copyFrom (.other c)).run ⟨new c.edition c.loader, h⟩

end MigrationConfig.Config
