/-
# Situations

A configuration together with its host.  A procedure made of several changes
stops at the first that fails; what the changes before it did stays, both to
the configuration and to the host.
-/
import MigrationConfig.Config.Change

namespace MigrationConfig

structure Situation where
  config : Config
  host : Host

/-- A procedure on a configuration and its host. -/
abbrev Procedure := ExceptT Error (StateM Situation)

namespace Procedure

/-- Performs a change; one that fails leaves the configuration as it is. -/
def change (f : Config → HostM Config) : Procedure Unit :=
  ExceptT.mk fun s =>
    match (f s.config).run s.host with
    | (.ok c, h) => (.ok (), ⟨c, h⟩)
    | (.error e, h) => (.error e, ⟨s.config, h⟩)

/-- The configuration at hand. -/
def config : Procedure Config := do return (← get).config

def log (e : Event) : Procedure Unit :=
  modify fun s => { s with host := s.host.record e }

/-- Goes on with a result, or fails with its error. -/
def ofExcept {α : Type} : Except Error α → Procedure α
  | .ok a => pure a
  | .error e => throw e

end Procedure

end MigrationConfig
