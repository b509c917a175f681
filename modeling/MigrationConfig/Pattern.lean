/-
# Patterns

A pattern picks migrations.  One that is a version picks the versioned
migration of that version; any other picks repeatable migrations by their
description, in which a space and an underscore are the same.
-/
import MigrationConfig.Version

namespace MigrationConfig

/-- A pattern that picks migrations, by its text, which is not blank. -/
structure Pattern where
  text : String
  notBlank : Text.isBlankText text = false
  deriving DecidableEq

namespace Pattern

/-- The pattern of a text, unless that is blank. -/
def ofText : Option String → Except Error Pattern
  | none => .error (.invalid .blankPattern)
  | some s =>
      if h : Text.isBlankText s = false then .ok ⟨s, h⟩ else .error (.invalid .blankPattern)

/-- A description with underscores for spaces. -/
def joined (s : String) : List Char := s.toList.map fun c => if c == ' ' then '_' else c

/-- The pattern picks the migration with a version, or without one, and a
description.  An invalid version picks no versioned migration; an integer that
cannot be read is a fault. -/
def picks (p : Pattern) (version : Option Version) (description : String) :
    Except Error Bool :=
  match version with
  | none => .ok (joined p.text == joined description)
  | some v =>
      match Version.parse (some p.text) with
      | .ok w => .ok (w.same v)
      | .error e => if e.isConfiguration then .ok false else .error e

end Pattern

end MigrationConfig
