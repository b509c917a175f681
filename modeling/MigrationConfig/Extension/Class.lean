/-
# Classes and modules

Extensions are classes that are known by the name of their module and their own
name.  All that the configuration asks of a class is which roles it plays,
whether an instance can be made, and what an instance tells about itself.
-/
import MigrationConfig.Error

namespace MigrationConfig

/-- A class: where it is defined, the roles it plays, why no instance can be
made, if so, and what an instance tells about itself. -/
structure ClassInfo where
  /-- the module that defines the class -/
  moduleName : String
  /-- the name within the module, with the enclosing classes -/
  qualifiedName : String
  /-- the roles that the class plays -/
  roles : List Interface
  /-- why no instance can be made -/
  obstacle : Option String
  /-- the name that an instance reports as a callback -/
  callbackName : String
  /-- the events that a callback handles, `none` for all of them -/
  events : Option (List String)
  /-- a callback can run inside a transaction -/
  transactional : Bool
  /-- the version of a migration -/
  version : Option String
  /-- the description of a migration -/
  description : String
  /-- an instance as it is shown inside a message -/
  literal : String
  deriving DecidableEq

/-- The class with its module. -/
def ClassInfo.fullName (c : ClassInfo) : String := c.moduleName ++ "." ++ c.qualifiedName

def ClassInfo.plays (c : ClassInfo) (role : Interface) : Bool := c.roles.contains role

/-- An object made from a class. -/
structure Instance where
  ofClass : ClassInfo
  deriving DecidableEq

/-- A callback handles an event. -/
def Instance.supports (i : Instance) (event : String) : Bool :=
  match i.ofClass.events with
  | none => true
  | some es => es.contains event

/-- What a name in a module stands for: a class, or anything else. -/
inductive Member where
  | ofClass (c : ClassInfo)
  | other

/-- A module that can be imported: its full name, whether it can have
submodules, why importing it fails, if so, and its members. -/
structure Module where
  name : String
  isPackage : Bool
  obstacle : Option String
  members : List (String × Member)

/-- The modules that can be imported. -/
abbrev Modules := List Module

end MigrationConfig
