/-
# Loading classes by name

A class name is a module and a name in it, with a dot between; a name without a
dot is looked for in the default package.  Importing a module imports the
packages above it first.  Messages show the name as it was given, while the
module and the class are those of the trimmed name.
-/
import MigrationConfig.Host
import MigrationConfig.Text.Token

namespace MigrationConfig

/-- Why a module is not imported: it was looked for in vain, or its name is not
one that can be looked for. -/
inductive ImportFailure where
  | notFound (reason : String)
  | fault (e : Error)

namespace Modules

/-- The module of a full name. -/
def named? (ms : Modules) (name : String) : Option Module := ms.find? fun m => m.name == name

/-- A module together with its obstacle, if it has one. -/
def run (m : Module) : Except ImportFailure Module :=
  match m.obstacle with
  | some reason => .error (.notFound reason)
  | none => .ok m

/-- Imports the submodule `name` of a module that has been imported. -/
def importIn (ms : Modules) (parent : Module) (name : String) : Except ImportFailure Module :=
  if !parent.isPackage then
    .error (.notFound ("No module named " ++ Text.quoted name ++ "; " ++
      Text.quoted parent.name ++ " is not a package"))
  else
    match ms.named? name with
    | none => .error (.notFound ("No module named " ++ Text.quoted name))
    | some m => run m

/-- Imports the submodules of a module one below the other. -/
def importBelow (ms : Modules) (parent : Module) : List String → Except ImportFailure Module
  | [] => .ok parent
  | part :: rest =>
      match ms.importIn parent (parent.name ++ "." ++ part) with
      | .ok m => importBelow ms m rest
      | .error e => .error e

/-- Imports the module of a full name, after the packages above it. -/
def importNamed (ms : Modules) (name : String) : Except ImportFailure Module :=
  match (Text.splitOn ['.'] name.toList).map String.ofList with
  | [] => .error (.fault (.value .emptyModuleName))
  | top :: rest =>
      if name.isEmpty then .error (.fault (.value .emptyModuleName))
      else if top.isEmpty then .error (.fault (.type (.relativeModule name)))
      else
        match ms.named? top with
        | none => .error (.notFound ("No module named " ++ Text.quoted top))
        | some m =>
            match run m with
            | .ok m => ms.importBelow m rest
            | .error e => .error e

end Modules

namespace ClassLoader

/-- The module part and the class part of a name: what stands before and after
the last dot. -/
def splitName (name : String) : String × String :=
  let pieces := (Text.splitOn ['.'] (Text.trim name.toList)).map String.ofList
  (".".intercalate pieces.dropLast, pieces.getLast?.getD "")

/-- The module that a class name asks for. -/
def moduleOf (l : ClassLoader) (name : String) : Except Error String :=
  let m := (splitName name).1
  if m.isEmpty then
    match l.defaultPackage with
    | none => .error (.invalid (.unqualifiedClass name))
    | some p => .ok p
  else .ok m

def load (l : ClassLoader) (ms : Modules) (name : String) : Except Error ClassInfo :=
  match l.moduleOf name with
  | .error e => .error e
  | .ok moduleName =>
      match ms.importNamed moduleName with
      | .error (.notFound reason) => .error (.invalid (.moduleNotImported name reason))
      | .error (.fault e) => .error e
      | .ok m =>
          let className := (splitName name).2
          match Entries.get? className m.members with
          | some (.ofClass c) => .ok c
          | _ => .error (.invalid (.classNotFound name moduleName className))

/-- An instance of the class that `name` was found to stand for, unless the class has
an obstacle. -/
def construct (name : String) (c : ClassInfo) : Except Error Instance :=
  match c.obstacle with
  | some reason => .error (.invalid (.notConstructed name reason))
  | none => .ok ⟨c⟩

/-- The class of a name, checked for a role and for an instance to be made. -/
def prepare (l : ClassLoader) (ms : Modules) (role : Option Interface) (name : String) :
    Except Error Instance :=
  match l.load ms name with
  | .error e => .error e
  | .ok c =>
      match role with
      | some r => if c.plays r then construct name c else .error (.invalid (.wrongInterface name r))
      | none => construct name c

/-- Makes an instance of the class of a name. -/
def instantiate (l : ClassLoader) (role : Option Interface) (name : String) :
    HostM Instance := do
  let i ← HostM.ofExcept (l.prepare (← get).modules role name)
  HostM.log (.instantiated name)
  return i

/-- Makes instances of the classes of several names, in order. -/
def instantiateAll (l : ClassLoader) (role : Option Interface) :
    List String → HostM (List Instance)
  | [] => return []
  | name :: rest => do
      let i ← l.instantiate role name
      let is ← l.instantiateAll role rest
      return i :: is

end ClassLoader

end MigrationConfig
