/-
# Source settings

Where the settings of a configuration are read from: which files, in which
encoding, whether the default files are looked for, and whether the environment
is read.
-/
import MigrationConfig.Arguments
import MigrationConfig.Codec.Name
import MigrationConfig.Text.Case

namespace MigrationConfig

/-- Where settings are read from. -/
structure SourceSettings where
  files : List Path
  encoding : String
  usesDefaultFiles : Bool
  readsEnvironment : Bool

namespace SourceSettings

/-- The settings when nothing is said. -/
def standard : SourceSettings := ⟨[], "utf-8", true, true⟩

/-- The paths of a list, each of them a text. -/
def pathItems (n : Nat) : List Document → Except (List ArgumentFault) (List Path)
  | [] => .ok []
  | d :: rest =>
      let path : Except (List ArgumentFault) Path :=
        match d with
        | .scalar (.text s) => .ok (Path.ofString s)
        | _ => .error [⟨["config_files", Text.integerText (Int.ofNat n)], .notPath⟩]
      match path, pathItems (n + 1) rest with
      | .ok p, .ok ps => .ok (p :: ps)
      | a, b => .error (Arguments.faultsOf a ++ Arguments.faultsOf b)

/-- The list of files. -/
def filesArgument (args : Arguments) : Except (List ArgumentFault) (List Path) :=
  match args.given? "config_files" with
  | none => .ok standard.files
  | some (.list items) => pathItems 0 items
  | some _ => .error [⟨["config_files"], .notList⟩]

/-- The encoding, under the name that all its names share. -/
def encodingArgument (args : Arguments) : Except (List ArgumentFault) String :=
  let location := ["config_file_encoding"]
  match args.given? "config_file_encoding" with
  | none => .ok standard.encoding
  | some d =>
      match Arguments.textAt location d with
      | .error fs => .error fs
      | .ok name =>
          if name.toList.contains '\x00' then
            .error [⟨location, .refused (ValueFault.message .nullInName)⟩]
          else
            match Codec.lookup? name with
            | some e => .ok e.name
            | none => .error [⟨location, .refused ("Unknown config file encoding: " ++ name)⟩]

/-- The truth value that a document stands for: also one and zero, and some words
for them. -/
def flagOf : Document → Except ArgumentTrouble Bool
  | .scalar (.flag b) => .ok b
  | .scalar (.number n) =>
      if n == 1 then .ok true else if n == 0 then .ok false else .error .unreadableFlag
  | .scalar (.real x) =>
      if x == 1.0 then .ok true else if x == 0.0 then .ok false
      else if x.floor == x && !x.isInf then .error .unreadableFlag else .error .notFlag
  | .scalar (.text s) =>
      let word := String.ofList (Text.lower s.toList)
      if ["1", "on", "t", "true", "y", "yes"].contains word then .ok true
      else if ["0", "off", "f", "false", "n", "no"].contains word then .ok false
      else .error .unreadableFlag
  | _ => .error .notFlag

/-- A truth value, or the standard one. -/
def flagArgument (args : Arguments) (name : String) (default : Bool) :
    Except (List ArgumentFault) Bool :=
  match args.given? name with
  | none => .ok default
  | some d =>
      match flagOf d with
      | .ok b => .ok b
      | .error t => .error [⟨[name], t⟩]

/-- The settings that arguments describe.  All that is wrong with them is reported
together, in the order of the fields; other arguments have no meaning. -/
def ofArguments (args : Arguments) : Except Error SourceSettings :=
  let files := filesArgument args
  let encoding := encodingArgument args
  let usesDefaults := flagArgument args "use_default_locations" standard.usesDefaultFiles
  let readsEnvironment := flagArgument args "read_environment" standard.readsEnvironment
  match files, encoding, usesDefaults, readsEnvironment with
  | .ok files, .ok encoding, .ok usesDefaults, .ok readsEnvironment =>
      .ok ⟨files, encoding, usesDefaults, readsEnvironment⟩
  | _, _, _, _ =>
      .error (.arguments (Arguments.faultsOf files ++ Arguments.faultsOf encoding ++
        Arguments.faultsOf usesDefaults ++ Arguments.faultsOf readsEnvironment))

end SourceSettings

end MigrationConfig
