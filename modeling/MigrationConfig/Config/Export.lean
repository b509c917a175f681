/-
# Writing properties

The property map of a configuration: the settings that need no feature and have
a text, then the placeholders.  Applying it to a new configuration gives these
settings their values again.
-/
import MigrationConfig.Config.Properties

namespace MigrationConfig.Config

/-- The entry of a setting, if it has a key and its value has a text. -/
def entry? (c : Config) (s : Setting) : Except Error (Option (String × String)) :=
  match s.key? with
  | none => .ok none
  | some key => (s.kind.write (c.get s)).map fun text => text.map fun t => (key, t)

def entries (c : Config) : List Setting → Except Error (List (String × String))
  | [] => .ok []
  | s :: rest =>
      match c.entry? s with
      | .error e => .error e
      | .ok entry =>
          match c.entries rest with
          | .error e => .error e
          | .ok es => .ok (entry.toList ++ es)

def placeholderEntries (c : Config) : List (String × String) :=
  PropertyMap.entries (c.get .placeholders) |>.map fun e => (placeholderRoot ++ e.1, e.2)

/-- The property map of a configuration. -/
def properties (c : Config) : Except Error PropertyMap :=
  (c.entries Setting.exported).map fun es => .ofList (es ++ c.placeholderEntries)

end MigrationConfig.Config
