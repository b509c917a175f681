/-
# Namespaces

The keys that lie under a common root — the root itself excluded — form a
namespace.  `extract` takes such a namespace out of a map: the names are the
keys without the root, they are laid over the names that are known already, and
the rest of the map is left as it was.
-/
import MigrationConfig.Property.Map

namespace MigrationConfig.Namespace

/-- What follows the root `r` in a text that begins with it. -/
def dropRoot : List Char → List Char → Option (List Char)
  | [], s => some s
  | _ :: _, [] => none
  | r :: rs, c :: s => if r == c then dropRoot rs s else none

/-- The text begins with `root`. -/
def beginsWith (root s : String) : Bool := (dropRoot root.toList s.toList).isSome

/-- The name of a key in the namespace under `root`; the bare root has none. -/
def name? (root key : String) : Option String :=
  match dropRoot root.toList key.toList with
  | some (c :: cs) => some (String.ofList (c :: cs))
  | _ => none

/-- The names of a map under `root` with their values, in order. -/
def members (root : String) (m : PropertyMap) : List (String × String) :=
  m.entries.filterMap fun e => (name? root e.1).map fun n => (n, e.2)

/-- The entries of a map that are not under `root`. -/
def outside (root : String) (m : PropertyMap) : PropertyMap :=
  m.filter fun e => (name? root e.1).isNone

/-- Takes the namespace under `root` out of a map: the names laid over those of
`current`, and the remaining entries. -/
def extract (m : PropertyMap) (root : String) (current : PropertyMap) :
    PropertyMap × PropertyMap :=
  (current.insertAll (members root m), outside root m)

end MigrationConfig.Namespace
