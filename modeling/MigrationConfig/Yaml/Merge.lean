/-
# Merge keys

A mapping takes in the entries of the mappings under its merge keys, in front of
its own, so that its own override them.  Of several mappings under one merge key
the first counts most, and its entries come last.

A mapping may be under a merge key of its own, or of a mapping in it.  A merge
key is taken out of its mapping before what is under it is looked at, so each is
followed once.
-/
import MigrationConfig.Yaml.Graph

namespace MigrationConfig.Yaml.Merge

/-- A step that may take out merge keys. -/
abbrev Step := StateT Graph (Except Fault)

/-- The value under the first merge key, and the other entries. -/
def split? (g : Graph) : List Entry → Option (NodeId × List Entry)
  | [] => none
  | (k, v) :: rest =>
      if g.tag k == .merge then some (v, rest)
      else (split? g rest).map fun (u, others) => (u, (k, v) :: others)

/-- Default keys become texts like any other. -/
def withPlainKeys (g : Graph) (es : List Entry) : Graph :=
  es.foldl (fun g e => if g.tag e.1 == .default then g.withTag e.1 .text else g) g

/-- The entries of a mapping without merge keys. -/
def entriesOf (merge : NodeId → Step Unit) (id : NodeId) : Step (List Entry) := do
  match (← get).content id with
  | .mapping _ => do
      merge id
      return (← get).entries id
  | _ => throw .malformed

/-- The entries to be taken in from under a merge key: those of a mapping, or those
of several. -/
def entriesUnder (merge : NodeId → Step Unit) (id : NodeId) : Step (List Entry) := do
  match (← get).content id with
  | .sequence items => return (← items.mapM (entriesOf merge)).reverse.flatten
  | _ => entriesOf merge id

/-- Takes the merge keys out of a mapping, one after the other; `taken` are the
entries under those that are out. -/
def takeOut : Nat → List Entry → NodeId → Step Unit
  | 0, _, _ => throw .malformed
  | steps + 1, taken, id => do
      let g ← get
      match split? g (g.entries id) with
      | some (under, others) => do
          set (g.withContent id (.mapping others))
          let more ← entriesUnder (takeOut steps []) under
          takeOut steps (taken ++ more) id
      | none =>
          let es := taken ++ g.entries id
          set (withPlainKeys (g.withContent id (.mapping es)) es)

/-- The number of entries of all mappings. -/
def countEntries (g : Graph) : Nat :=
  g.nodes.foldl (fun n node => match node.content with
    | .mapping es => n + es.length
    | _ => n) 0

end MigrationConfig.Yaml.Merge

namespace MigrationConfig.Yaml

/-- The graph in which a mapping has no merge keys, and neither have those that it
takes in. -/
def Graph.merged (g : Graph) (id : NodeId) : Except Fault Graph := do
  let (_, g) ← (Merge.takeOut (Merge.countEntries g + 1) [] id).run g
  return g

end MigrationConfig.Yaml
