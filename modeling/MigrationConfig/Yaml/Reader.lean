/-
# Reading YAML

The document of a text.  A document is a tree, while a node of a graph may stand
in several places and inside itself.  In the first case it is repeated; in the
second a mark of recurrence takes its place.

How far a collection is followed into itself depends on what will be written.  A
literal shows a mark wherever a collection is met inside itself; it begins at a
mapping that is an item of a list, or further inside.  Around it a collection
that is met inside itself has no finite text at all.
-/
import MigrationConfig.Yaml.Parse
import MigrationConfig.Yaml.Value

namespace MigrationConfig.Yaml

/-- How a place of a document is written. -/
inductive Place where
  /-- as properties, or as the value of one -/
  | entry
  /-- as an item of a list -/
  | item
  /-- as part of a literal -/
  | literal
  deriving DecidableEq

/-- The places in a list. -/
def Place.ofItems : Place → Place
  | .literal => .literal
  | _ => .item

/-- The places in a mapping. -/
def Place.ofEntries : Place → Place
  | .entry => .entry
  | _ => .literal

/-- The document of a node at a place inside the collections `around`, as far as
they count. -/
def documentAt (values : Array (Option Value)) : Nat → Place → List NodeId → NodeId → Document
  | 0, _, _, _ => .null
  | steps + 1, place, around, id =>
      match (values[id]?).join with
      | none => .null
      | some (.scalar s) => .scalar s
      | some (.list items) =>
          if around.contains id then .scalar (.recurrence false)
          else .list (items.map (documentAt values steps place.ofItems (id :: around)))
      | some (.pairs entries) =>
          if around.contains id then .scalar (.recurrence false)
          else
            let part := documentAt values steps place.ofItems (id :: around)
            .list (entries.map fun e => .pair (part e.1) (part e.2))
      | some (.set members) => .set members
      | some (.mapping entries) =>
          let around := if place == .item then [] else around
          if around.contains id then .scalar (.recurrence true)
          else
            .mapping (entries.map fun (k, v) =>
              (k, documentAt values steps place.ofEntries (id :: around) v))

/-- Reads the document of a text; a text without one holds null.  A collection can
be around a place once for each way of writing it. -/
def read (text : List Char) : Except Fault Document := do
  match ← Graph.parse text with
  | (_, none) => return .null
  | (g, some root) => return documentAt (← g.values root) (3 * g.size + 1) .entry [] root

end MigrationConfig.Yaml
