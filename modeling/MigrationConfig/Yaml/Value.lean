/-
# Values of YAML nodes

What each node of a graph stands for: a scalar, a list of nodes, or a mapping
from scalars to nodes, and also pairs of nodes and a set of scalars.  Collections are
given their values level by level, from the root down, so the first fault is the one of
the highest level.

A node may be refused: its tag may be unknown, it may not fit its tag, or it may
be a collection in the place of a key.
-/
import MigrationConfig.Yaml.Base64
import MigrationConfig.Yaml.Merge
import MigrationConfig.Yaml.Number

namespace MigrationConfig.Yaml

/-- What a node stands for. -/
inductive Value where
  | scalar (s : Scalar)
  | list (items : List NodeId)
  | pairs (entries : List Entry)
  | set (members : List Scalar)
  | mapping (entries : List (Scalar × NodeId))

namespace Graph

/-- The text of a scalar; a mapping has the one under its first default key, which
is followed for a number of steps. -/
def textWithin (g : Graph) : Nat → NodeId → Except Fault (List Char)
  | 0, _ => .error (.value (.endless .text))
  | steps + 1, id =>
      match g.content id with
      | .scalar s => .ok s
      | .sequence _ => .error .malformed
      | .mapping es =>
          match es.find? fun e => g.tag e.1 == .default with
          | some e => textWithin g steps e.2
          | none => .error .malformed

def text (g : Graph) (id : NodeId) : Except Fault (List Char) := g.textWithin (g.size + 1) id

/-- A node is taken as a collection. -/
def isCollection (g : Graph) (id : NodeId) : Bool :=
  match g.tag id with
  | .sequence | .pairs | .mapping | .set => true
  | _ => false

end Graph

/-- The scalar of a text with a tag; some tags are not those of scalars, and not every
text holds bytes. -/
def Tag.scalar (tag : Tag) (text : List Char) : Except ValueFault (Option Scalar) :=
  match tag with
  | .null => .ok (some .null)
  | .flag => (Number.flag text).map fun b => some (.flag b)
  | .integer => (Number.integer text).map fun n => some (.number n)
  | .real => (Number.real text).map fun x => some (.real x)
  | .timestamp =>
      match Plain.stamp? (Plain.withoutLineFeed text) with
      | some f => (Number.stamp f).map fun t => some (.stamp t)
      | none => .error .notTimestamp
  | .text => .ok (some (.text (String.ofList text)))
  | .bytes => .ok ((Base64.decode? text).map .bytes)
  | _ => .ok none

/-- The members of a set in the order in which they are shown: whole numbers from the
least on, and others as they were written. -/
def membersInOrder (members : List Scalar) : List Scalar :=
  match members.mapM Scalar.integer? with
  | none => members
  | some ns => ((members.zip ns).mergeSort fun a b => a.2 ≤ b.2).map Prod.fst

/-- A key of a mapping.  Two keys that are no number are the same if they are one
node, or if both are the one such value that needs no tag. -/
structure Key where
  scalar : Scalar
  /-- the node of the key, absent for that one value -/
  origin : Option NodeId

instance : BEq Key := ⟨fun a b => a.scalar == b.scalar || a.origin == b.origin⟩

/-- The values that have been found in a graph. -/
structure Building where
  graph : Graph
  values : Array (Option Value)

/-- A step of finding values. -/
abbrev Build := StateT Building (Except Fault)

namespace Build

/-- The value of a node, if it has one yet. -/
def value? (id : NodeId) : Build (Option Value) := do return ((← get).values[id]?).join

def give (id : NodeId) (v : Value) : Build Unit :=
  modify fun b => { b with values := b.values.setIfInBounds id (some v) }

/-- Finds the scalar of a node that is not taken as a collection. -/
def scalar (id : NodeId) : Build Scalar := do
  match ← value? id with
  | some (.scalar s) => return s
  | _ => do
      let g := (← get).graph
      match (g.tag id).scalar (← g.text id) with
      | .ok (some s) => do
          give id (.scalar s)
          return s
      | .ok none => throw .malformed
      | .error f => throw (.value f)

/-- Comes to a node: a scalar is found, a collection is empty until its level comes.
Yields the collections that are new. -/
def visit (id : NodeId) : Build (List NodeId) := do
  if (← get).graph.isCollection id then
    if (← value? id).isSome then return []
    give id (.list [])
    return [id]
  else
    let _ ← scalar id
    return []

/-- The key of an entry, which is no collection. -/
def key (id : NodeId) : Build Key := do
  let g := (← get).graph
  if g.isCollection id then throw .malformed
  match ← scalar id with
  | .real x => do
      let text ← g.text id
      return ⟨.real x, if Number.isPlainNan text then none else some id⟩
  | s => return ⟨s, some id⟩

/-- Finds the keys of entries, and comes to their values; what is found is put in
front of what is there. -/
def entries : List Entry → Build (List (Key × NodeId) × List NodeId)
  | [] => return ([], [])
  | (k, v) :: rest => do
      let k ← key k
      let new ← visit v
      let (found, others) ← entries rest
      return ((k, v) :: found, new ++ others)

/-- Finds the entries of a mapping, those that are merged in among them. -/
def mapping (id : NodeId) : Build (List (Scalar × NodeId) × List NodeId) := do
  let b ← get
  let graph ← b.graph.merged id
  set { b with graph }
  let (found, new) ← entries (graph.entries id)
  return ((Entries.ofPairs found).map fun e => (e.1.scalar, e.2), new)

/-- Comes to the two parts of a pair, which is a mapping of one entry. -/
def pair (id : NodeId) : Build (Entry × List NodeId) := do
  match (← get).graph.content id with
  | .mapping [(first, second)] => do
      let new ← visit first
      return ((first, second), new ++ (← visit second))
  | _ => throw .malformed

/-- Finds the value of a collection, and comes to what is in it. -/
def collection (id : NodeId) : Build (List NodeId) := do
  let g := (← get).graph
  match g.tag id, g.content id with
  | .sequence, .sequence items => do
      give id (.list items)
      return (← items.mapM visit).flatten
  | .pairs, .sequence items => do
      let found ← items.mapM pair
      give id (.pairs (found.map Prod.fst))
      return (found.map Prod.snd).flatten
  | .mapping, .mapping _ => do
      let (found, new) ← mapping id
      give id (.mapping found)
      return new
  | .set, .mapping _ => do
      let (found, new) ← mapping id
      give id (.set (membersInOrder (found.map Prod.fst)))
      return new
  | _, _ => throw .malformed

/-- Goes down level by level. -/
def levels : Nat → List NodeId → Build Unit
  | 0, _ => return ()
  | steps + 1, level => do
      if !level.isEmpty then levels steps (← level.mapM collection).flatten

end Build

/-- The values of a node and of all that is in it. -/
def Graph.values (g : Graph) (root : NodeId) : Except Fault (Array (Option Value)) := do
  let all : Build Unit := do Build.levels (g.size + 1) (← Build.visit root)
  let (_, b) ← all.run ⟨g, Array.replicate g.size none⟩
  return b.values

end MigrationConfig.Yaml
