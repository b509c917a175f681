/-
# YAML graphs

What the tokens of a text describe: nodes with their tags, of which the
collections lead to other nodes.  A node is known by its place among all nodes.
An alias leads to a node that is there already, so one node may stand in several
places, and a collection inside itself.
-/
import MigrationConfig.Yaml.Tag

namespace MigrationConfig.Yaml

/-- A node by its place in a graph. -/
abbrev NodeId := Nat

/-- An entry of a mapping: its key and its value. -/
abbrev Entry := NodeId × NodeId

/-- What a node consists of. -/
inductive Content where
  | scalar (text : List Char)
  | sequence (items : List NodeId)
  | mapping (entries : List Entry)

structure Node where
  tag : Tag
  content : Content

/-- The empty scalar, which stands where a node is left out. -/
def Node.absent : Node := ⟨Plain.tag [], .scalar []⟩

/-- Nodes that lead to each other. -/
structure Graph where
  nodes : Array Node

namespace Graph

def empty : Graph := ⟨#[]⟩

def size (g : Graph) : Nat := g.nodes.size

/-- Adds a node, whose place is the size of the graph before. -/
def add (g : Graph) (n : Node) : Graph := ⟨g.nodes.push n⟩

def node (g : Graph) (id : NodeId) : Node := g.nodes.getD id .absent

def tag (g : Graph) (id : NodeId) : Tag := (g.node id).tag

def content (g : Graph) (id : NodeId) : Content := (g.node id).content

/-- The entries of a mapping; other nodes have none. -/
def entries (g : Graph) (id : NodeId) : List Entry :=
  match g.content id with
  | .mapping es => es
  | _ => []

def withContent (g : Graph) (id : NodeId) (c : Content) : Graph :=
  ⟨g.nodes.modify id fun n => { n with content := c }⟩

def withTag (g : Graph) (id : NodeId) (t : Tag) : Graph :=
  ⟨g.nodes.modify id fun n => { n with tag := t }⟩

end Graph

end MigrationConfig.Yaml
