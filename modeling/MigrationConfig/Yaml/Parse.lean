/-
# Parsing YAML

The graph that the tokens of a text describe.  Tokens are asked for one by one,
and a text is refused at the first one that does not fit.  An anchor names its
node from the start on, also while the node is parsed; its name must be new, and
an alias must name an anchor in front of it.  A text holds at most one document.
-/
import MigrationConfig.Yaml.Graph
import MigrationConfig.Yaml.Token

namespace MigrationConfig.Yaml

/-- What remains to be parsed, the nodes so far, the anchors, and what the handles
of tags stand for. -/
structure Progress where
  lexer : Lexer
  graph : Graph
  anchors : List (List Char × NodeId)
  handles : List (List Char × List Char)

/-- A step of parsing. -/
abbrev Parse := StateT Progress (Except Fault)

namespace Parse

def refuse {α : Type} : Parse α := throw .malformed

def peek : Parse Token := do
  let p ← get
  let lexer ← p.lexer.ahead
  set { p with lexer }
  return lexer.next?.getD .textEnd

def drop : Parse Unit := modify fun p => { p with lexer := p.lexer.take }

/-- Goes past the next token if it is `t`, and tells whether it was. -/
def accept (t : Token) : Parse Bool := do
  if (← peek) == t then
    drop
    return true
  else return false

/-- Goes past the token `t`, which has to be next. -/
def expect (t : Token) : Parse Unit := do
  if !(← accept t) then refuse

/-- The handles that stand for something without a directive. -/
def standardHandles : List (List Char × List Char) :=
  [("!".toList, "!".toList), ("!!".toList, Tag.standardRoot)]

def tagName : Option (List Char) → List Char → Parse (List Char)
  | none, suffix => return suffix
  | some handle, suffix => do
      match Entries.get? handle (← get).handles with
      | some meaning => return meaning ++ suffix
      | none => refuse

/-- The anchor in front of a node, if there is one. -/
def anchor? : Parse (Option (List Char)) := do
  match ← peek with
  | .anchor name => do
      drop
      return some name
  | _ => return none

/-- The tag in front of a node, if there is one. -/
def tag? : Parse (Option (Option (List Char) × List Char)) := do
  match ← peek with
  | .tag handle suffix => do
      drop
      return some (handle, suffix)
  | _ => return none

/-- The anchor and the tag in front of a node, in either order. -/
def marks : Parse (Option (List Char) × Option (Option (List Char) × List Char)) := do
  match ← anchor? with
  | some name => return (some name, ← tag?)
  | none => do
      match ← tag? with
      | some tag => return (← anchor?, some tag)
      | none => return (none, none)

/-- The anchor and the full name of the tag in front of a node. -/
def properties : Parse (Option (List Char) × Option (List Char)) := do
  let (anchor, tag) ← marks
  match tag with
  | none => return (anchor, none)
  | some (handle, suffix) => return (anchor, some (← tagName handle suffix))

/-- The tag of a scalar: the one in front of it, or the one of its text where it
is plain. -/
def scalarTag (tag : Option (List Char)) (plain : Bool) (text : List Char) : Tag :=
  match tag with
  | some name => if name == ['!'] then Plain.tag text else .ofName name
  | none => if plain then Plain.tag text else .text

/-- The tag of a collection: the one in front of it, or its own. -/
def collectionTag (tag : Option (List Char)) (own : Tag) : Tag :=
  match tag with
  | some name => if name == ['!'] then own else .ofName name
  | none => own

/-- Adds a node, under an anchor if one is given, whose name must be new. -/
def add (anchor : Option (List Char)) (n : Node) : Parse NodeId := do
  let p ← get
  let id := p.graph.size
  let graph := p.graph.add n
  match anchor with
  | none => set { p with graph }
  | some name => do
      if (Entries.get? name p.anchors).isSome then refuse
      set { p with graph, anchors := (name, id) :: p.anchors }
  return id

/-- Gives a collection that was added its content. -/
def fill (id : NodeId) (c : Content) : Parse NodeId := do
  modify fun p => { p with graph := p.graph.withContent id c }
  return id

/-- The node that an alias leads to. -/
def aliased (name : List Char) : Parse NodeId := do
  match Entries.get? name (← get).anchors with
  | some id => return id
  | none => refuse

/-- The next token is one of several. -/
def atOneOf (ts : List Token) : Parse Bool := do return ts.contains (← peek)

/-- A node that is left out. -/
def absent : Parse NodeId := add none .absent

/-- An empty scalar, if an anchor or a tag is given for one. -/
def emptyScalar (anchor tag : Option (List Char)) : Parse NodeId := do
  if anchor.isNone && tag.isNone then refuse
  add anchor ⟨scalarTag tag true [], .scalar []⟩

mutual

/-- Parses a node.  In a block it may be a block itself; as a value of a mapping it
may be a sequence that is not indented. -/
def node : Nat → (inBlock mayBeUnindented : Bool) → Parse NodeId
  | 0, _, _ => refuse
  | steps + 1, inBlock, mayBeUnindented => do
      match ← peek with
      | .alias name => do
          drop
          aliased name
      | _ => do
          let (anchor, tag) ← properties
          let sequenceTag := collectionTag tag .sequence
          let mappingTag := collectionTag tag .mapping
          match ← peek with
          | .scalar text plain => do
              drop
              add anchor ⟨scalarTag tag plain text, .scalar text⟩
          | .blockEntry => do
              if mayBeUnindented then
                let id ← add anchor ⟨sequenceTag, .sequence []⟩
                fill id (.sequence (← unindentedItems steps))
              else emptyScalar anchor tag
          | .flowSequenceStart => do
              drop
              let id ← add anchor ⟨sequenceTag, .sequence []⟩
              fill id (.sequence (← flowItems steps true))
          | .flowMappingStart => do
              drop
              let id ← add anchor ⟨mappingTag, .mapping []⟩
              fill id (.mapping (← flowEntries steps true))
          | .blockSequenceStart => do
              if inBlock then
                drop
                let id ← add anchor ⟨sequenceTag, .sequence []⟩
                fill id (.sequence (← blockItems steps))
              else emptyScalar anchor tag
          | .blockMappingStart => do
              if inBlock then
                drop
                let id ← add anchor ⟨mappingTag, .mapping []⟩
                fill id (.mapping (← blockEntries steps))
              else emptyScalar anchor tag
          | _ => emptyScalar anchor tag

/-- The items of a block sequence and its end. -/
def blockItems : Nat → Parse (List NodeId)
  | 0 => refuse
  | steps + 1 => do
      if ← accept .blockEntry then
        let item ← if ← atOneOf [.blockEntry, .blockEnd] then absent
          else node steps true false
        return item :: (← blockItems steps)
      else
        expect .blockEnd
        return []

/-- The items of a block sequence that is not indented. -/
def unindentedItems : Nat → Parse (List NodeId)
  | 0 => refuse
  | steps + 1 => do
      if ← accept .blockEntry then
        let item ← if ← atOneOf [.blockEntry, .key, .value, .blockEnd] then absent
          else node steps true false
        return item :: (← unindentedItems steps)
      else return []

/-- The entries of a block mapping and its end. -/
def blockEntries : Nat → Parse (List Entry)
  | 0 => refuse
  | steps + 1 => do
      if ← accept .key then
        let key ← if ← atOneOf [.key, .value, .blockEnd] then absent
          else node steps true true
        let value ← blockValue steps
        return (key, value) :: (← blockEntries steps)
      else
        expect .blockEnd
        return []

/-- The value of an entry of a block mapping, which may be left out. -/
def blockValue : Nat → Parse NodeId
  | 0 => refuse
  | steps + 1 => do
      if ← accept .value then
        if ← atOneOf [.key, .value, .blockEnd] then absent
        else node steps true true
      else absent

/-- The items of a flow sequence and its end; `first` tells that none has been
read. -/
def flowItems : Nat → (first : Bool) → Parse (List NodeId)
  | 0, _ => refuse
  | steps + 1, first => do
      if ← accept .flowSequenceEnd then return []
      else
        if !first then expect .flowEntry
        if ← accept .key then
          let id ← add none ⟨.mapping, .mapping []⟩
          let key ← if ← atOneOf [.value, .flowEntry, .flowSequenceEnd] then absent
            else node steps false false
          let value ← flowValue steps .flowSequenceEnd
          let _ ← fill id (.mapping [(key, value)])
          return id :: (← flowItems steps false)
        else if ← accept .flowSequenceEnd then return []
        else
          let item ← node steps false false
          return item :: (← flowItems steps false)

/-- The value of an entry of a flow collection, which may be left out. -/
def flowValue : Nat → (closing : Token) → Parse NodeId
  | 0, _ => refuse
  | steps + 1, closing => do
      if ← accept .value then
        if ← atOneOf [.flowEntry, closing] then absent
        else node steps false false
      else absent

/-- The entries of a flow mapping and its end; `first` tells that none has been
read. -/
def flowEntries : Nat → (first : Bool) → Parse (List Entry)
  | 0, _ => refuse
  | steps + 1, first => do
      if ← accept .flowMappingEnd then return []
      else
        if !first then expect .flowEntry
        if ← accept .key then
          let key ← if ← atOneOf [.value, .flowEntry, .flowMappingEnd] then absent
            else node steps false false
          let value ← flowValue steps .flowMappingEnd
          return (key, value) :: (← flowEntries steps false)
        else if ← accept .flowMappingEnd then return []
        else
          let key ← node steps false false
          return (key, ← absent) :: (← flowEntries steps false)

end

/-- Reads the directives in front of a document: at most one version, whose major
number is one, and each handle at most once. -/
def directives : Nat → (hasVersion : Bool) → List (List Char × List Char) →
    Parse (List (List Char × List Char))
  | 0, _, _ => refuse
  | steps + 1, hasVersion, handles => do
      match ← peek with
      | .versionDirective major => do
          if hasVersion || major != 1 then refuse
          drop
          directives steps true handles
      | .tagDirective handle meaning => do
          if (Entries.get? handle handles).isSome then refuse
          drop
          directives steps hasVersion (handles ++ [(handle, meaning)])
      | .otherDirective => do
          drop
          directives steps hasVersion handles
      | _ => return handles

/-- Goes past marks that end a document. -/
def documentEnds : Nat → Parse Unit
  | 0 => return ()
  | steps + 1 => do
      if ← accept .documentEnd then documentEnds steps

/-- The handles of a document: those of its directives, then the standard
ones. -/
def withStandard (handles : List (List Char × List Char)) : List (List Char × List Char) :=
  handles ++ standardHandles.filter fun h => (Entries.get? h.1 handles).isNone

/-- The token starts a document with a mark in front, or ends the text. -/
def isBoundary : Token → Bool
  | .versionDirective _ => true
  | .tagDirective _ _ => true
  | .otherDirective => true
  | .documentStart => true
  | .textEnd => true
  | _ => false

/-- Parses a document behind its directives and its mark. -/
def markedDocument (steps : Nat) : Parse NodeId := do
  let handles ← directives steps false []
  modify fun p => { p with handles := withStandard handles }
  expect .documentStart
  let next ← peek
  if isBoundary next || next == .documentEnd then absent else node steps true false

/-- Refuses whatever follows a document, a fault in front of the mark of another
one included. -/
def nothingElse (steps : Nat) : Parse Unit := do
  if !(← accept .textEnd) then
    let _ ← directives steps false []
    refuse

/-- Parses a text: a document without a mark in front, or directives and a mark
with a document behind it; nothing else may follow. -/
def document (steps : Nat) : Parse (Option NodeId) := do
  let first ← peek
  if first == .textEnd then return none
  let root ←
    if isBoundary first then markedDocument steps
    else do
      modify fun p => { p with handles := standardHandles }
      node steps true false
  documentEnds steps
  nothingElse steps
  return some root

end Parse

/-- The graph of a text, with its root if the text holds a document. -/
def Graph.parse (text : List Char) : Except Fault (Graph × Option NodeId) := do
  let lexer ← Lexer.ofText text
  let (root, p) ← (Parse.document (16 * text.length + 32)).run ⟨lexer, .empty, [], []⟩
  return (p.graph, root)

end MigrationConfig.Yaml
