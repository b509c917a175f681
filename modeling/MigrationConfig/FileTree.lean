/-
# File trees

The files and directories that paths are resolved in.  A path is walked from
the working directory component by component; two dots lead to the directory
above, wherever the walk has come to, so that every component on the way has to
be there.  What lies above the working directory is a bare chain of
directories.  A component that is too long is noticed where the walk meets it, a
path that is too long at once.

A system may refuse to read a node, to change it, or to look up names in it, with a
fault of its own (`Access`).  To ask whether something is a file or a directory is to
walk to it; a walk that is refused on the way is no answer to that, but a fault.

Each operation yields the tree that it leaves also when it fails, for a
directory that was made on the way stays.

There are directories and files only, so that links and devices are not told apart from
what they stand for, and a file that can be opened can be read to its end.
-/
import MigrationConfig.Error

namespace MigrationConfig

/-- What a system refuses of a node: to read it, to change it, to look names up in it. -/
structure Access where
  reading : Option SystemFault
  writing : Option SystemFault
  search : Option SystemFault
  deriving DecidableEq

/-- Nothing is refused. -/
def Access.full : Access := ⟨none, none, none⟩

/-- A directory, or a file with its bytes. -/
inductive FileNode where
  | directory (access : Access := .full)
  | file (bytes : List UInt8) (access : Access := .full)
  deriving DecidableEq

def FileNode.access : FileNode → Access
  | directory a => a
  | file _ a => a

/-- A place in a tree: the components from the working directory, or from the
root, with leading double dots only. -/
abbrev Location := List String

/-- The nodes of a tree by their places. -/
structure FileTree where
  nodes : List (Location × FileNode)

/-- Why an operation on a path failed. -/
inductive FileFailure where
  | fault (f : FileFault)
  | nullInPath

namespace Location

/-- The place that a walk starts from. -/
def start (p : Path) : Location := if p.root.isEmpty then [] else ["/"]

def above (l : Location) : Location :=
  match l.getLast? with
  | none => [".."]
  | some last =>
      if last == ".." then l ++ [".."]
      else if l == ["/"] then l
      else l.dropLast

/-- The place that a component leads to. -/
def enter (l : Location) (component : String) : Location :=
  if component == ".." then above l else l ++ [component]

/-- The place is a directory in every tree. -/
def isGiven (l : Location) : Bool := l == ["/"] || l.all (· == "..")

end Location

namespace FileTree

def empty : FileTree := ⟨[]⟩

instance : Inhabited FileTree := ⟨empty⟩

/-- The node at a place.  A given place is a directory, and nothing is refused of it but
what the tree says. -/
def node? (t : FileTree) (l : Location) : Option FileNode :=
  if Location.isGiven l then
    some (.directory (((Entries.get? l t.nodes).map FileNode.access).getD .full))
  else Entries.get? l t.nodes

def put (t : FileTree) (l : Location) (n : FileNode) : FileTree := ⟨Entries.put l n t.nodes⟩

/-- The most bytes that a component of a path may have. -/
def nameLimit : Nat := 255

/-- The most bytes that a path may have. -/
def pathLimit : Nat := 4095

/-- Walks on from a place: every place but the last has to be a directory, in which
names can be looked up. -/
def walk (t : FileTree) (l : Location) : List String → Except FileTrouble Location
  | [] => .ok l
  | c :: rest =>
      match t.node? l with
      | none => .error .missing
      | some (.file _ _) => .error .notDirectory
      | some (.directory a) =>
          match a.search with
          | some f => .error (.refused f)
          | none =>
              if nameLimit < c.utf8ByteSize then .error .nameTooLong
              else walk t (Location.enter l c) rest

/-- The place that a path leads to. -/
def locate (t : FileTree) (p : Path) : Except FileTrouble Location :=
  if pathLimit < p.toString.utf8ByteSize then .error .nameTooLong
  else t.walk (Location.start p) p.parts

/-- The node that a path leads to, if there is one. -/
def find? (t : FileTree) (p : Path) : Option FileNode :=
  match t.locate p with
  | .ok l => t.node? l
  | .error _ => none

/-- A null character cannot be part of a path. -/
def hasNull (p : Path) : Bool := p.toString.toList.contains '\x00'

/-- The trouble on the way to a path that is no answer to whether something is there: a
name in it is too long, or the system refuses to look it up. -/
def obstacle? (t : FileTree) (p : Path) : Option FileTrouble :=
  if hasNull p then none
  else
    match t.locate p with
    | .ok _ => none
    | .error e => if e.isAbsence then none else some e

def isDirectory (t : FileTree) (p : Path) : Bool :=
  !hasNull p &&
    match t.find? p with
    | some (.directory _) => true
    | _ => false

def isFile (t : FileTree) (p : Path) : Bool :=
  !hasNull p &&
    match t.find? p with
    | some (.file _ _) => true
    | _ => false

/-- What is refused where a name is added at a place: to change the directory around it. -/
def addingFault? (t : FileTree) (l : Location) : Option SystemFault :=
  (t.node? l.dropLast).bind fun n => n.access.writing

/-- Adds a node at a place where there is none. -/
def add (t : FileTree) (l : Location) (n : FileNode) : Except FileTrouble FileTree :=
  match t.addingFault? l with
  | some f => .error (.refused f)
  | none => .ok (t.put l n)

def makeDirectory (t : FileTree) (p : Path) : Except FileTrouble FileTree :=
  match t.locate p with
  | .error e => .error e
  | .ok l =>
      match t.node? l with
      | some _ => .error .exists
      | none => t.add l .directory

/-- Makes one directory, unless it is there already. -/
def ensureOne (t : FileTree) (p : Path) : FileTree × Option FileFailure :=
  if hasNull p then (t, some .nullInPath)
  else
    match t.makeDirectory p with
    | .ok t' => (t', none)
    | .error e => if t.isDirectory p then (t, none) else (t, some (.fault ⟨e, p⟩))

/-- Makes the directory whose components, last first, are given, and those above it
as far as they are missing. -/
def ensureFrom (t : FileTree) (root : String) : List String → FileTree × Option FileFailure
  | [] => ensureOne t ⟨root, []⟩
  | last :: above =>
      let p : Path := ⟨root, (last :: above).reverse⟩
      if hasNull p then (t, some .nullInPath)
      else
        match t.makeDirectory p with
        | .ok t' => (t', none)
        | .error e =>
            if e.isMissing then
              match ensureFrom t root above with
              | (t', none) => ensureOne t' p
              | (t', some f) => (t', some f)
            else if t.isDirectory p then (t, none)
            else (t, some (.fault ⟨e, p⟩))

/-- Makes a directory and those above it. -/
def ensureDirectory (t : FileTree) (p : Path) : FileTree × Option FileFailure :=
  t.ensureFrom p.root p.parts.reverse

/-- The node of a file that is opened for writing: an empty one, unless the system
refuses that. -/
def cleared (t : FileTree) (l : Location) : Except FileTrouble FileTree :=
  match t.node? l with
  | some (.directory _) => .error .isDirectory
  | some (.file _ a) =>
      match a.writing with
      | some f => .error (.refused f)
      | none => .ok (t.put l (.file [] a))
  | none => t.add l (.file [])

/-- Opens a file for writing: it is there afterwards, and empty. -/
def openForWriting (t : FileTree) (p : Path) : FileTree × Option FileFailure :=
  if hasNull p then (t, some .nullInPath)
  else
    match (t.locate p).bind t.cleared with
    | .error e => (t, some (.fault ⟨e, p⟩))
    | .ok t' => (t', none)

/-- Opens a file for writing, after making the directories that lead to it. -/
def create (t : FileTree) (p : Path) : FileTree × Option FileFailure :=
  match t.ensureDirectory p.parent with
  | (t', some f) => (t', some f)
  | (t', none) => t'.openForWriting p

/-- What is read at a place. -/
def bytesAt (t : FileTree) (l : Location) : Except FileTrouble (List UInt8) :=
  match t.node? l with
  | none => .error .missing
  | some n =>
      match n.access.reading, n with
      | some f, _ => .error (.refused f)
      | none, .directory _ => .error .isDirectory
      | none, .file bytes _ => .ok bytes

def read (t : FileTree) (p : Path) : Except FileFailure (List UInt8) :=
  if hasNull p then .error .nullInPath
  else
    match (t.locate p).bind t.bytesAt with
    | .error e => .error (.fault ⟨e, p⟩)
    | .ok bytes => .ok bytes

/-- The tree with a file of given bytes, as far as the path can be made. -/
def addFile (t : FileTree) (p : Path) (bytes : List UInt8) : FileTree :=
  let t' := (t.ensureDirectory p.parent).1
  match t'.locate p with
  | .ok l => t'.put l (.file bytes)
  | .error _ => t'

/-- The tree with a directory. -/
def addDirectory (t : FileTree) (p : Path) : FileTree := (t.ensureDirectory p).1

end FileTree

end MigrationConfig
