/-
# Arguments of settings

What a setting can be given, where that is more than the value it will hold: a
list may be missing or a single text, a version or a rule may be given as text,
extensions may be given as objects or by their names, and the dry-run output is
a stream or a file.  A provider may be anything.
-/
import MigrationConfig.Connection
import MigrationConfig.ErrorOverride
import MigrationConfig.Pattern

namespace MigrationConfig

/-- What a list setting is given: nothing, one text, or items. -/
inductive ListArgument (α : Type) where
  | missing
  | single (s : String)
  | items (xs : List α)

/-- The items of a list argument; a single text is the only item. -/
def ListArgument.resolve {α : Type} (field : String) (ofText : String → α) :
    ListArgument α → Except Error (List α)
  | missing => .error (.invalid (.missingList field))
  | single s => .ok [ofText s]
  | items xs => .ok xs

/-- A version, or the text of one. -/
inductive VersionArgument where
  | given (v : Version)
  | text (s : Option String)

def VersionArgument.resolve : VersionArgument → Except Error Version
  | given v => .ok v
  | text s => Version.parse s

/-- A pattern, or the text of one, which may be absent. -/
inductive PatternItem where
  | given (p : Pattern)
  | text (s : Option String)

def PatternItem.resolve : PatternItem → Except Error Pattern
  | given p => .ok p
  | text s => Pattern.ofText s

/-- A rule for errors, or the text of one. -/
inductive OverrideItem where
  | given (o : ErrorOverride)
  | text (s : String)

def OverrideItem.resolve : OverrideItem → Except Error ErrorOverride
  | given o => .ok o
  | text s => ErrorOverride.parse s

/-- Resolves items in order, up to the first that fails. -/
def resolveAll {α β : Type} (resolve : α → Except Error β) : List α → Except Error (List β)
  | [] => .ok []
  | x :: xs =>
      match resolve x with
      | .error e => .error e
      | .ok y =>
          match resolveAll resolve xs with
          | .error e => .error e
          | .ok ys => .ok (y :: ys)

/-- What is handed in as an extension: an instance of a class, or a document, which
is none. -/
inductive Candidate where
  | object (i : Instance)
  | other (d : Document)

namespace Candidate

/-- A candidate as it is shown inside a message. -/
def literal : Candidate → String
  | object i => i.ofClass.literal
  | other d => d.literal

/-- The instance of a candidate that plays a role. -/
def playing? (role : Interface) : Candidate → Option Instance
  | object i => if i.ofClass.plays role then some i else none
  | other _ => none

/-- Checks that a candidate plays a role. -/
def check (field : String) (role : Interface) (c : Candidate) : Except Error Instance :=
  match c.playing? role with
  | some i => .ok i
  | none => .error (.invalid (.foreignEntry field c.literal role))

end Candidate

/-- Extensions as objects, or by the names of their classes. -/
inductive InstancesArgument where
  | given (xs : ListArgument Candidate)
  | named (names : ListArgument String)

/-- Anything at all, which is kept as it is. -/
inductive Provider where
  | scalar (s : Scalar)
  | list (items : List Provider)
  | table (m : PropertyMap)
  | path (p : Path)
  | version (v : Version)
  | pattern (p : Pattern)
  | override (o : ErrorOverride)
  | descriptor (d : Descriptor)
  | stream (id : StreamId)
  | object (i : Instance)

/-- The dry-run output: a stream, if any, or a file to be opened. -/
inductive OutputArgument where
  | stream (s : Option StreamId)
  | file (p : Path)

/-- Where the dry-run output goes: a stream, with its path if the library opened
it for this setting. -/
structure Sink where
  stream : StreamId
  path : Option Path
  deriving DecidableEq

end MigrationConfig
