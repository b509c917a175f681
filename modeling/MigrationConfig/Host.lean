/-
# The host

What a configuration acts upon: the files, the streams that stand open, the
modules that can be imported, the environment of the process, and the log.

An action on the host keeps what it did also when it fails — a directory that
was made, an event that was logged, a stream that was closed — so its result and the
host it leaves are two things.

Who holds a stream may write to it.  What is written need not go out at once, and if it
cannot go out at all the stream is *stuck*: to close it is a fault then, and it is closed
nevertheless.  Of what is written only this is kept.  A file that has just been opened is
not stuck, and nothing that is done here writes to one.
-/
import MigrationConfig.Extension.Class
import MigrationConfig.FileTree
import MigrationConfig.Log

namespace MigrationConfig

/-- Where a stream comes from: the caller handed it in under a label, or the
library opened the file of a path. -/
inductive StreamOrigin where
  | given (label : String)
  | opened (path : Path)
  deriving DecidableEq

/-- A stream, whether it has been closed, and if it is stuck the fault that comes of
closing it. -/
structure Stream where
  origin : StreamOrigin
  isClosed : Bool
  stuck : Option SystemFault

/-- A stream by its place among all the streams of a host. -/
abbrev StreamId := Nat

/-- A context that classes are loaded in; each has an identity of its own. -/
structure ClassLoader where
  identity : Nat
  defaultPackage : Option String
  deriving DecidableEq

/-- The surroundings of the configurations. -/
structure Host where
  files : FileTree
  streams : List Stream
  modules : Modules
  /-- the decoders beyond those of the library -/
  decoders : Codec.Decoders
  environment : List (String × String)
  home : Path
  /-- the identity of the next class loader -/
  nextLoader : Nat
  /-- the events, in order -/
  log : List Event

namespace Host

def record (h : Host) (e : Event) : Host := { h with log := h.log ++ [e] }

def addStream (h : Host) (origin : StreamOrigin) : Host × StreamId :=
  ({ h with streams := h.streams ++ [⟨origin, false, none⟩] }, h.streams.length)

def closeStream (h : Host) (s : StreamId) : Host :=
  { h with streams := h.streams.modify s fun st => { st with isClosed := true } }

/-- The stream has been closed. -/
def isClosed (h : Host) (s : StreamId) : Bool :=
  match h.streams[s]? with
  | some st => st.isClosed
  | none => false

/-- The fault that comes of closing a stream, if it is stuck.  One that has been closed
is closed again without one. -/
def stuck? (h : Host) (s : StreamId) : Option SystemFault :=
  match h.streams[s]? with
  | some st => if st.isClosed then none else st.stuck
  | none => none

end Host

/-- An action that may fail; what it did to the host stays. -/
abbrev HostM := ExceptT Error (StateM Host)

namespace HostM

def log (e : Event) : HostM Unit := modify fun h => h.record e

/-- Goes on with a result, or fails with its error. -/
def ofExcept {α : Type} : Except Error α → HostM α
  | .ok a => pure a
  | .error e => throw e

/-- The error of a file operation: a fault becomes the error that is given for
it, a null character is a fault of its own. -/
def fileError (wrap : FileFault → Error) : FileFailure → Error
  | .fault f => wrap f
  | .nullInPath => .value .nullInPath

/-- Makes a new class loader. -/
def newLoader (package : Option String) : HostM ClassLoader := do
  let h ← get
  set { h with nextLoader := h.nextLoader + 1 }
  return ⟨h.nextLoader, package⟩

end HostM

end MigrationConfig
