/-
# Changes of a configuration

A single change either yields the changed configuration or fails, in which case
there is no new configuration and the one at hand stays as it is.

A setting that a connection is derived from takes the descriptor with it, for
the descriptor would no longer agree.  A dry-run output that the library opened
is closed when another one takes its place; if that is a fault, the other one does not
take its place, although it may have been opened.
-/
import MigrationConfig.Config.Basic

namespace MigrationConfig

/-- The stream that is given up when one sink takes the place of another: a file that the
library opened, unless the next sink has the same stream. -/
def Sink.givenUp? (old next : Option Sink) : Option StreamId :=
  match old with
  | some ⟨stream, some _⟩ => if next.map Sink.stream == some stream then none else some stream
  | _ => none

namespace Host

/-- The host with what a sink has given up closed. -/
def closeReplaced (h : Host) (old next : Option Sink) : Host :=
  match Sink.givenUp? old next with
  | some stream => h.closeStream stream
  | none => h

/-- Whether what a sink has given up can be closed without a fault. -/
def closing (h : Host) (old next : Option Sink) : Except Error Unit :=
  match (Sink.givenUp? old next).bind h.stuck? with
  | some f => .error (.stream f)
  | none => .ok ()

end Host

/-- Closes what a sink has given up; it is closed also when that is a fault. -/
def HostM.closeReplaced (old next : Option Sink) : HostM Unit := do
  let h ← get
  set (h.closeReplaced old next)
  HostM.ofExcept (h.closing old next)

namespace Config

/-- Gives a setting what an argument stands for. -/
def assign (c : Config) (s : Setting) (a : s.Argument) : HostM Config := do
  HostM.ofExcept (c.require s)
  let v ← s.kind.accept s.name c.loader a
  let changed := c.put s v
  HostM.closeReplaced (c.get .dryRunOutput) (changed.get .dryRunOutput)
  return if s.kind == .connectionText then { changed with descriptor := none } else changed

/-- Takes the URL, the user and the password as they are; the descriptor
stays. -/
def withIdentity (c : Config) (url user password : Option String) : Config :=
  ((c.put .url url).put .user user).put .password password

/-- Takes a descriptor in the place of the connection settings, which are
dropped so that they cannot disagree with it. -/
def withDescriptor (c : Config) (d : Option Descriptor) : Config :=
  { (c.put .driver none).withIdentity none none none with descriptor := d }

/-- Takes the URL, the user and the password, and derives the descriptor from
these three. -/
def connectTo (c : Config) (url user password : Option String) : HostM Config := do
  let d ← Descriptor.derive none url user password (c.get .jdbcProperties) (some c.loader)
  return { c.withIdentity url user password with descriptor := d }

/-- Derives the descriptor from the connection settings, with the given
properties or those of the configuration. -/
def deriveConnection (c : Config) (properties : Option PropertyMap) : HostM Config := do
  let d ← Descriptor.derive (c.get .driver) (c.get .url) (c.get .user) (c.get .password)
    (properties.getD (c.get .jdbcProperties)) (some c.loader)
  return { c with descriptor := d }

/-- Reading the connection warns when there is none although one was begun. -/
def warnsOnRead (c : Config) : Bool :=
  c.descriptor.isNone &&
    (Text.hasText (c.get .driver) || Text.hasText (c.get .user) || Text.hasText (c.get .password))

def connection (c : Config) : HostM (Option Descriptor) := do
  if c.warnsOnRead then HostM.log .incompleteConnection
  return c.descriptor

end Config

/-- The single changes of a configuration. -/
inductive Change where
  | assign (s : Setting) (a : s.Argument)
  /-- the target version, where none stands for the latest -/
  | target (v : Option Version)
  | descriptor (d : Option Descriptor)
  | connectTo (url user password : Option String)
  | deriveConnection (properties : Option PropertyMap)
  | identity (url user password : Option String)

def Change.perform (c : Config) : Change → HostM Config
  | .assign s a => c.assign s a
  | .target v => c.assign .target (.given (v.getD .latest))
  | .descriptor d => return c.withDescriptor d
  | .connectTo url user password => c.connectTo url user password
  | .deriveConnection properties => c.deriveConnection properties
  | .identity url user password => return c.withIdentity url user password

end MigrationConfig
