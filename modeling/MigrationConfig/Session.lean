/-
# Sessions

Any number of configurations and loaders under names, all on one host, and the
commands that act on them.  A command that fails leaves what it did before it
failed; the session goes on.

A session also remembers what was last seen of each configuration, so that the
effect of a command can be shown as a list of differences, and which streams have
been seen.
-/
import MigrationConfig.Config.Copy
import MigrationConfig.Config.Format
import MigrationConfig.Config.Reading
import MigrationConfig.Codec.Utf8
import MigrationConfig.Source.Loader

namespace MigrationConfig

/-- Configurations and loaders on one host. -/
structure Session where
  host : Host
  /-- the configurations, in the order in which their names were first used -/
  configs : List (String × Config)
  loaders : List (String × Loader)
  /-- what the last review found -/
  findings : Findings
  /-- what was last seen of each configuration -/
  seen : List (String × List (Accessor × Reading))
  /-- the streams that have been seen, in order -/
  seenStreams : List StreamId

/-- The variables of an environment. -/
abbrev Variables := List (String × String)

/-- What can be done in a session. -/
inductive Command where
  | create (id edition : String) (package : Option String)
  | clone (id source : String)
  | copy (id source : String)
  | configure (id : String) (properties : PropertyMap) (root : String)
  | readEnvironment (id : String) (environment : Option Variables)
  | change (id : String) (c : Change)
  | connection (id : String)
  | sharesLoader (id other : String)
  | readings (id : String)
  | properties (id : String)
  /-- writes a configuration, and perhaps the text into a file -/
  | format (id name : String) (file : Option Path)
  | review (id : String)
  | loader (name : String) (settings : Option Arguments) (edition : String)
      (package : Option String)
  | collect (name : String) (overrides : PropertyMap) (environment : Option Variables)
  | load (name id : String) (overrides : PropertyMap) (environment : Option Variables)
  | summary (name : String)

/-- What a command yields. -/
inductive Answer where
  | nothing
  | connection (d : Option Descriptor)
  /-- two configurations share a loader; a descriptor has that of its
  configuration -/
  | sharing (withOther : Bool) (withDescriptor : Option Bool)
  | readings (rs : List (Accessor × Reading))
  | properties (m : PropertyMap)
  | text (s : String)
  | findings (f : Findings)
  | loader (l : Loader)

namespace Session

/-- A session without configurations. -/
def new (h : Host) : Session := ⟨h, [], [], .none, [], []⟩

/-- The outcome of a command, and the session it leaves. -/
abbrev Outcome (α : Type) := Except Error α × Session

/-- The outcome of an action on the host. -/
def onHost {α : Type} (s : Session) (x : HostM α) : Outcome α :=
  match x.run s.host with
  | (r, h) => (r, { s with host := h })

/-- Goes on with the result of an outcome. -/
def andThen {α β : Type} (o : Outcome α) (f : α → Session → Outcome β) : Outcome β :=
  match o with
  | (.ok a, s) => f a s
  | (.error e, s) => (.error e, s)

def config? (s : Session) (id : String) : Option Config := Entries.get? id s.configs

/-- Gives a name a configuration. -/
def withConfig (s : Session) (id : String) (c : Config) : Session :=
  { s with configs := Entries.put id c s.configs }

/-- The outcome of what is done with the configuration of a name; nothing is done if
there is none. -/
def onConfig (s : Session) (id : String) (f : Config → Outcome Answer) : Outcome Answer :=
  match s.config? id with
  | some c => f c
  | none => (.ok .nothing, s)

/-- Runs a procedure on the configuration of a name. -/
def runOn (s : Session) (id : String) (p : Procedure Unit) : Outcome Answer :=
  s.onConfig id fun c =>
    match p.run ⟨c, s.host⟩ with
    | (r, t) => (r.map fun _ => .nothing, { s.withConfig id t.config with host := t.host })

/-- The outcome of what is done with the loader of a name. -/
def onLoader (s : Session) (name : String) (f : Loader → Outcome Answer) : Outcome Answer :=
  match Entries.get? name s.loaders with
  | some l => f l
  | none => (.ok .nothing, s)

/-- Runs the loader of a name. -/
def runLoader {α : Type} (s : Session) (name : String) (l : Loader) (x : LoaderM α) : Outcome α :=
  match x.run l s.host with
  | ((r, l), h) => (r, { s with host := h, loaders := Entries.put name l s.loaders })

def create (s : Session) (id edition : String) (package : Option String) : Outcome Answer :=
  match Edition.ofName edition with
  | .error e => (.error e, s)
  | .ok edition =>
      andThen (s.onHost (HostM.newLoader package)) fun loader s =>
        (.ok .nothing, s.withConfig id (.new edition loader))

/-- Makes a copy of a configuration under a name. -/
def clone (s : Session) (id : String) (source : Config) : Outcome Answer :=
  match Config.clone source s.host with
  | (.ok _, t) => (.ok .nothing, { s.withConfig id t.config with host := t.host })
  | (.error e, t) => (.error e, { s with host := t.host })

/-- Copies one configuration into another, or into itself. -/
def copy (s : Session) (id source : String) : Outcome Answer :=
  if id == source then s.runOn id (Config.copyFrom .itself)
  else
    match s.config? source with
    | some c => s.runOn id (Config.copyFrom (.other c))
    | none => (.ok .nothing, s)

/-- Writes a configuration, and the text into a file. -/
def format (s : Session) (c : Config) (name : String) (file : Option Path) : Outcome Answer :=
  match c.format name with
  | .error e => (.error e, s)
  | .ok text =>
      match file with
      | none => (.ok (.text text), s)
      | some p =>
          let files := s.host.files.addFile p (Codec.Utf8.encode text.toList)
          (.ok (.text text), { s with host := { s.host with files } })

def makeLoader (s : Session) (name : String) (settings : Option Arguments) (edition : String)
    (package : Option String) : Outcome Answer :=
  let settings : Except Error SourceSettings :=
    match settings with
    | some args => SourceSettings.ofArguments args
    | none => .ok .standard
  match settings, Edition.ofName edition with
  | .error e, _ => (.error e, s)
  | _, .error e => (.error e, s)
  | .ok settings, .ok edition =>
      let add (classes : Option ClassLoader) (s : Session) : Outcome Answer :=
        (.ok .nothing,
          { s with loaders := Entries.put name (.new settings classes edition) s.loaders })
      match package with
      | none => add none s
      | some p => andThen (s.onHost (HostM.newLoader (some p))) fun k s => add (some k) s

def perform (s : Session) : Command → Outcome Answer
  | .create id edition package => s.create id edition package
  | .clone id source =>
      match s.config? source with
      | some c => s.clone id c
      | none => (.ok .nothing, s)
  | .copy id source => s.copy id source
  | .configure id properties root => s.runOn id (Config.apply properties root)
  | .readEnvironment id environment =>
      s.runOn id (Environment.apply (environment.getD s.host.environment))
  | .change id c => s.runOn id (Procedure.change fun config => c.perform config)
  | .connection id =>
      s.onConfig id fun c =>
        andThen (s.onHost c.connection) fun d s => (.ok (.connection d), s)
  | .sharesLoader id other =>
      s.onConfig id fun c =>
        s.onConfig other fun d =>
          (.ok (.sharing (c.loader == d.loader)
            (c.descriptor.map fun x => x.loader == some c.loader)), s)
  | .readings id => s.onConfig id fun c => (.ok (.readings (c.readings s.host)), s)
  | .properties id => s.onConfig id fun c => (c.properties.map .properties, s)
  | .format id name file => s.onConfig id fun c => s.format c name file
  | .review id =>
      s.onConfig id fun c =>
        let findings := Findings.of c
        (.ok (.findings findings), { s with findings })
  | .loader name settings edition package => s.makeLoader name settings edition package
  | .collect name overrides environment =>
      s.onLoader name fun l =>
        andThen (s.runLoader name l (Loader.collect overrides environment)) fun m s =>
          (.ok (.properties m), s)
  | .load name id overrides environment =>
      s.onLoader name fun l =>
        andThen (s.runLoader name l (Loader.load overrides environment)) fun c s =>
          (.ok .nothing, s.withConfig id c)
  | .summary name => s.onLoader name fun l => (.ok (.loader l), s)

/-! ## What is seen -/

/-- The session with a stream seen. -/
def seeStream (s : Session) (id : StreamId) : Session :=
  if s.seenStreams.contains id then s else { s with seenStreams := s.seenStreams ++ [id] }

/-- The stream that was handed in under a label, made when the label is new. -/
def givenStream (s : Session) (label : String) : StreamId × Session :=
  match s.host.streams.findIdx? fun st => st.origin == .given label with
  | some id => (id, s.seeStream id)
  | none =>
      let (h, id) := s.host.addStream (.given label)
      (id, { s with host := h }.seeStream id)

/-- Sees the stream of a configuration, if the library opened it. -/
def seeOutput (s : Session) (c : Config) : Session :=
  match c.get .dryRunOutput with
  | some ⟨id, some _⟩ => s.seeStream id
  | _ => s

/-- What is different about a configuration since it was last seen. -/
def changesOf (s : Session) (e : String × Config) : List (String × Accessor × Reading) :=
  let before := (Entries.get? e.1 s.seen).getD (Config.initialReadings s.host)
  (differences before (e.2.readings s.host)).map fun r => (e.1, r)

/-- What is different since the configurations were last seen. -/
def changes (s : Session) : List (String × Accessor × Reading) := s.configs.flatMap s.changesOf

/-- The session with all its configurations seen, and the events logged since the
last look. -/
def look (s : Session) : List Event × Session :=
  let s := s.configs.foldl (fun s e => s.seeOutput e.2) s
  let seen := s.configs.foldl
    (fun seen e => Entries.put e.1 (e.2.readings s.host) seen) s.seen
  (s.host.log, { s with host := { s.host with log := [] }, seen })

/-- The streams that have been seen. -/
def streams (s : Session) : List Stream := s.seenStreams.filterMap fun id => s.host.streams[id]?

end Session

end MigrationConfig
