/-
# Loading a configuration

A loader puts a configuration together from settings files, the environment and
overrides, each overriding the one before it.  Which files there are, and in
which encoding, is said by the overrides, the environment or the source settings;
files that are named must be there, the default ones need not.

A loader remembers its last run, as far as it got.
-/
import MigrationConfig.Advice
import MigrationConfig.Environment
import MigrationConfig.Source.File
import MigrationConfig.Source.Settings

namespace MigrationConfig

/-- A loader, and what it remembers. -/
structure Loader where
  settings : SourceSettings
  /-- the class loader for all its configurations; each has its own without one -/
  classes : Option ClassLoader
  edition : Edition
  /-- the files of the last run -/
  files : List Path
  /-- the last run had properties from the environment -/
  usedEnvironment : Bool
  /-- what was found in the last configuration that was loaded -/
  findings : Findings

/-- A run of a loader on a host; what it did stays also when it fails. -/
abbrev LoaderM := ExceptT Error (StateT Loader (StateM Host))

namespace LoaderM

def onHost {α : Type} (x : HostM α) : LoaderM α :=
  ExceptT.mk fun l h =>
    match x.run h with
    | (r, h) => ((r, l), h)

/-- Changes what the loader remembers. -/
def remember (f : Loader → Loader) : LoaderM Unit := modify f

end LoaderM

namespace Loader

/-- A loader that has not run. -/
def new (settings : SourceSettings) (classes : Option ClassLoader) (edition : Edition) : Loader :=
  ⟨settings, classes, edition, [], false, .none⟩

/-- The default files: in the home directory, and in the working directory. -/
def defaultFiles (home : Path) : List Path :=
  [home.child "flyway.conf", Path.ofString "flyway.conf"]

/-- The text of a key in the overrides or else in the environment, where an empty
one counts as none. -/
def sourceText (overrides environment : PropertyMap) (key : String) : Option String :=
  match Descriptor.nonEmpty? (overrides.get? key) with
  | some s => some s
  | none => Descriptor.nonEmpty? (environment.get? key)

/-- The files to be loaded, and whether they must be there. -/
def resolveFiles (s : SourceSettings) (home : Path) (overrides environment : PropertyMap) :
    List Path × Bool :=
  match sourceText overrides environment Environment.filesKey with
  | some names => ((Text.tokenize names).map Path.ofString, true)
  | none =>
      if !s.files.isEmpty then (s.files, true)
      else if s.usesDefaultFiles then (defaultFiles home, false)
      else ([], false)

/-- The properties of the environment, if it is to be read. -/
def readEnvironment (s : SourceSettings) (environment : List (String × String)) :
    PropertyMap × List Event :=
  if s.readsEnvironment then Environment.read true environment else (.empty, [])

/-- A map without the keys that say where settings are read from. -/
def withoutSourceKeys (m : PropertyMap) : PropertyMap :=
  Environment.sourceKeys.foldl (fun m key => m.erase key) m

/-- Collects the properties of all sources.  Without an environment of its own a
run reads the one of the process. -/
def collect (overrides : PropertyMap) (environment : Option (List (String × String))) :
    LoaderM PropertyMap := do
  let settings := (← getThe Loader).settings
  let host ← LoaderM.onHost get
  let (given, events) := readEnvironment settings (environment.getD host.environment)
  LoaderM.onHost (events.forM HostM.log)
  LoaderM.remember fun l => { l with usedEnvironment := !given.isEmpty }
  let encoding := (sourceText overrides given Environment.fileEncodingKey).getD settings.encoding
  let (files, areRequired) := resolveFiles settings host.home overrides given
  LoaderM.remember fun l => { l with files }
  let loaded ← LoaderM.onHost (SettingsFile.loadAll encoding areRequired .empty files)
  return withoutSourceKeys ((loaded.union given).union overrides)

/-- Runs a procedure on a new configuration and yields it. -/
def configured (c : Config) (p : Procedure Unit) : HostM Config :=
  ExceptT.mk fun h =>
    match p.run ⟨c, h⟩ with
    | (.ok _, s) => (.ok s.config, s.host)
    | (.error e, s) => (.error e, s.host)

/-- Reports what was found. -/
def report (f : Findings) : HostM Unit := do
  HostM.log .configurationLoaded
  if !f.warnings.isEmpty then HostM.log (.warnings (f.warnings.map Warning.message))
  if !f.recommendations.isEmpty then
    HostM.log (.recommendations (f.recommendations.map Recommendation.message))

/-- Loads a configuration from all sources. -/
def load (overrides : PropertyMap) (environment : Option (List (String × String))) :
    LoaderM Config := do
  let properties ← collect overrides environment
  let l ← getThe Loader
  let classes ← match l.classes with
    | some k => pure k
    | none => LoaderM.onHost (HostM.newLoader none)
  let c ← LoaderM.onHost (configured (.new l.edition classes) (Config.configure properties))
  let findings := Findings.of c
  LoaderM.remember fun l => { l with findings }
  LoaderM.onHost (report findings)
  return c

end Loader

end MigrationConfig
