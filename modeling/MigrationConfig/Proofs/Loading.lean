/-
# How a loader runs

A run of a loader is a function of the loader and the host.  It settles first where
the properties come from, and what it settles (`Loader.Sources`) depends on the
settings of the loader, the home directory, the overrides and the variables, and on
nothing else.  Then the files are read one by one; what comes of a file
(`SettingsFile.fetch`) depends on the file tree and the decoders only, which no step of
the reading touches.

The equations at the end say what a whole run is: `Loader.collect_run` for the
properties, `Loader.load_run` for the configuration that is made of them.  No later
proof opens the monad.
-/
import MigrationConfig.Proofs.Invariant

namespace MigrationConfig

/-! ## Steps of a loader -/

namespace LoaderM

variable {α β : Type}

theorem run_pure (a : α) (l : Loader) (h : Host) :
    (pure a : LoaderM α).run l h = ((.ok a, l), h) := rfl

theorem run_getThe (l : Loader) (h : Host) :
    (getThe Loader : LoaderM Loader).run l h = ((.ok l, l), h) := rfl

theorem run_remember (f : Loader → Loader) (l : Loader) (h : Host) :
    (remember f).run l h = ((.ok (), f l), h) := rfl

/-- A step that returns hands its result on. -/
theorem run_bind_ok {x : LoaderM β} {f : β → LoaderM α} {l l' : Loader} {h h' : Host} {b : β}
    (hx : x.run l h = ((.ok b, l'), h')) : (x >>= f).run l h = (f b).run l' h' := by
  rw [run_bind, hx]

/-- A step that fails ends the run. -/
theorem run_bind_error {x : LoaderM β} {f : β → LoaderM α} {l l' : Loader} {h h' : Host}
    {e : Error} (hx : x.run l h = ((.error e, l'), h')) :
    (x >>= f).run l h = ((.error e, l'), h') := by
  rw [run_bind, hx]

theorem run_onHost_ok {x : HostM α} {l : Loader} {h h' : Host} {a : α}
    (hx : x.run h = (.ok a, h')) : (onHost x).run l h = ((.ok a, l), h') := by
  rw [run_onHost, hx]

theorem run_onHost_error {x : HostM α} {l : Loader} {h h' : Host} {e : Error}
    (hx : x.run h = (.error e, h')) : (onHost x).run l h = ((.error e, l), h') := by
  rw [run_onHost, hx]

end LoaderM

/-! ## Reading files -/

namespace SettingsFile

/-- What comes of a file: its properties, or none if it is passed over, and what is
logged of it. -/
def fetch (others : Codec.Decoders) (t : FileTree) (encoding : String) (areRequired : Bool)
    (p : Path) : Except Error (Option PropertyMap × List Event) :=
  match t.obstacle? p with
  | some e => .error (.file ⟨e, p⟩)
  | none =>
      if !t.isFile p then
        if areRequired then .error (.invalid (.fileNotFound p)) else .ok (none, [])
      else
        match load others t p encoding with
        | .ok m => .ok (some m, [.fileRead p])
        | .error e =>
            if areRequired || !e.isConfiguration then .error e
            else .ok (none, [.filePassedOver p e.message])

/-- The first file is fetched, and the rest is loaded over what it holds. -/
theorem loadAll_cons_run (encoding : String) (areRequired : Bool) (loaded : PropertyMap)
    (p : Path) (rest : List Path) (h : Host) :
    (loadAll encoding areRequired loaded (p :: rest)).run h =
      match fetch h.decoders h.files encoding areRequired p with
      | .ok (found, es) =>
          (loadAll encoding areRequired (loaded.union (found.getD .empty)) rest).run (h.logged es)
      | .error e => (.error e, h) := by
  unfold fetch
  rw [loadAll, HostM.run_bind_ok (HostM.run_get h)]
  cases h.files.obstacle? p with
  | some e => rfl
  | none =>
      cases h.files.isFile p with
      | false =>
          cases areRequired with
          | true => rfl
          | false => exact congrArg _ h.logged_nil.symm
      | true =>
          cases load h.decoders h.files p encoding with
          | ok m => exact HostM.run_bind_ok (HostM.run_log _ h)
          | error e =>
              dsimp only
              cases areRequired || !e.isConfiguration with
              | true => rfl
              | false => exact HostM.run_bind_ok (HostM.run_log _ h)

end SettingsFile

namespace Loader

/-! ## Sources -/

/-- What a run reads its properties from. -/
structure Sources where
  /-- the properties of the environment -/
  given : PropertyMap
  /-- what is logged of the environment -/
  events : List Event
  /-- the encoding of the files -/
  encoding : String
  files : List Path
  areRequired : Bool

/-- The sources that settings, overrides and variables come to. -/
def sourcesOf (s : SourceSettings) (home : Path) (overrides : PropertyMap)
    (environment : Variables) : Sources :=
  let given := (readEnvironment s environment).1
  let found := resolveFiles s home overrides given
  { given
    events := (readEnvironment s environment).2
    encoding := (sourceText overrides given Environment.fileEncodingKey).getD s.encoding
    files := found.1
    areRequired := found.2 }

/-- The sources of a run.  Without an environment of its own it has the variables of
the process. -/
def sources (l : Loader) (h : Host) (overrides : PropertyMap)
    (environment : Option Variables) : Sources :=
  sourcesOf l.settings h.home overrides (environment.getD h.environment)

/-- A loader that remembers the sources of a run. -/
def recalling (l : Loader) (src : Sources) : Loader :=
  { l with usedEnvironment := !src.given.isEmpty, files := src.files }

/-- Reads the files of the sources. -/
def Sources.loadFiles (src : Sources) : HostM PropertyMap :=
  SettingsFile.loadAll src.encoding src.areRequired .empty src.files

/-- The properties of all sources, with those that the files hold. -/
def Sources.merged (src : Sources) (loaded overrides : PropertyMap) : PropertyMap :=
  withoutSourceKeys ((loaded.union src.given).union overrides)

/-- A run settles its sources and remembers them; then it reads the files. -/
theorem collect_run {l : Loader} {h : Host} {overrides : PropertyMap}
    {environment : Option Variables} {src : Sources}
    (hsrc : l.sources h overrides environment = src) :
    (collect overrides environment).run l h =
      (((src.loadFiles.run (h.logged src.events)).1.map fun loaded => src.merged loaded overrides,
        l.recalling src), (src.loadFiles.run (h.logged src.events)).2) := by
  subst hsrc
  unfold collect
  rw [LoaderM.run_bind_ok (LoaderM.run_getThe l h),
    LoaderM.run_bind_ok (LoaderM.run_onHost_ok (HostM.run_get h)),
    LoaderM.run_bind_ok (LoaderM.run_onHost_ok (HostM.run_forM_log _ h)),
    LoaderM.run_bind_ok (LoaderM.run_remember ..), LoaderM.run_bind_ok (LoaderM.run_remember ..)]
  rcases hr : (l.sources h overrides environment).loadFiles.run
    (h.logged (l.sources h overrides environment).events) with ⟨r, h'⟩
  cases r with
  | ok loaded => exact LoaderM.run_bind_ok (LoaderM.run_onHost_ok hr)
  | error e => exact LoaderM.run_bind_error (LoaderM.run_onHost_error hr)

/-! ## Configurations -/

/-- The class loader of the next configuration, and the host that has made it if it
is a new one. -/
def classesOn (l : Loader) (h : Host) : ClassLoader × Host :=
  match l.classes with
  | some k => (k, h)
  | none => (⟨h.nextLoader, none⟩, { h with nextLoader := h.nextLoader + 1 })

/-- What is logged of a configuration that was loaded. -/
def reportEvents (f : Findings) : List Event :=
  .configurationLoaded ::
    ((if !f.warnings.isEmpty then [.warnings (f.warnings.map Warning.message)] else []) ++
      (if !f.recommendations.isEmpty then
        [.recommendations (f.recommendations.map Recommendation.message)] else []))

theorem report_run (f : Findings) (h : Host) :
    (report f).run h = (.ok (), h.logged (reportEvents f)) := by
  have hforM : (report f).run h = ((reportEvents f).forM HostM.log).run h := by
    unfold report reportEvents
    cases f.warnings.isEmpty <;> cases f.recommendations.isEmpty <;> rfl
  rw [hforM, HostM.run_forM_log]

/-- The end of a run: the properties are applied to a new configuration, and the
result is looked at. -/
def make (edition : Edition) (classes : ClassLoader) (properties : PropertyMap) :
    LoaderM Config := do
  let c ← LoaderM.onHost (configured (.new edition classes) (Config.configure properties))
  LoaderM.remember fun l => { l with findings := .of c }
  LoaderM.onHost (report (.of c))
  return c

section Make

variable {edition : Edition} {classes : ClassLoader} {properties : PropertyMap} {l : Loader}
  {h h' : Host}

/-- A configuration that takes the properties is looked at, and what is found is remembered
and reported. -/
theorem make_run_ok {c : Config}
    (hc : (configured (.new edition classes) (Config.configure properties)).run h = (.ok c, h')) :
    (make edition classes properties).run l h =
      ((.ok c, { l with findings := .of c }), h'.logged (reportEvents (.of c))) := by
  unfold make
  rw [LoaderM.run_bind_ok (LoaderM.run_onHost_ok hc),
    LoaderM.run_bind_ok (LoaderM.run_remember ..),
    LoaderM.run_bind_ok (LoaderM.run_onHost_ok (report_run _ h'))]
  rfl

/-- One that does not leaves the loader as it is. -/
theorem make_run_error {e : Error}
    (hc : (configured (.new edition classes) (Config.configure properties)).run h =
      (.error e, h')) :
    (make edition classes properties).run l h = ((.error e, l), h') :=
  LoaderM.run_bind_error (LoaderM.run_onHost_error hc)

end Make

theorem make_run (edition : Edition) (classes : ClassLoader) (properties : PropertyMap)
    (l : Loader) (h : Host) :
    (make edition classes properties).run l h =
      match (configured (.new edition classes) (Config.configure properties)).run h with
      | (.error e, h') => ((.error e, l), h')
      | (.ok c, h') =>
          ((.ok c, { l with findings := .of c }), h'.logged (reportEvents (.of c))) := by
  rcases hc : (configured (.new edition classes) (Config.configure properties)).run h
    with ⟨r, h'⟩
  cases r with
  | error e => exact make_run_error hc
  | ok c => exact make_run_ok hc

/-- A run that cannot read its files ends with the sources remembered; else it goes on to
make the configuration. -/
theorem load_run {l : Loader} {h : Host} {overrides : PropertyMap}
    {environment : Option Variables} {src : Sources}
    (hsrc : l.sources h overrides environment = src) :
    (load overrides environment).run l h =
      match src.loadFiles.run (h.logged src.events) with
      | (.error e, h₁) => ((.error e, l.recalling src), h₁)
      | (.ok loaded, h₁) =>
          (make l.edition (l.classesOn h₁).1 (src.merged loaded overrides)).run
            (l.recalling src) (l.classesOn h₁).2 := by
  have hcollect := collect_run hsrc
  unfold load
  rcases hr : src.loadFiles.run (h.logged src.events) with ⟨r, h₁⟩
  rw [hr] at hcollect
  cases r with
  | error e => exact LoaderM.run_bind_error hcollect
  | ok loaded =>
      rw [LoaderM.run_bind_ok hcollect, LoaderM.run_bind_ok (LoaderM.run_getThe _ h₁)]
      have hclasses : (l.recalling src).classes = l.classes := rfl
      unfold classesOn
      dsimp only
      rw [hclasses]
      cases l.classes with
      | some k => exact LoaderM.run_bind_ok (LoaderM.run_pure k _ h₁)
      | none => exact LoaderM.run_bind_ok rfl

end Loader

end MigrationConfig
