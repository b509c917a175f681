/-
# Where a property comes from

A property has up to three sources: the overrides, the environment, and the files,
of which the last one that has the property counts.  Two of the sources also choose
the files and their encoding, so what a file contributes is asked here of the files
and the encoding that were chosen (`Loader.sources`), and of the file tree as it is
when the run begins (`SettingsFile.contents?`).

A file contributes nothing if it is missing or is rejected.  Whether this ends the
run depends on who named the file, and on nothing that the file holds.  Two further
faults end a run in any case, and the claim of a file to be a default one is no
excuse: a path that the system does not answer for, and an error of the reader that is
none of the configuration.
-/
import MigrationConfig.Proofs.Loading
import MigrationConfig.Proofs.Variables

namespace MigrationConfig

/-! ## What files contribute -/

namespace SettingsFile

/-- The properties that a file contributes. -/
def contents? (others : Codec.Decoders) (t : FileTree) (encoding : String) (p : Path) :
    Option PropertyMap :=
  if (t.obstacle? p).isSome || !t.isFile p then none else (load others t p encoding).toOption

/-- The value of a key in the last of the files that contributes one. -/
def lastValue (others : Codec.Decoders) (t : FileTree) (encoding : String) (files : List Path)
    (key : String) : Option String :=
  files.reverse.findSome? fun p => (contents? others t encoding p).bind (·.get? key)

/-- A file is missing, or it is there and rejected as a part of the configuration. -/
inductive Unusable (others : Codec.Decoders) (t : FileTree) (encoding : String) (p : Path) :
    Prop where
  | missing (hanswered : t.obstacle? p = none) (hfile : t.isFile p = false)
  | rejected (hanswered : t.obstacle? p = none) (hfile : t.isFile p = true) {e : Error}
      (hload : load others t p encoding = .error e) (he : e.isConfiguration = true)

/-- A file is read if it contributes something; short of that it may be passed over,
unless it is required. -/
def Passes (others : Codec.Decoders) (t : FileTree) (encoding : String) (areRequired : Bool)
    (p : Path) : Prop :=
  (contents? others t encoding p).isSome ∨ areRequired = false ∧ Unusable others t encoding p

variable {others : Codec.Decoders} {t : FileTree} {encoding : String} {areRequired : Bool}
  {p : Path}

theorem contents?_of_isFile (hanswered : t.obstacle? p = none) (hfile : t.isFile p = true) :
    contents? others t encoding p = (load others t p encoding).toOption := by
  rw [contents?, hanswered, hfile]
  rfl

theorem contents?_of_not_isFile (hfile : t.isFile p = false) :
    contents? others t encoding p = none := by
  rw [contents?, hfile, Bool.not_false, Bool.or_true, if_pos rfl]

theorem Unusable.contents? (hp : Unusable others t encoding p) :
    SettingsFile.contents? others t encoding p = none := by
  cases hp with
  | missing _ hfile => exact contents?_of_not_isFile hfile
  | rejected hanswered hfile hload he =>
      rw [contents?_of_isFile hanswered hfile, hload]
      rfl

/-- What can come of a file that is to be fetched. -/
inductive Fetched (others : Codec.Decoders) (t : FileTree) (encoding : String)
    (areRequired : Bool) (p : Path) :
    Except Error (Option PropertyMap × List Event) → Prop where
  | read {m : PropertyMap} (hm : contents? others t encoding p = some m) :
      Fetched others t encoding areRequired p (.ok (some m, [.fileRead p]))
  | passedOver (es : List Event) (hr : areRequired = false) (hp : Unusable others t encoding p) :
      Fetched others t encoding areRequired p (.ok (none, es))
  | failed (e : Error) (hp : ¬ Passes others t encoding areRequired p) :
      Fetched others t encoding areRequired p (.error e)

theorem fetch_cases (others : Codec.Decoders) (t : FileTree) (encoding : String)
    (areRequired : Bool) (p : Path) :
    Fetched others t encoding areRequired p (fetch others t encoding areRequired p) := by
  unfold fetch
  cases hobstacle : t.obstacle? p with
  | some e =>
      refine .failed _ ?_
      rintro (hsome | ⟨-, ⟨hanswered, -⟩ | ⟨hanswered, -, -, -⟩⟩)
      · rw [contents?, hobstacle] at hsome
        cases hsome
      · cases hanswered.symm.trans hobstacle
      · cases hanswered.symm.trans hobstacle
  | none =>
      cases hfile : t.isFile p with
      | false =>
          cases areRequired with
          | false => exact .passedOver [] rfl (.missing hobstacle hfile)
          | true =>
              refine .failed _ ?_
              rintro (hsome | ⟨hr, -⟩)
              · rw [contents?_of_not_isFile hfile] at hsome
                cases hsome
              · cases hr
      | true =>
          have hcontents : contents? others t encoding p = (load others t p encoding).toOption :=
            contents?_of_isFile hobstacle hfile
          cases hload : load others t p encoding with
          | ok m =>
              rw [hload] at hcontents
              exact .read hcontents
          | error e =>
              rw [hload] at hcontents
              cases hr : areRequired || !e.isConfiguration with
              | false =>
                  obtain ⟨hr, he⟩ : areRequired = false ∧ e.isConfiguration = true := by
                    simpa using hr
                  simp only [hr, he]
                  exact .passedOver _ rfl (.rejected hobstacle hfile hload he)
              | true =>
                  simp only [hr]
                  refine .failed e ?_
                  rintro (hsome | ⟨hr', ⟨-, hfile'⟩ | ⟨-, -, hload', he⟩⟩)
                  · rw [hcontents] at hsome
                    cases hsome
                  · exact Bool.false_ne_true (hfile'.symm.trans hfile)
                  · cases hload.symm.trans hload'
                    rw [hr', he] at hr
                    cases hr

theorem lastValue_cons (p : Path) (rest : List Path) (key : String) :
    lastValue others t encoding (p :: rest) key =
      (lastValue others t encoding rest key).or
        ((contents? others t encoding p).bind (·.get? key)) := by
  unfold lastValue
  rw [List.reverse_cons, List.findSome?_append, List.findSome?_singleton]

/-- What files contribute is laid over what was loaded before. -/
theorem get?_of_loadAll {files : List Path} :
    ∀ {loaded m : PropertyMap} {h : Host},
      ((loadAll encoding areRequired loaded files).run h).1 = .ok m → ∀ key,
        m.get? key = (lastValue h.decoders h.files encoding files key).or (loaded.get? key) := by
  induction files with
  | nil =>
      intro loaded m h hm key
      cases hm
      rfl
  | cons p rest ih =>
      intro loaded m h hm key
      rw [loadAll_cons_run] at hm
      split at hm
      · next found es hf =>
          have hrest := ih hm key
          have hfound : found = contents? h.decoders h.files encoding p := by
            have hcases := fetch_cases h.decoders h.files encoding areRequired p
            rw [hf] at hcases
            cases hcases with
            | read hcontents => exact hcontents.symm
            | passedOver _ _ hp => exact hp.contents?.symm
          rw [hrest, PropertyMap.get?_union, lastValue_cons, Option.or_assoc, ← hfound]
          cases found <;> rfl
      · cases hm

/-- Files are loaded exactly when each of them is read or passed over. -/
theorem loadAll_returns_iff {files : List Path} :
    ∀ {loaded : PropertyMap} {h : Host},
      (∃ m, ((loadAll encoding areRequired loaded files).run h).1 = .ok m) ↔
        ∀ p ∈ files, Passes h.decoders h.files encoding areRequired p := by
  induction files with
  | nil =>
      intro loaded h
      exact ⟨fun _ p hp => (List.not_mem_nil hp).elim, fun _ => ⟨loaded, rfl⟩⟩
  | cons p rest ih =>
      intro loaded h
      rw [loadAll_cons_run, List.forall_mem_cons]
      have hcases := fetch_cases h.decoders h.files encoding areRequired p
      cases hf : fetch h.decoders h.files encoding areRequired p with
      | ok x =>
          rw [hf] at hcases
          have hp : Passes h.decoders h.files encoding areRequired p := by
            cases hcases with
            | read hm => exact .inl (hm ▸ rfl)
            | passedOver _ hr hp => exact .inr ⟨hr, hp⟩
          exact ih.trans ⟨fun hrest => ⟨hp, hrest⟩, fun hall => hall.2⟩
      | error e =>
          rw [hf] at hcases
          cases hcases with
          | failed _ hp => exact ⟨fun ⟨_, hm⟩ => (nomatch hm), fun hall => absurd hall.1 hp⟩

end SettingsFile

/-! ## What a run collects -/

theorem PropertyMap.get?_erase (m : PropertyMap) (k key : String) :
    (m.erase k).get? key = if key = k then none else m.get? key := by
  rw [erase, get?_filter m fun x => x != k]
  by_cases h : key = k <;> simp [h]

namespace Loader

/-- The overrides, the environment or the settings name files. -/
def namesFiles (s : SourceSettings) (overrides given : PropertyMap) : Bool :=
  (sourceText overrides given Environment.filesKey).isSome || !s.files.isEmpty

/-- Files that were named are required. -/
theorem resolveFiles_required (s : SourceSettings) (home : Path) (overrides given : PropertyMap) :
    (resolveFiles s home overrides given).2 = namesFiles s overrides given := by
  unfold resolveFiles namesFiles
  cases sourceText overrides given Environment.filesKey with
  | some names => rfl
  | none =>
      cases s.files.isEmpty with
      | false => rfl
      | true => cases s.usesDefaultFiles <;> rfl

/-- Without a name there are the default files, or none. -/
theorem resolveFiles_default {s : SourceSettings} {overrides given : PropertyMap}
    (hnames : namesFiles s overrides given = false) (home : Path) :
    (resolveFiles s home overrides given).1 =
      if s.usesDefaultFiles then defaultFiles home else [] := by
  unfold namesFiles at hnames
  unfold resolveFiles
  cases hs : sourceText overrides given Environment.filesKey with
  | some names =>
      rw [hs] at hnames
      cases hnames
  | none =>
      rw [hs] at hnames
      have hempty : s.files.isEmpty = true := by simpa using hnames
      rw [hempty]
      cases s.usesDefaultFiles <;> rfl

theorem get?_withoutSourceKeys (m : PropertyMap) (key : String) :
    (withoutSourceKeys m).get? key =
      if key ∈ Environment.sourceKeys then none else m.get? key := by
  have herase : ∀ (keys : List String) (m : PropertyMap),
      (keys.foldl (fun m key => m.erase key) m).get? key =
        if key ∈ keys then none else m.get? key := by
    intro keys
    induction keys with
    | nil =>
        intro m
        rfl
    | cons k rest ih =>
        intro m
        rw [List.foldl_cons, ih, PropertyMap.get?_erase]
        by_cases hk : key = k <;> by_cases hrest : key ∈ rest <;> simp [hk, hrest]
  exact herase Environment.sourceKeys m

theorem Sources.get?_merged (src : Sources) (loaded overrides : PropertyMap) (key : String) :
    (src.merged loaded overrides).get? key =
      if key ∈ Environment.sourceKeys then none
      else (overrides.get? key).or ((src.given.get? key).or (loaded.get? key)) := by
  rw [merged, get?_withoutSourceKeys, PropertyMap.get?_union, PropertyMap.get?_union]

section Collect

variable {l : Loader} {h : Host} {overrides : PropertyMap} {environment : Option Variables}
  {src : Sources}

theorem collect_result (hsrc : l.sources h overrides environment = src) :
    ((collect overrides environment).run l h).1.1 =
      (src.loadFiles.run (h.logged src.events)).1.map fun loaded => src.merged loaded overrides :=
  congrArg (fun x => x.1.1) (collect_run hsrc)

/-- A run returns exactly when each of its files is read or passed over. -/
theorem collect_returns_iff (hsrc : l.sources h overrides environment = src) :
    (∃ m, ((collect overrides environment).run l h).1.1 = .ok m) ↔
      ∀ p ∈ src.files, SettingsFile.Passes h.decoders h.files src.encoding src.areRequired p := by
  have hloads : (∃ loaded, (src.loadFiles.run (h.logged src.events)).1 = .ok loaded) ↔
      ∀ p ∈ src.files, SettingsFile.Passes h.decoders h.files src.encoding src.areRequired p :=
    SettingsFile.loadAll_returns_iff
  rw [← hloads, collect_result hsrc]
  cases (src.loadFiles.run (h.logged src.events)).1 with
  | ok loaded => exact ⟨fun _ => ⟨loaded, rfl⟩, fun _ => ⟨_, rfl⟩⟩
  | error e => exact ⟨fun ⟨_, hm⟩ => (nomatch hm), fun ⟨_, hm⟩ => (nomatch hm)⟩

/-- Of the sources that have a key the topmost counts. -/
theorem get?_of_collect (hsrc : l.sources h overrides environment = src) {m : PropertyMap}
    (hm : ((collect overrides environment).run l h).1.1 = .ok m) (key : String) :
    m.get? key =
      if key ∈ Environment.sourceKeys then none
      else (overrides.get? key).or ((src.given.get? key).or
        (SettingsFile.lastValue h.decoders h.files src.encoding src.files key)) := by
  rw [collect_result hsrc] at hm
  cases hl : (src.loadFiles.run (h.logged src.events)).1 with
  | error e =>
      rw [hl] at hm
      cases hm
  | ok loaded =>
      rw [hl] at hm
      obtain rfl := Except.ok.inj hm
      have hloaded := SettingsFile.get?_of_loadAll hl key
      rw [PropertyMap.get?_empty, Option.or_none] at hloaded
      rw [Sources.get?_merged, hloaded]
      rfl

end Collect

/-- When a run returns, every key has the value of the topmost source that has one, and
the keys that say where settings are read from are gone.  A run returns exactly when
each file is read or passed over.  A file that is missing or rejected contributes
nothing; it is passed over if it is a default one, and ends the run if it was named. -/
theorem collect_precedence (l : Loader) (h : Host) (overrides : PropertyMap)
    (environment : Option Variables) :
    let src := l.sources h overrides environment
    let result := ((collect overrides environment).run l h).1.1
    let named := namesFiles l.settings overrides src.given
    (∀ m, result = .ok m →
      (∀ key ∈ Environment.sourceKeys, m.get? key = none) ∧
        ∀ key ∉ Environment.sourceKeys, m.get? key =
          (overrides.get? key).or ((src.given.get? key).or
            (SettingsFile.lastValue h.decoders h.files src.encoding src.files key))) ∧
      ((∃ m, result = .ok m) ↔ ∀ p ∈ src.files,
        (SettingsFile.contents? h.decoders h.files src.encoding p).isSome ∨
          named = false ∧ SettingsFile.Unusable h.decoders h.files src.encoding p) ∧
      (∀ p ∈ src.files, SettingsFile.Unusable h.decoders h.files src.encoding p →
        SettingsFile.contents? h.decoders h.files src.encoding p = none ∧
          (named = true → ∃ e, result = .error e)) ∧
      (named = false →
        src.files = if l.settings.usesDefaultFiles then defaultFiles h.home else []) := by
  intro src result named
  have hrequired : src.areRequired = named := resolveFiles_required l.settings h.home overrides _
  have hreturns : (∃ m, result = .ok m) ↔
      ∀ p ∈ src.files, SettingsFile.Passes h.decoders h.files src.encoding named p := by
    rw [← hrequired]
    exact collect_returns_iff rfl
  refine ⟨fun m hm => ⟨fun key hkey => ?_, fun key hkey => ?_⟩, hreturns,
    fun p hp hunusable => ⟨hunusable.contents?, fun hnamed => ?_⟩,
    fun hnamed => resolveFiles_default hnamed h.home⟩
  · rw [get?_of_collect rfl hm, if_pos hkey]
  · rw [get?_of_collect rfl hm, if_neg hkey]
  · cases hr : result with
    | error e => exact ⟨e, rfl⟩
    | ok m =>
        rcases hreturns.1 ⟨m, hr⟩ p hp with hsome | ⟨hdefault, -⟩
        · rw [hunusable.contents?] at hsome
          cases hsome
        · rw [hnamed] at hdefault
          cases hdefault

/-- Each source has its say: of the default files one is read and one is rejected, in
the encoding that a variable chooses; another variable overrides the file, and a file
that is named but missing ends the run. -/
theorem collect_precedence_mixed :
    let h : Host := { Host.bare with
      files := ⟨[(["home"], .directory),
        (["home", "flyway.conf"], .file (Codec.Utf8.encode
          "a=f\nb=f\nflyway.table=f".toList)),
        (["flyway.conf"], .file [0xFF])]⟩
      home := Path.ofString "home" }
    let l : Loader := .new .standard none .community
    let environment : Option Variables :=
      some [("FLYWAY_TABLE", "e"), ("FLYWAY_CONFIG_FILE_ENCODING", "646")]
    (∃ m, ((collect (.ofList [("b", "o")]) environment).run l h).1.1 = .ok m ∧
      m.get? "a" = some "f" ∧ m.get? "flyway.table" = some "e" ∧ m.get? "b" = some "o" ∧
        m.get? Environment.fileEncodingKey = none) ∧
      ∃ e, ((collect (.ofList [("flyway.configFiles", "missing.conf")]) environment).run l h).1.1 =
        .error e := by
  intro h l environment
  have hgiven : readEnvironment l.settings (environment.getD h.environment) =
      (.ofList [("flyway.table", "e"), ("flyway.configFileEncoding", "646")],
        [.environmentRead 2]) := by
    have hkey : ∀ e ∈ [("FLYWAY_TABLE", "flyway.table"),
        ("FLYWAY_CONFIG_FILE_ENCODING", "flyway.configFileEncoding")],
        Namespace.beginsWith Environment.root e.1 = true ∧ Environment.key? e.1 = some e.2 := by
      intro e he
      obtain ⟨hname, hspelled, hroot⟩ : Environment.variableOf e.2 = e.1 ∧
          e.2 ∈ Environment.spelledKeys ∧ Namespace.beginsWith Environment.root e.1 = true := by
        revert e
        decide +kernel
      exact ⟨hroot, hname ▸ Environment.key?_variableOf hspelled⟩
    obtain ⟨hrootTable, hkeyTable⟩ := hkey ("FLYWAY_TABLE", "flyway.table") (by simp)
    obtain ⟨hrootEncoding, hkeyEncoding⟩ :=
      hkey ("FLYWAY_CONFIG_FILE_ENCODING", "flyway.configFileEncoding") (by simp)
    show Environment.read true
      [("FLYWAY_TABLE", "e"), ("FLYWAY_CONFIG_FILE_ENCODING", "646")] = _
    unfold Environment.read
    rw [List.filterMap_cons_some (Environment.entryOf_of_key? hrootTable hkeyTable "e"),
      List.filterMap_cons_some (Environment.entryOf_of_key? hrootEncoding hkeyEncoding "646")]
    decide +kernel
  refine ⟨?_, ?_⟩
  · have hspec := collect_precedence l h (.ofList [("b", "o")]) environment
    dsimp only at hspec
    have hsrc : l.sources h (.ofList [("b", "o")]) environment =
        { given := .ofList [("flyway.table", "e"), ("flyway.configFileEncoding", "646")]
          events := [.environmentRead 2]
          encoding := "646"
          files := defaultFiles h.home
          areRequired := false } := by
      unfold sources sourcesOf
      rw [hgiven]
      rfl
    rw [hsrc] at hspec
    obtain ⟨hvalues, hreturns, -, -⟩ := hspec
    let p := Path.ofString "flyway.conf"
    have hrejected : SettingsFile.Unusable h.decoders h.files "646" p := by
      have hnone : (SettingsFile.fetch h.decoders h.files "646" false p).toOption.map
          (fun found => found.1.isNone) = some true := by
        decide +kernel
      have hfetched := SettingsFile.fetch_cases h.decoders h.files "646" false p
      generalize SettingsFile.fetch h.decoders h.files "646" false p = found at hnone hfetched
      cases hfetched with
      | read hm => cases hnone
      | passedOver es hr hp => exact hp
      | failed e hp => cases hnone
    obtain ⟨m, hm⟩ := hreturns.2 (by
      intro p hp
      rcases List.mem_pair.1 hp with rfl | rfl
      · exact .inl (by decide +kernel)
      · exact .inr ⟨by decide +kernel, hrejected⟩)
    obtain ⟨hgone, hget⟩ := hvalues m hm
    refine ⟨m, hm, ?_, ?_, ?_, hgone Environment.fileEncodingKey (by decide)⟩
    · rw [hget "a" (by decide)]
      decide +kernel
    · rw [hget "flyway.table" (by decide)]
      rfl
    · rw [hget "b" (by decide)]
      rfl
  · have hspec := collect_precedence l h (.ofList [("flyway.configFiles", "missing.conf")])
      environment
    dsimp only at hspec
    have hsrc : l.sources h (.ofList [("flyway.configFiles", "missing.conf")]) environment =
        { given := .ofList [("flyway.table", "e"), ("flyway.configFileEncoding", "646")]
          events := [.environmentRead 2]
          encoding := "646"
          files := [Path.ofString "missing.conf"]
          areRequired := true } := by
      unfold sources sourcesOf
      rw [hgiven]
      rfl
    rw [hsrc] at hspec
    exact (hspec.2.2.1 _ (List.mem_singleton_self _)
      (.missing (by decide +kernel) (by decide +kernel))).2 (by decide +kernel)

end Loader

end MigrationConfig
