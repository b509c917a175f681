/-
# What an environment translates to

Two tables have to agree: one turns the names of variables into keys, the other says
which keys have a meaning.  The first is made from the keys of the settings, by
spelling; beside it there are the two namespaces, whose names are lowered or kept, and
the second name of the dry-run output.  So whatever a variable translates to is a key
that a pass knows, or one of the two keys that say where settings are read from
(`key?_cases`), and a pass has nothing to report of what came from an environment.

Variables that translate to one key are read in order, and the last of them counts.
-/
import MigrationConfig.Proofs.Residue
import MigrationConfig.Proofs.Sources

namespace MigrationConfig

/-! ## Lower case -/

theorem Text.lowerChar_ne_nil (before : List Char) (c : Char) (after : List Char) :
    lowerChar before c after ≠ [] := by
  unfold lowerChar
  split
  · exact List.cons_ne_nil _ _
  · split <;> exact List.cons_ne_nil _ _

theorem Text.lower_ne_nil {s : List Char} (hs : s ≠ []) : lower s ≠ [] := by
  cases s with
  | nil => exact absurd rfl hs
  | cons c rest => exact List.append_ne_nil_of_left_ne_nil (lowerChar_ne_nil [] c rest) _

namespace Environment

/-! ## The names that stand for a key -/

theorem beginsWith_variableOf {key : String} (hkey : key ∈ spelledKeys) :
    Namespace.beginsWith root (variableOf key) = true := by
  have hname : (variableOf key).toList = spelling key := String.toList_ofList
  rw [Namespace.beginsWith, hname]
  exact nodup_spellings_and_root.2 _ (List.mem_map_of_mem hkey)

/-- What the table has begins as all variables of the library do, and stands for a key
that is spelled. -/
theorem mem_of_table {name key : String} (hfound : Entries.get? name table = some key) :
    Namespace.beginsWith root name = true ∧ key ∈ spelledKeys := by
  rw [table_eq, Entries.get?_put] at hfound
  split at hfound
  · next hname =>
      obtain rfl := Option.some.inj hfound
      rw [← eq_of_beq hname]
      exact ⟨by decide +kernel, by decide +kernel⟩
  · obtain ⟨k, hk, he⟩ := List.mem_map.1 (Entries.mem_of_get? hfound)
    obtain ⟨rfl, rfl⟩ := Prod.mk.inj he
    exact ⟨beginsWith_variableOf hk, hk⟩

/-- What a variable can translate to. -/
inductive Translation (key : String) : Prop where
  | spelled (hkey : key ∈ spelledKeys)
  | placeholder (n : String) (hn : n ≠ "") (hkey : key = placeholderRoot ++ n)
  | driverProperty (n : String) (hn : n ≠ "") (hkey : key = driverPropertyRoot ++ n)

theorem beginsWith_of_name? {start name n : String}
    (hstart : Namespace.beginsWith root start = true)
    (hname : Namespace.name? start name = some n) : Namespace.beginsWith root name = true := by
  obtain ⟨tail, rfl⟩ := Namespace.beginsWith_iff.1 hstart
  obtain ⟨-, rfl⟩ := Namespace.name?_eq_some.1 hname
  exact Namespace.beginsWith_iff.2 ⟨tail ++ n, String.append_assoc⟩

/-- A variable that translates to a key begins as all variables of the library do, and
the key has a meaning. -/
theorem key?_cases {name key : String} (hkey : key? name = some key) :
    Namespace.beginsWith root name = true ∧ Translation key := by
  cases htable : Entries.get? name table with
  | some k =>
      rw [key?_of_table htable] at hkey
      obtain rfl := Option.some.inj hkey
      obtain ⟨hroot, hk⟩ := mem_of_table htable
      exact ⟨hroot, .spelled hk⟩
  | none =>
      rw [key?_eq, htable, Option.none_or, Option.or_eq_some_iff] at hkey
      rcases hkey with hkey | ⟨-, hkey⟩
      · obtain ⟨n, hn, rfl⟩ := Option.map_eq_some_iff.1 hkey
        refine ⟨beginsWith_of_name? (by decide) hn,
          .placeholder _ (fun hempty => ?_) rfl⟩
        have hne : n.toList ≠ [] := fun h =>
          (Namespace.name?_eq_some.1 hn).1 (String.toList_eq_nil_iff.1 h)
        exact Text.lower_ne_nil hne (String.ofList_eq_empty_iff.1 hempty)
      · obtain ⟨n, hn, rfl⟩ := Option.map_eq_some_iff.1 hkey
        exact ⟨beginsWith_of_name? (by decide) hn,
          .driverProperty n (Namespace.name?_eq_some.1 hn).1 rfl⟩

/-! ## The keys of an environment -/

/-- Whether a key is left out of what an environment translates to. -/
def isHidden (withSourceKeys : Bool) (key : String) : Bool :=
  sourceKeys.contains key && !withSourceKeys

/-- The entry that a variable contributes, if it contributes one. -/
def translate (withSourceKeys : Bool) (e : String × String) : Option (String × String) :=
  (key? e.1).bind fun key => if isHidden withSourceKeys key then none else some (key, e.2)

/-- The value of the last variable that translates to a key. -/
def lastVariable (environment : Variables) (key : String) : Option String :=
  (environment.reverse.find? fun e => key? e.1 == some key).map Prod.snd

theorem isHidden_eq_false {withSourceKeys : Bool} {key : String} :
    isHidden withSourceKeys key = false ↔ (key ∈ sourceKeys → withSourceKeys = true) := by
  unfold isHidden
  cases withSourceKeys <;> simp

theorem isSome_lastVariable {environment : Variables} {key : String} :
    (lastVariable environment key).isSome = true ↔ ∃ e ∈ environment, key? e.1 = some key := by
  rw [lastVariable, Option.isSome_map, List.find?_isSome]
  simp only [List.mem_reverse, beq_iff_eq]

theorem entry_of_entryOf (withSourceKeys : Bool) (e : String × String) :
    ((entryOf withSourceKeys e).bind fun x =>
      match x with
      | .inr e => some e
      | .inl _ => none) = translate withSourceKeys e := by
  unfold entryOf translate isHidden
  cases hkey : key? e.1 with
  | none => cases Namespace.beginsWith root e.1 <;> rfl
  | some key =>
      rw [(key?_cases hkey).1]
      simp only [Bool.not_true, Bool.false_eq_true, if_false, Option.bind_some]
      split <;> rfl

theorem read_eq (withSourceKeys : Bool) (environment : Variables) :
    (read withSourceKeys environment).1 =
      PropertyMap.ofList (environment.filterMap (translate withSourceKeys)) := by
  have htranslate : translate withSourceKeys = fun e =>
      (entryOf withSourceKeys e).bind fun x =>
        match x with
        | .inr e => some e
        | .inl _ => none :=
    funext fun e => (entry_of_entryOf withSourceKeys e).symm
  show PropertyMap.ofList ((environment.filterMap (entryOf withSourceKeys)).filterMap _) = _
  rw [htranslate]
  exact congrArg PropertyMap.ofList List.filterMap_filterMap

theorem translate_any (withSourceKeys : Bool) (key : String) (e : String × String) :
    (translate withSourceKeys e).any (fun x => x.1 == key) =
      (!isHidden withSourceKeys key && key? e.1 == some key) := by
  unfold translate
  cases key? e.1 with
  | none => exact (Bool.and_false _).symm
  | some k =>
      rw [Option.bind_some]
      by_cases hk : k = key
      · subst hk
        cases isHidden withSourceKeys k <;> simp
      · cases isHidden withSourceKeys k <;> simp [hk]

/-- Each key that is not hidden has the value of the last variable that translates to
it. -/
theorem get?_read (withSourceKeys : Bool) (environment : Variables) (key : String) :
    (read withSourceKeys environment).1.get? key =
      if isHidden withSourceKeys key then none else lastVariable environment key := by
  rw [read_eq, PropertyMap.ofList, PropertyMap.get?_insertAll_last, PropertyMap.get?_empty,
    Option.or_none, ← List.filterMap_reverse, List.find?_filterMap, lastVariable]
  simp only [translate_any]
  cases hhidden : isHidden withSourceKeys key with
  | true =>
      have hnone : environment.reverse.find? (fun _ => false) = none :=
        List.find?_eq_none.2 fun _ _ => Bool.false_ne_true
      simp only [Bool.not_true, Bool.false_and, if_true, hnone, Option.bind_none, Option.map_none]
  | false =>
      simp only [Bool.not_false, Bool.true_and, Bool.false_eq_true, if_false]
      cases hfound : environment.reverse.find? fun e => key? e.1 == some key with
      | none => rfl
      | some e =>
          have hkey : (key? e.1 == some key) = true := (List.find?_eq_some_iff_append.1 hfound).1
          have htranslate : translate withSourceKeys e = some (key, e.2) := by
            rw [translate, eq_of_beq hkey, Option.bind_some, hhidden, if_neg Bool.false_ne_true]
          rw [Option.bind_some, htranslate, Option.map_some, Option.map_some]

/-- The keys of an environment that a pass is given all have a meaning. -/
theorem Translation.isKnownKey {key : String} (hkey : Translation key)
    (hsource : key ∉ sourceKeys) : Config.isKnownKey key = true := by
  unfold Config.isKnownKey
  cases hkey with
  | spelled hspelled =>
      have hset : Config.isSettingKey key = true := by
        rcases List.mem_append.1 hspelled with hset | hs
        · obtain ⟨s, -, hs⟩ := List.mem_filterMap.1 hset
          refine List.any_eq_true.2 ⟨s, Setting.mem_applied.2 (by rw [hs]; rfl), ?_⟩
          simp [hs]
        · exact absurd hs hsource
      rw [hset]
      rfl
  | placeholder n hn hkey =>
      rw [Namespace.name?_eq_some.2 ⟨hn, hkey⟩, Option.isSome_some, Bool.or_true, Bool.true_or]
  | driverProperty n hn hkey =>
      rw [Namespace.name?_eq_some.2 ⟨hn, hkey⟩, Option.isSome_some, Bool.or_true]

/-- The keys of an environment are those that are not hidden and that some variable
translates to. -/
theorem mem_keys_read {withSourceKeys : Bool} {environment : Variables} {key : String} :
    key ∈ (read withSourceKeys environment).1.keys ↔
      (key ∈ sourceKeys → withSourceKeys = true) ∧ ∃ e ∈ environment, key? e.1 = some key := by
  rw [PropertyMap.mem_keys, get?_read, ← isHidden_eq_false, ← isSome_lastVariable]
  cases isHidden withSourceKeys key <;> simp

theorem translation_of_mem {withSourceKeys : Bool} {environment : Variables} {key : String}
    (hkey : key ∈ (read withSourceKeys environment).1.keys) : Translation key := by
  obtain ⟨-, e, -, he⟩ := mem_keys_read.1 hkey
  exact (key?_cases he).2

end Environment

/-! ## Reports -/

namespace Config

/-- A pass reports the keys under its root that have no meaning, and only if there are
any. -/
theorem apply_unrecognized {m : PropertyMap} {root : String} {t : Situation} {keys : List String}
    (hr : ((apply m root).run t).1 = .error (.unrecognized keys)) :
    keys = unknownKeys m root ∧ keys ≠ [] := by
  rw [apply_run] at hr
  rcases hsettings : (applySettings m Setting.applied).run t with ⟨r, t'⟩
  have hrefuses := applySettings_refuses m Setting.applied t
  rw [hsettings] at hr hrefuses
  cases r with
  | error e =>
      obtain rfl := Except.error.inj hr
      exact absurd (hrefuses _ rfl) id
  | ok u =>
      have hverdict : verdict m root = .error (.unrecognized keys) := hr
      rw [verdict_eq] at hverdict
      split at hverdict
      · cases hverdict
      · next hne =>
          cases hverdict
          exact ⟨rfl, hne⟩

end Config

/-! ## Files that are not loaded -/

namespace SettingsFile

theorem text_refuses (others : Codec.Decoders) (t : FileTree) (p : Path) (encoding : String) :
    RefusesAsSetting (text others t p encoding) := by
  unfold text
  split
  · exact .error trivial
  split
  · exact .error trivial
  · exact .error trivial
  · split
    · exact .ok _
    · exact .error trivial
    · exact .error trivial
    · exact .error trivial

theorem yamlDocument_refuses (p : Path) (cs : List Char) :
    RefusesAsSetting (yamlDocument p cs) := by
  unfold yamlDocument
  split
  · exact .ok _
  · exact .error trivial
  · exact .error trivial

theorem jsonDocument_refuses (p : Path) (cs : List Char) :
    RefusesAsSetting (jsonDocument p cs) := by
  unfold jsonDocument
  split
  · exact .ok _
  split
  · exact .ok _
  · exact .error trivial
  · exact .error trivial

theorem ofDocument_refuses (p : Path) (d : Document) : RefusesAsSetting (ofDocument p d) := by
  unfold ofDocument
  split
  · unfold flatten
    split
    · exact .error trivial
    · exact .error trivial
    · exact .ok _
  · exact .error trivial

/-- A file is refused by an error of its own. -/
theorem load_refuses (others : Codec.Decoders) (t : FileTree) (p : Path) (encoding : String) :
    RefusesAsSetting (load others t p encoding) := by
  unfold load
  split
  · next e he => exact .error (text_refuses others t p encoding e he)
  · split
    · exact .ok _
    · exact .bind (yamlDocument_refuses p _) (ofDocument_refuses p)
    · exact .bind (jsonDocument_refuses p _) (ofDocument_refuses p)

theorem loadAll_refuses (encoding : String) (areRequired : Bool) :
    ∀ (files : List Path) (loaded : PropertyMap),
      HostM.FailsAsSetting (loadAll encoding areRequired loaded files) := by
  intro files
  induction files with
  | nil => exact fun _ => .pure _
  | cons p rest ih =>
      intro loaded h
      rw [loadAll_cons_run]
      split
      · exact ih _ _
      · next e he =>
          refine .error ?_
          unfold fetch at he
          split at he
          · cases he
            trivial
          split at he
          · split at he
            · cases he
              trivial
            · cases he
          split at he
          · cases he
          · next e' hload =>
              split at he
              · cases he
                exact load_refuses h.decoders h.files p encoding e hload
              · cases he

end SettingsFile

/-! ## What is reported of an environment -/

/-- No other error is reported with the code of unknown keys. -/
theorem Error.unrecognized_of_code {e : Error}
    (hcode : e.report?.map Report.code = some "FLY_1001") : ∃ keys, e = .unrecognized keys := by
  cases e with
  | unrecognized keys => exact ⟨keys, rfl⟩
  | invalid c =>
      have hsetting : some "FLY_1000" = some "FLY_1001" := hcode
      exact absurd hsetting (by decide)
  | upgradeRequired feature required current =>
      have hupgrade : some "FLY_2000" = some "FLY_1001" := hcode
      exact absurd hupgrade (by decide)
  | value | type | file | stream | arguments => cases hcode

/-- A pass over an environment reports no keys. -/
theorem Environment.apply_not_unrecognized (environment : Variables) (t : Situation)
    (keys : List String) : ((apply environment).run t).1 ≠ .error (.unrecognized keys) := by
  intro hr
  have hrun : (apply environment).run t =
      (Config.apply (read false environment).1 propertyRoot).run
        ⟨t.config, t.host.logged (read false environment).2⟩ :=
    Procedure.run_bind_ok (Procedure.run_forM_log _ t)
  rw [hrun] at hr
  obtain ⟨hkeys, hne⟩ := Config.apply_unrecognized hr
  obtain ⟨k, hk⟩ := List.exists_mem_of_ne_nil keys hne
  rw [hkeys, Config.mem_unknownKeys] at hk
  obtain ⟨hmem, -, hunknown⟩ := hk
  have hsource := (mem_keys_read.1 hmem).1
  rw [(translation_of_mem hmem).isKnownKey fun h => Bool.false_ne_true (hsource h)] at hunknown
  cases hunknown

namespace Loader

variable {l : Loader} {h : Host} {overrides : PropertyMap} {environment : Option Variables}

/-- What a run reads from the environment has a meaning, but for the keys that say where
settings are read from. -/
theorem isKnownKey_of_given {src : Sources} (hsrc : l.sources h overrides environment = src)
    {key : String} (hkey : key ∈ src.given.keys) (hsource : key ∉ Environment.sourceKeys) :
    Config.isKnownKey key = true := by
  subst hsrc
  have hgiven : key ∈ (readEnvironment l.settings (environment.getD h.environment)).1.keys := hkey
  unfold readEnvironment at hgiven
  split at hgiven
  · exact (Environment.translation_of_mem hgiven).isKnownKey hsource
  · cases hgiven

/-- A run that reports keys has loaded its files, and the pass over what it has collected
reports them. -/
theorem apply_of_load_unrecognized {src : Sources}
    (hsrc : l.sources h overrides environment = src) {keys : List String}
    (hr : ((load overrides environment).run l h).1.1 = .error (.unrecognized keys)) :
    ∃ loaded, (src.loadFiles.run (h.logged src.events)).1 = .ok loaded ∧
      ∃ t, ((Config.apply (src.merged loaded overrides) propertyRoot).run t).1 =
        .error (.unrecognized keys) := by
  rw [load_run hsrc] at hr
  have hrefuses := SettingsFile.loadAll_refuses src.encoding src.areRequired src.files .empty
    (h.logged src.events)
  change RefusesAsSetting (src.loadFiles.run (h.logged src.events)).1 at hrefuses
  rcases hl : src.loadFiles.run (h.logged src.events) with ⟨r, h₁⟩
  rw [hl] at hr hrefuses
  cases r with
  | error e =>
      obtain rfl := Except.error.inj hr
      exact absurd (hrefuses _ rfl) id
  | ok loaded =>
      dsimp only at hr
      rw [make_run, configured_run] at hr
      refine ⟨loaded, rfl, ⟨.new l.edition (l.classesOn h₁).1, (l.classesOn h₁).2⟩, ?_⟩
      rcases hrun : (Config.configure (src.merged loaded overrides)).run
        ⟨.new l.edition (l.classesOn h₁).1, (l.classesOn h₁).2⟩ with ⟨q, t⟩
      rw [hrun] at hr
      have happly : (Config.apply (src.merged loaded overrides) propertyRoot).run
        ⟨.new l.edition (l.classesOn h₁).1, (l.classesOn h₁).2⟩ = (q, t) := hrun
      rw [happly]
      cases q with
      | ok u => cases hr
      | error e =>
          obtain rfl := Except.error.inj hr
          rfl

/-- When a run reports keys, these are the keys without a meaning that the overrides or
the files have under the root; none is a key of the environment. -/
theorem load_unrecognized {src : Sources} (hsrc : l.sources h overrides environment = src)
    {keys : List String}
    (hr : ((load overrides environment).run l h).1.1 = .error (.unrecognized keys)) :
    keys ≠ [] ∧ (∀ k ∈ keys, k ∉ src.given.keys) ∧
      ∀ k, k ∈ keys ↔ k ∉ Environment.sourceKeys ∧
        ((overrides.get? k).isSome ∨
          (SettingsFile.lastValue h.decoders h.files src.encoding src.files k).isSome) ∧
        Namespace.beginsWith propertyRoot k = true ∧ Config.isKnownKey k = false := by
  obtain ⟨loaded, hl, t, happly⟩ := apply_of_load_unrecognized hsrc hr
  obtain ⟨hkeys, hne⟩ := Config.apply_unrecognized happly
  have hnotGiven : ∀ {k}, k ∉ Environment.sourceKeys → Config.isKnownKey k = false →
      k ∉ src.given.keys := by
    intro k hsource hunknown hgiven
    rw [isKnownKey_of_given hsrc hgiven hsource] at hunknown
    cases hunknown
  have hiff : ∀ k, k ∈ keys ↔ k ∉ Environment.sourceKeys ∧
      ((overrides.get? k).isSome ∨
        (SettingsFile.lastValue h.decoders h.files src.encoding src.files k).isSome) ∧
      Namespace.beginsWith propertyRoot k = true ∧ Config.isKnownKey k = false := by
    intro k
    have hloaded := SettingsFile.get?_of_loadAll hl k
    rw [PropertyMap.get?_empty, Option.or_none] at hloaded
    rw [hkeys, Config.mem_unknownKeys, PropertyMap.mem_keys, Sources.get?_merged, hloaded]
    by_cases hsource : k ∈ Environment.sourceKeys
    · simp [hsource]
    · rw [if_neg hsource]
      constructor
      · rintro ⟨hsome, hroot, hunknown⟩
        have hgiven := hnotGiven hsource hunknown
        rw [PropertyMap.mem_keys, Bool.not_eq_true, Option.isSome_eq_false_iff,
          Option.isNone_iff_eq_none] at hgiven
        rw [hgiven, Option.none_or, Option.isSome_or, Bool.or_eq_true] at hsome
        exact ⟨hsource, hsome, hroot, hunknown⟩
      · rintro ⟨-, hsome, hroot, hunknown⟩
        refine ⟨?_, hroot, hunknown⟩
        rw [Option.isSome_or, Option.isSome_or, Bool.or_eq_true, Bool.or_eq_true]
        exact hsome.imp_right .inr
  refine ⟨hne, fun k hk => ?_, hiff⟩
  obtain ⟨hsource, -, -, hunknown⟩ := (hiff k).1 hk
  exact hnotGiven hsource hunknown

end Loader

/-- What an environment yields are keys of settings, names in the two namespaces, and if
they are asked for the two keys that say where settings are read from.  Of these every
key that a variable translates to is there, with the value of the last such variable.

So a pass over an environment never reports a key, and when a run of a loader reports
some, the overrides or the files have them and the environment has none of them. -/
theorem Environment.read_yields (environment : Variables) (withSourceKeys : Bool) :
    let m := (read withSourceKeys environment).1
    (∀ k ∈ m.keys, (∃ s ∈ Setting.recognized, s.key? = some k) ∨
        (∃ n, n ≠ "" ∧ k = placeholderRoot ++ n) ∨ (∃ n, n ≠ "" ∧ k = driverPropertyRoot ++ n) ∨
        (withSourceKeys = true ∧ k ∈ sourceKeys)) ∧
      (∀ k, k ∈ m.keys ↔ (k ∈ sourceKeys → withSourceKeys = true) ∧
        ∃ e ∈ environment, key? e.1 = some k) ∧
      (∀ k ∈ m.keys, m.get? k = lastVariable environment k) ∧
      (∀ t keys, ((apply environment).run t).1 ≠ .error (.unrecognized keys)) ∧
      ∀ (l : Loader) (h : Host) (overrides : PropertyMap) (given : Option Variables)
        (keys : List String), given.getD h.environment = environment →
          ((Loader.load overrides given).run l h).1.1 = .error (.unrecognized keys) →
            let src := l.sources h overrides given
            keys ≠ [] ∧ ∀ k ∈ keys, k ∉ m.keys ∧ k ∉ src.given.keys ∧
              ((overrides.get? k).isSome ∨
                (SettingsFile.lastValue h.decoders h.files src.encoding src.files k).isSome) := by
  intro m
  refine ⟨fun k hk => ?_, fun k => mem_keys_read, fun k hk => ?_,
    apply_not_unrecognized environment, fun l h overrides given keys _ hr => ?_⟩
  · cases translation_of_mem hk with
    | spelled hspelled =>
        rcases List.mem_append.1 hspelled with hset | hs
        · exact .inl (List.mem_filterMap.1 hset)
        · exact .inr (.inr (.inr ⟨(mem_keys_read.1 hk).1 hs, hs⟩))
    | placeholder n hn hk => exact .inr (.inl ⟨n, hn, hk⟩)
    | driverProperty n hn hk => exact .inr (.inr (.inl ⟨n, hn, hk⟩))
  · rw [get?_read, isHidden_eq_false.2 (mem_keys_read.1 hk).1, if_neg Bool.false_ne_true]
  · obtain ⟨hne, hnotGiven, hiff⟩ := Loader.load_unrecognized rfl hr
    refine ⟨hne, fun k hk => ⟨fun hm => ?_, hnotGiven k hk, ?_⟩⟩
    · obtain ⟨hsource, -, -, hunknown⟩ := (hiff k).1 hk
      rw [(translation_of_mem hm).isKnownKey hsource] at hunknown
      cases hunknown
    · obtain ⟨-, hsome, -⟩ := (hiff k).1 hk
      exact hsome

/-- The dry-run output has two variables, of which the last one counts; an override without
a meaning is reported, and the variables are not. -/
theorem Environment.read_yields_last :
    let environment : Variables := [("FLYWAY_DRY_RUN_OUTPUT", "a"), ("FLYWAY_DRYRUN_OUTPUT", "b")]
    let given : Option Variables := some environment
    let l : Loader := .new .standard none .enterprise
    let overrides : PropertyMap := .ofList [("flyway.nothing", "x")]
    lastVariable environment "flyway.dryRunOutput" = some "b" ∧
      (read true environment).1.get? "flyway.dryRunOutput" = some "b" ∧
      ∃ keys, ((Loader.load overrides given).run l .bare).1.1 =
          .error (.unrecognized keys) ∧
        keys ≠ [] ∧ ∀ k ∈ keys, k ∉ (read true environment).1.keys := by
  intro environment given l overrides
  have hspelled : key? "FLYWAY_DRY_RUN_OUTPUT" = some "flyway.dryRunOutput" := by
    have hname : variableOf "flyway.dryRunOutput" = "FLYWAY_DRY_RUN_OUTPUT" := by decide +kernel
    rw [← hname]
    exact key?_variableOf (by decide +kernel)
  have hsecond : key? "FLYWAY_DRYRUN_OUTPUT" = some "flyway.dryRunOutput" := by
    refine key?_of_table ?_
    rw [table_eq, Entries.get?_put]
    exact if_pos (by decide)
  have hread : read true environment =
      (.ofList [("flyway.dryRunOutput", "b")], [.environmentRead 1]) := by
    unfold read
    rw [List.filterMap_cons_some (entryOf_of_key? (by decide) hspelled "a"),
      List.filterMap_cons_some (entryOf_of_key? (by decide) hsecond "b")]
    rfl
  obtain ⟨-, -, hlast, -, hload⟩ := read_yields environment true
  have hkey : "flyway.dryRunOutput" ∈ (read true environment).1.keys := by
    rw [hread]
    decide
  have hsrc : l.sources .bare overrides given =
      { given := .ofList [("flyway.dryRunOutput", "b")]
        events := [.environmentRead 1]
        encoding := "utf-8"
        files := Loader.defaultFiles ⟨"", []⟩
        areRequired := false } := by
    have hgiven : Loader.readEnvironment l.settings environment = read true environment :=
      if_pos rfl
    unfold Loader.sources Loader.sourcesOf
    rw [Option.getD_some, hgiven, hread]
    rfl
  have hcode : (((Loader.load overrides given).run l .bare).1.1.mapError fun e =>
      e.report?.map Report.code).map (fun _ => ()) = .error (some "FLY_1001") := by
    rw [Loader.load_run hsrc]
    decide +kernel
  obtain ⟨keys, hkeys⟩ : ∃ keys, ((Loader.load overrides given).run l .bare).1.1 =
      .error (.unrecognized keys) := by
    cases hr : ((Loader.load overrides given).run l .bare).1.1 with
    | ok c =>
        rw [hr] at hcode
        cases hcode
    | error e =>
        rw [hr] at hcode
        obtain ⟨keys, rfl⟩ := Error.unrecognized_of_code (Except.error.inj hcode)
        exact ⟨keys, rfl⟩
  obtain ⟨hne, hnot⟩ := hload l .bare overrides given keys Option.getD_some hkeys
  have hvalue : (read true environment).1.get? "flyway.dryRunOutput" = some "b" := by
    rw [hread]
    rfl
  exact ⟨(hlast _ hkey).symm.trans hvalue, hvalue, keys, hkeys, hne, fun k hk => (hnot k hk).1⟩

end MigrationConfig
