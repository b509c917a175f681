/-
# Secrets are not told

Two runs whose overrides and variables differ in the values of secrets only cannot be
told apart but by asking the configurations for these values: both return or fail with
the same error, what the loader remembers is the same, and so are the host and its log.

The two passes run in lockstep.  A setting that is no secret takes the same argument in
both.  One that is a secret takes any text, without a look at the host, and nobody else
asks for it, but for the connection, which asks whether a password has text.
-/
import MigrationConfig.Proofs.Lockstep
import MigrationConfig.Proofs.Unseen
import MigrationConfig.Proofs.Veiled

namespace MigrationConfig

/-- The descriptor as it may be shown. -/
def Descriptor.withoutPassword (d : Descriptor) : Descriptor := { d with password := none }

namespace Config

/-- The settings whose values are secrets. -/
def secretSettings : List Setting := [.password, .vaultToken, .licenseKey]

/-- The configurations differ at most in the values of secrets. -/
structure SameButSecrets (c c' : Config) : Prop where
  edition : c'.edition = c.edition
  loader : c'.loader = c.loader
  descriptor : c'.descriptor.map Descriptor.withoutPassword =
    c.descriptor.map Descriptor.withoutPassword
  get : ∀ s, s ∉ secretSettings → c'.get s = c.get s
  password : Text.hasText (c'.get .password) = Text.hasText (c.get .password)

variable {c c' : Config} {m m' : PropertyMap}

theorem SameButSecrets.refl (c : Config) : c.SameButSecrets c :=
  ⟨rfl, rfl, rfl, fun _ _ => rfl, rfl⟩

theorem SameButSecrets.require (hc : c.SameButSecrets c') (s : Setting) :
    c'.require s = c.require s := by
  unfold Config.require
  rw [hc.edition]

/-! ## Assignments -/

/-- Two values of a setting that is no secret are the same; of a password it is kept
whether it has text. -/
theorem SameButSecrets.assigned (hc : c.SameButSecrets c') {s : Setting} {v v' : s.Value}
    (hv : s ∉ secretSettings → v' = v)
    (hpassword : Text.hasText ((c'.assigned s v').get .password) =
      Text.hasText ((c.assigned s v).get .password)) :
    (c.assigned s v).SameButSecrets (c'.assigned s v') where
  edition := by rw [assigned_edition, assigned_edition, hc.edition]
  loader := by rw [assigned_loader, assigned_loader, hc.loader]
  descriptor := by
    rw [assigned_descriptor, assigned_descriptor]
    split
    · rfl
    · exact hc.descriptor
  get t ht := by
    by_cases hst : s = t
    · subst hst
      rw [assigned_get_same, assigned_get_same, hv ht]
    · rw [assigned_get_of_ne c' v' hst, assigned_get_of_ne c v hst, hc.get t ht]
  password := hpassword

theorem SameButSecrets.assigned_of_ne (hc : c.SameButSecrets c') {s : Setting} {v v' : s.Value}
    (hv : s ∉ secretSettings → v' = v) (hs : s ≠ .password) :
    (c.assigned s v).SameButSecrets (c'.assigned s v') :=
  hc.assigned hv (by
    rw [assigned_get_of_ne c' v' hs, assigned_get_of_ne c v hs, hc.password])

/-- A setting other than the dry-run output that takes an argument as it is leaves the host
alone. -/
theorem assign_run_text {s : Setting} {a : s.Argument} {v : s.Value} (hs : s ≠ .dryRunOutput)
    (ha : ∀ h, (s.kind.accept s.name c.loader a).run h = (.ok v, h)) (h : Host) :
    (c.assign s a).run h = ((c.require s).map fun _ => c.assigned s v, h) := by
  rw [assign_run_of_ne c hs, ha]
  cases c.require s <;> rfl

/-! ## Outcomes -/

/-- Both fail with the same error, or both yield a configuration. -/
inductive SameOutcome : Except Error Config → Except Error Config → Prop
  | error (e : Error) : SameOutcome (.error e) (.error e)
  | ok {c c' : Config} (hc : c.SameButSecrets c') : SameOutcome (.ok c) (.ok c')

/-- The second run, in a process with other variables, comes to what the first one comes to. -/
structure Matches (environment : Variables) (r r' : Except Error Config × Host) : Prop where
  outcome : SameOutcome r.1 r'.1
  host : r'.2 = r.2.withEnvironment environment

/-- All outcomes are compared, failures included. -/
def AnyOutcome (_ : Except Error Unit) : Prop := True

theorem anyOutcome (r : Except Error Unit) : AnyOutcome r := trivial

variable {environment : Variables}

/-- The passes do the same, in two processes, with configurations that differ in secrets. -/
abbrev MirrorsUnseen (environment : Variables) (x y : Procedure Unit) : Prop :=
  Procedure.Mirrors AnyOutcome (fun h => h.withEnvironment environment) SameButSecrets
    SameButSecrets x y

theorem change_mirrors {f f' : Config → HostM Config}
    (hf : ∀ ⦃c c'⦄ h, c.SameButSecrets c' →
      Matches environment ((f c).run h) ((f' c').run (h.withEnvironment environment))) :
    MirrorsUnseen environment (Procedure.change f) (Procedure.change f') := by
  intro c c' h r c₁ h₁ hc hr _
  obtain ⟨houtcome, hhost⟩ := hf h hc
  rcases hx : (f c).run h with ⟨q, h₂⟩
  rcases hy : (f' c').run (h.withEnvironment environment) with ⟨q', h₂'⟩
  rw [hx, hy] at houtcome hhost
  obtain rfl : h₂' = h₂.withEnvironment environment := hhost
  cases houtcome with
  | error e =>
      cases (Procedure.run_change_error hx).symm.trans hr
      exact ⟨c', Procedure.run_change_error hy, hc⟩
  | ok hc₂ =>
      cases (Procedure.run_change_ok hx).symm.trans hr
      exact ⟨_, Procedure.run_change_ok hy, hc₂⟩

/-! ## Settings -/

/-- The key of a setting is one of a secret only if the setting is. -/
theorem secretSettings_of_key : ∀ s ∈ Setting.applied, ∀ key ∈ s.key?,
    key ∈ Secret.secretKeys → s ∈ secretSettings := by
  decide +kernel

theorem textFor?_unveiled (hm : m.SameButSecrets m') {s : Setting} (hs : s ∉ secretSettings) :
    textFor? m' s = textFor? m s := by
  unfold textFor?
  cases hkey : s.key? with
  | none => rfl
  | some key =>
      have happlied : s ∈ Setting.applied := Setting.mem_applied.2 (by rw [hkey]; rfl)
      have hopen : key ∉ Secret.secretKeys := fun hk =>
        hs (secretSettings_of_key s happlied key hkey hk)
      dsimp only
      rw [hm.get?_eq hopen]

/-- An argument of a setting that is no secret is accepted or refused alike. -/
theorem assign_unveiled (hc : c.SameButSecrets c') {s : Setting} (hs : s ∉ secretSettings)
    (a : s.Argument) (h : Host) :
    Matches environment ((c.assign s a).run h)
      ((c'.assign s a).run (h.withEnvironment environment)) := by
  rw [assign_run_steps, assign_run_steps, hc.require, hc.loader,
    Kind.accept_blind s.name c.loader s.kind a h environment]
  cases c.require s with
  | error e => exact ⟨.error e, rfl⟩
  | ok u =>
      rcases (s.kind.accept s.name c.loader a).run h with ⟨r, h'⟩
      cases r with
      | error e => exact ⟨.error e, rfl⟩
      | ok v =>
          have hpassword : s ≠ .password := fun he => hs (he ▸ by decide)
          have hnext : (c'.put s v).get .dryRunOutput = (c.put s v).get .dryRunOutput := by
            by_cases ho : s = .dryRunOutput
            · subst ho
              rw [get_put_same, get_put_same]
            · rw [get_put_of_ne _ _ ho, get_put_of_ne _ _ ho, hc.get _ (by decide)]
          have houtput : c'.get .dryRunOutput = c.get .dryRunOutput := hc.get _ (by decide)
          dsimp only
          rw [hnext, houtput, Host.withEnvironment_closing]
          refine ⟨?_, Host.withEnvironment_closeReplaced ..⟩
          cases h'.closing (c.get .dryRunOutput) ((c.put s v).get .dryRunOutput) with
          | error e => exact .error e
          | ok u => exact .ok (hc.assigned_of_ne (fun _ => rfl) hpassword)

/-- A setting that is no secret takes the same argument in both passes. -/
theorem applySetting_unveiled (hm : m.SameButSecrets m') {s : Setting} (hs : s ∉ secretSettings) :
    MirrorsUnseen environment (applySetting m s) (applySetting m' s) := by
  have hargument : argument? m' s = argument? m s := by
    unfold argument?
    rw [textFor?_unveiled hm hs]
  exact applySetting_mirrors hargument fun a =>
    change_mirrors fun _ _ h hc => assign_unveiled hc hs a h

/-- A setting takes the text that either map has for it, if it takes texts as they are and
makes of corresponding texts configurations that correspond. -/
theorem applySetting_text (hm : m.SameButSecrets m') {s : Setting} {key : String}
    (hkey : s.key? = some key) (hs : s ≠ .dryRunOutput) {a : String → s.Argument}
    {v : String → s.Value} (hread : ∀ raw, s.kind.read key raw = .ok (some (a raw)))
    (haccept : ∀ loader raw h, (s.kind.accept s.name loader (a raw)).run h = (.ok (v raw), h))
    (hassigned : ∀ ⦃c c' : Config⦄ ⦃raw raw' : String⦄, c.SameButSecrets c' →
      Secret.Veiled key raw raw' →
        (c.assigned s (v raw)).SameButSecrets (c'.assigned s (v raw'))) :
    MirrorsUnseen environment (applySetting m s) (applySetting m' s) := by
  have hargument : ∀ m, argument? m s = .ok ((m.get? key).map a) := by
    intro m
    unfold argument? textFor?
    rw [hkey]
    dsimp only
    cases m.get? key with
    | none => rfl
    | some raw => exact hread raw
  intro c c' h r c₁ h₁ hc hr hcounts
  rw [applySetting_run, hargument] at hr
  rw [applySetting_run, hargument]
  have hrel := hm.get? key
  generalize m.get? key = o at hr hrel
  generalize m'.get? key = o' at hrel ⊢
  cases hrel with
  | none =>
      cases hr
      exact ⟨c', rfl, hc⟩
  | @some raw raw' hv =>
      refine change_mirrors (fun c c' h hc => ?_) hc hr hcounts
      rw [assign_run_text hs (haccept c.loader raw), assign_run_text hs (haccept c'.loader raw'),
        hc.require]
      cases c.require s with
      | error e => exact ⟨.error e, rfl⟩
      | ok u => exact ⟨.ok (hassigned hc hv), rfl⟩

/-- A secret takes any text. -/
theorem applySetting_veiled (hm : m.SameButSecrets m') {s : Setting} (hs : s ∈ secretSettings) :
    MirrorsUnseen environment (applySetting m s) (applySetting m' s) := by
  simp only [secretSettings, List.mem_cons, List.not_mem_nil, or_false] at hs
  obtain rfl | rfl | rfl := hs
  · refine applySetting_text hm rfl (by decide) (fun _ => rfl) (fun _ _ _ => rfl)
      fun c c' raw raw' hc hv => hc.assigned (fun hs => absurd (by decide) hs) ?_
    rw [assigned_get_same, assigned_get_same]
    exact hv.hasText
  all_goals
    exact applySetting_text hm rfl (by decide) (fun _ => rfl) (fun _ _ _ => rfl)
      fun c c' raw raw' hc _ => hc.assigned_of_ne (fun hs => absurd (by decide) hs) (by decide)

/-! ## Conclusions -/

/-- Whether a map has text for a connection setting is not hidden. -/
theorem touchesConnection_veiled (hm : m.SameButSecrets m') :
    touchesConnection m' = touchesConnection m := by
  have hpassword : Text.hasText ((textFor? m' .password).map Prod.snd) =
      Text.hasText ((textFor? m .password).map Prod.snd) := by
    have hsnd : ∀ m, (textFor? m .password).map Prod.snd = m.get? Secret.passwordKey := by
      intro m
      show ((m.get? Secret.passwordKey).map fun raw => (Secret.passwordKey, raw)).map Prod.snd = _
      rw [Option.map_map]
      exact Option.map_id'
    rw [hsnd, hsnd]
    exact Secret.hasText_of_rel (hm.get? Secret.passwordKey)
  unfold touchesConnection connectionSettings
  simp only [List.any_cons, List.any_nil]
  rw [hpassword, textFor?_unveiled hm (s := .driver) (by decide),
    textFor?_unveiled hm (s := .url) (by decide), textFor?_unveiled hm (s := .user) (by decide)]

section Conclusions

variable (hc : c.SameButSecrets c') (hm : m.SameButSecrets m')

include hc hm

theorem SameButSecrets.placeholdersWith : c'.placeholdersWith m' = c.placeholdersWith m := by
  unfold Config.placeholdersWith
  rw [hm.beyondSettings, hc.get .placeholders (by decide)]

theorem SameButSecrets.driverPropertiesWith :
    c'.driverPropertiesWith m' = c.driverPropertiesWith m := by
  unfold Config.driverPropertiesWith
  rw [hm.beyondSettings, hc.get .jdbcProperties (by decide)]

/-- Secrets are no names of a namespace. -/
theorem SameButSecrets.withNamespaces_get {s : Setting} (hs : s ∉ secretSettings) :
    (c'.withNamespaces m').get s = (c.withNamespaces m).get s := by
  by_cases hp : s = .placeholders
  · subst hp
    rw [withNamespaces_placeholders, withNamespaces_placeholders, hc.placeholdersWith hm]
  · by_cases hj : s = .jdbcProperties
    · subst hj
      rw [withNamespaces_driverProperties, withNamespaces_driverProperties,
        allows_congr hc.edition, hc.driverPropertiesWith hm, hc.get _ hs]
    · rw [withNamespaces_get_of_ne c' m' hp hj, withNamespaces_get_of_ne c m hp hj, hc.get s hs]

omit hm in
/-- A descriptor is derived from the same settings, but for the password. -/
theorem SameButSecrets.descriptorWith (p : PropertyMap) :
    (c'.descriptorWith p).map Descriptor.withoutPassword =
      (c.descriptorWith p).map Descriptor.withoutPassword := by
  unfold Config.descriptorWith
  rw [hc.get .driver (by decide), hc.get .url (by decide), hc.get .user (by decide), hc.loader]
  cases c.get .url with
  | none => rfl
  | some u =>
      unfold Descriptor.ofSettings?
      dsimp only
      cases Text.isBlankText u <;> rfl

omit hm in
theorem SameButSecrets.derivationLog (p : PropertyMap) :
    c'.derivationLog p = c.derivationLog p := by
  have hincomplete : Descriptor.isIncomplete (c'.get .driver) (c'.get .url) (c'.get .user)
      (c'.get .password) = Descriptor.isIncomplete (c.get .driver) (c.get .url) (c.get .user)
        (c.get .password) := by
    unfold Descriptor.isIncomplete
    rw [hc.get .driver (by decide), hc.get .url (by decide), hc.get .user (by decide), hc.password]
  have hshown := hc.descriptorWith p
  unfold Config.derivationLog Descriptor.derivationEvents
  rw [hincomplete]
  generalize c.descriptorWith p = d at hshown ⊢
  generalize c'.descriptorWith p = d' at hshown ⊢
  cases d with
  | none =>
      cases d' with
      | none => rfl
      | some d' => cases hshown
  | some d =>
      cases d' with
      | none => cases hshown
      | some d' =>
          have hsame : d'.withoutPassword = d.withoutPassword := Option.some.inj hshown
          show [Event.connectionDerived d'.withoutPassword.url] =
            [Event.connectionDerived d.withoutPassword.url]
          rw [hsame]

theorem SameButSecrets.conclusionLog : c'.conclusionLog m' = c.conclusionLog m := by
  unfold Config.conclusionLog
  rw [touchesConnection_veiled hm, hc.driverPropertiesWith hm, hc.derivationLog]

theorem SameButSecrets.concluded : (c.concluded m).SameButSecrets (c'.concluded m') where
  edition := by rw [(concluded_frame c' m').1, (concluded_frame c m).1, hc.edition]
  loader := by rw [(concluded_frame c' m').2, (concluded_frame c m).2, hc.loader]
  descriptor := by
    show Option.map _ (if touchesConnection m' then _ else _) =
      Option.map _ (if touchesConnection m then _ else _)
    rw [touchesConnection_veiled hm, hc.driverPropertiesWith hm]
    split
    · exact hc.descriptorWith _
    · exact hc.descriptor
  get s hs := by rw [concluded_get, concluded_get, hc.withNamespaces_get hm hs]
  password := by
    rw [concluded_get_applied c' m' (by decide), concluded_get_applied c m (by decide), hc.password]

end Conclusions

/-! ## Passes -/

/-- Two passes whose maps differ in secrets only do the same. -/
theorem apply_veiled (environment : Variables) (hm : m.SameButSecrets m') (root : String) :
    MirrorsUnseen environment (apply m root) (apply m' root) := by
  have hsettings : MirrorsUnseen environment (applySettings m Setting.applied)
      (applySettings m' Setting.applied) := by
    refine applySettings_mirrors (anyOutcome _) fun s _ => ?_
    by_cases hs : s ∈ secretSettings
    · exact applySetting_veiled hm hs
    · exact applySetting_unveiled hm hs
  exact apply_mirrors (anyOutcome _) (fun h es => h.withEnvironment_logged environment es) hsettings
    (fun _ _ hc => hc) (fun _ _ hc => hc.concluded hm) (fun _ _ hc => hc.conclusionLog hm)
    (hm.verdict root) (hm.verdictLog root)

/-! ## What is seen -/

theorem SameButSecrets.findings (hc : c.SameButSecrets c') : Findings.of c' = Findings.of c := by
  refine Findings.of_congr (fun s hs => hc.get s ?_) hc.password
  revert s
  decide

/-- Whether reading the connection warns does not depend on secrets. -/
theorem SameButSecrets.warnsOnRead (hc : c.SameButSecrets c') : c'.warnsOnRead = c.warnsOnRead := by
  have hnone : c'.descriptor.isNone = c.descriptor.isNone := by
    have hshown := congrArg Option.isNone hc.descriptor
    rwa [Option.isNone_map, Option.isNone_map] at hshown
  exact warnsOnRead_congr hnone (hc.get .driver (by decide)) (hc.get .user (by decide)) hc.password

/-- Maps that differ in secrets only are applied alike on one host. -/
theorem configure_veiled (hm : m.SameButSecrets m') (c : Config) (h : Host) :
    ∃ r c₁ c₁' h₁, (configure m).run ⟨c, h⟩ = (r, ⟨c₁, h₁⟩) ∧
      (configure m').run ⟨c, h⟩ = (r, ⟨c₁', h₁⟩) ∧ c₁.SameButSecrets c₁' := by
  have hhost : h.withEnvironment h.environment = h := rfl
  rcases hr : (configure m).run ⟨c, h⟩ with ⟨r, c₁, h₁⟩
  obtain ⟨c₁', hr', hc₁⟩ :=
    apply_veiled h.environment hm propertyRoot (.refl c) hr trivial
  -- the first pass, compared with itself, shows that it leaves the variables as they are
  obtain ⟨c₂, hagain, -⟩ :=
    apply_veiled h.environment (.refl m) propertyRoot (.refl c) hr trivial
  dsimp only at hr' hagain
  rw [hhost] at hr' hagain
  have hkept : h₁.withEnvironment h.environment = h₁ :=
    congrArg (fun x => x.2.host) (hagain.symm.trans hr)
  rw [hkept] at hr'
  exact ⟨r, c₁, c₁', h₁, rfl, hr', hc₁⟩

end Config

/-! ## Loads -/

namespace Loader

variable {m m' : PropertyMap} (environment : Variables)

theorem configured_veiled (hm : m.SameButSecrets m') (c : Config) (h : Host) :
    Config.Matches environment ((configured c (Config.configure m)).run h)
      ((configured c (Config.configure m')).run (h.withEnvironment environment)) := by
  rw [configured_run, configured_run]
  rcases hr : (Config.configure m).run ⟨c, h⟩ with ⟨r, c₁, h₁⟩
  obtain ⟨c₁', hr', hc₁⟩ := Config.apply_veiled environment hm propertyRoot (.refl c) hr trivial
  have hrun : (Config.configure m').run ⟨c, h.withEnvironment environment⟩ =
      (r, ⟨c₁', h₁.withEnvironment environment⟩) := hr'
  rw [hrun]
  cases r with
  | error e => exact ⟨.error e, rfl⟩
  | ok u => exact ⟨.ok hc₁, rfl⟩

/-- Two runs of a loader, the second one in a process with other variables, that cannot be
told apart but by the secrets of the configuration. -/
structure RunsAlike (environment : Variables) (r r' : (Except Error Config × Loader) × Host) :
    Prop where
  outcome : Config.SameOutcome r.1.1 r'.1.1
  loader : r'.1.2 = r.1.2
  host : r'.2 = r.2.withEnvironment environment

theorem make_veiled (hm : m.SameButSecrets m') (edition : Edition) (classes : ClassLoader)
    (l : Loader) (h : Host) :
    RunsAlike environment ((make edition classes m).run l h)
      ((make edition classes m').run l (h.withEnvironment environment)) := by
  obtain ⟨houtcome, hhost⟩ := configured_veiled environment hm (.new edition classes) h
  rw [make_run, make_run]
  rcases hr : (configured (.new edition classes) (Config.configure m)).run h with ⟨r, h₁⟩
  rcases hr' : (configured (.new edition classes) (Config.configure m')).run
    (h.withEnvironment environment) with ⟨r', h₁'⟩
  rw [hr, hr'] at houtcome hhost
  obtain rfl : h₁' = h₁.withEnvironment environment := hhost
  cases houtcome with
  | error e => exact ⟨.error e, rfl, rfl⟩
  | ok hc =>
      dsimp only
      rw [hc.findings]
      exact ⟨.ok hc, rfl, h₁.withEnvironment_logged environment _⟩

theorem load_veiled (l : Loader) (h : Host) {overrides overrides' : PropertyMap}
    (ho : overrides.SameButSecrets overrides') {given given' : Option Variables}
    (hg : SameVariablesButSecrets (given.getD h.environment) (given'.getD environment)) :
    RunsAlike environment ((load overrides given).run l h)
      ((load overrides' given').run l (h.withEnvironment environment)) := by
  have hsources : (l.sources h overrides given).SameButSecrets
      (l.sources (h.withEnvironment environment) overrides' given') :=
    sourcesOf_veiled l.settings h.home ho hg
  have hblind := (l.sources h overrides given).loadFiles_blind
    (h.logged (l.sources h overrides given).events) environment
  have hfiles : (l.sources (h.withEnvironment environment) overrides' given').loadFiles =
      (l.sources h overrides given).loadFiles := by
    rw [hsources.rest]
    rfl
  have hevents : (l.sources (h.withEnvironment environment) overrides' given').events =
      (l.sources h overrides given).events := by rw [hsources.rest]
  rw [load_run rfl, load_run rfl, hfiles, hevents, Host.withEnvironment_logged, hblind,
    hsources.recalling]
  rcases (l.sources h overrides given).loadFiles.run
    (h.logged (l.sources h overrides given).events) with ⟨r, h₁⟩
  cases r with
  | error e => exact ⟨.error e, rfl, rfl⟩
  | ok loaded =>
      dsimp only
      rw [classesOn_withEnvironment]
      exact make_veiled environment (hsources.merged loaded ho) ..

/-- No secret is told.  Two loads whose overrides and variables differ in the values of
secrets only return both or fail with the same error, the loader remembers the same, and the
same is left on the host and in its log.  Two maps that differ in this way are applied to a
configuration alike, with the same outcome; reading the connection afterwards and looking
at the whole yields the same, but for the password. -/
theorem secrets_untold :
    (∀ (l : Loader) (h : Host) (overrides overrides' : PropertyMap)
        (given given' : Option Variables) (environment : Variables),
      overrides.SameButSecrets overrides' →
      SameVariablesButSecrets (given.getD h.environment) (given'.getD environment) →
        RunsAlike environment ((load overrides given).run l h)
          ((load overrides' given').run l (h.withEnvironment environment))) ∧
    (∀ (c : Config) (h : Host) (m m' : PropertyMap), m.SameButSecrets m' →
        ∃ r c₁ c₁' h₁, (Config.configure m).run ⟨c, h⟩ = (r, ⟨c₁, h₁⟩) ∧
          (Config.configure m').run ⟨c, h⟩ = (r, ⟨c₁', h₁⟩) ∧
          (∃ d d' h₂, c₁.connection.run h₁ = (.ok d, h₂) ∧ c₁'.connection.run h₁ = (.ok d', h₂) ∧
            d'.map Descriptor.withoutPassword = d.map Descriptor.withoutPassword) ∧
          Findings.of c₁' = Findings.of c₁) := by
  refine ⟨fun l h _ _ _ _ environment ho hg => load_veiled environment l h ho hg,
    fun c h m m' hm => ?_⟩
  obtain ⟨r, c₁, c₁', h₁, hr, hr', hc⟩ := Config.configure_veiled hm c h
  refine ⟨r, c₁, c₁', h₁, hr, hr', ⟨c₁.descriptor, c₁'.descriptor, _, c₁.connection_run h₁, ?_,
    hc.descriptor⟩, hc.findings⟩
  rw [c₁'.connection_run h₁, hc.warnsOnRead]

/-- Two passwords in the environment: both loads return, with one log; and two maps that
are refused for the same unknown key. -/
theorem secrets_untold_password :
    let l : Loader := .new .standard none .community
    let h : Host := { Host.bare with home := Path.ofString "home" }
    let overrides : PropertyMap := .ofList [("flyway.url", "jdbc:x")]
    let map : String → PropertyMap := fun v =>
      .ofList [("flyway.password", v), ("flyway.passwd", "x")]
    (∃ c c' l₁ h₁ h₁',
      (load overrides (some [("FLYWAY_PASSWORD", "one")])).run l h = ((.ok c, l₁), h₁) ∧
      (load overrides (some [("FLYWAY_PASSWORD", "two")])).run l h = ((.ok c', l₁), h₁') ∧
      h₁'.log = h₁.log ∧ c.get .password = some "one" ∧ c'.get .password = some "two") ∧
    ∃ e t t', (Config.configure (map "one")).run ⟨.new .community ⟨0, none⟩, h⟩ = (.error e, t) ∧
      (Config.configure (map "two")).run ⟨.new .community ⟨0, none⟩, h⟩ = (.error e, t') ∧
      t'.host = t.host := by
  intro l h overrides map
  obtain ⟨hloads, hmaps⟩ := secrets_untold
  have hexchanged : Secret.Exchanged Secret.passwordKey "one" "two" := ⟨by decide, fun _ => rfl⟩
  have hname : "FLYWAY_PASSWORD" = Environment.variableOf Secret.passwordKey := by decide +kernel
  refine ⟨?_, ?_⟩
  · have hsources : ∀ v, l.sources h overrides (some [("FLYWAY_PASSWORD", v)]) =
        { given := .ofList [("flyway.password", v)]
          events := [.environmentRead 1]
          encoding := "utf-8"
          files := defaultFiles h.home
          areRequired := false } := by
      intro v
      obtain ⟨hspelled, hroot⟩ := Environment.spelled_secrets Secret.passwordKey (by decide)
      have hread : readEnvironment l.settings [("FLYWAY_PASSWORD", v)] =
          (.ofList [("flyway.password", v)], [.environmentRead 1]) := by
        show Environment.read true [("FLYWAY_PASSWORD", v)] = _
        unfold Environment.read
        rw [hname, List.filterMap_cons_some
          (Environment.entryOf_of_key? hroot (Environment.key?_variableOf hspelled) v)]
        rfl
      unfold sources sourcesOf
      rw [Option.getD_some, hread]
      rfl
    have hpassword : ∀ v ∈ ["one", "two"],
        ((load overrides (some [("FLYWAY_PASSWORD", v)])).run l h).1.1.toOption.map
          (fun c => c.get .password) = some (some v) := by
      intro v hv
      rw [load_run (hsources v)]
      revert v
      decide +kernel
    have hone := hpassword "one" (by simp)
    have htwo := hpassword "two" (by simp)
    obtain ⟨houtcome, hloader, hhost⟩ := hloads l h overrides overrides
      (some [("FLYWAY_PASSWORD", "one")]) (some [("FLYWAY_PASSWORD", "two")]) h.environment
      (.refl overrides) (.cons ⟨rfl, .inr ⟨_, hname, hexchanged⟩⟩ .nil)
    have hsame : h.withEnvironment h.environment = h := rfl
    rw [hsame] at houtcome hloader hhost
    rcases hr : (load overrides (some [("FLYWAY_PASSWORD", "one")])).run l h with ⟨⟨r, l₁⟩, h₁⟩
    rcases hr' : (load overrides (some [("FLYWAY_PASSWORD", "two")])).run l h
      with ⟨⟨r', l₁'⟩, h₁'⟩
    rw [hr] at hone
    rw [hr'] at htwo
    simp only [hr, hr'] at houtcome hloader hhost
    obtain rfl : l₁' = l₁ := hloader
    obtain rfl : h₁' = h₁.withEnvironment h.environment := hhost
    cases houtcome with
    | error e => cases hone
    | ok hc =>
        exact ⟨_, _, l₁', h₁, _, rfl, rfl, rfl, Option.some.inj hone, Option.some.inj htwo⟩
  · have hm : (map "one").SameButSecrets (map "two") :=
      .cons ⟨rfl, .inr hexchanged⟩ (.cons (.refl _) .nil)
    have hrefused :
        ((Config.configure (map "one")).run ⟨.new .community ⟨0, none⟩, h⟩).1.isOk = false := by
      decide +kernel
    obtain ⟨r, c₁, c₁', h₁, hr, hr', -⟩ := hmaps (.new .community ⟨0, none⟩) h _ _ hm
    rw [hr] at hrefused
    cases r with
    | ok u => cases hrefused
    | error e => exact ⟨e, _, _, hr, hr', rfl⟩

end Loader

end MigrationConfig
