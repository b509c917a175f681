/-
# The same load in a higher edition

A higher edition allows all that a lower one allows, so what a loader accepts in the
lower edition it accepts in the higher one, by the same steps on the host and with the
same values: through all settings the second configuration is the first one with
another edition.

Only the end of a pass tells the two apart.  The properties for the driver are handed
to the connection in any case, but are kept only where the edition has them; so the
lowest edition does not keep them, and all else agrees, the connection included.
-/
import Mathlib.Tactic.ByContra
import MigrationConfig.Proofs.Loading
import MigrationConfig.Proofs.Lockstep

namespace MigrationConfig

/-! ## Editions -/

/-- A higher edition has all features of a lower one. -/
theorem Gate.allows_of_le {e e' : Edition} {feature : String} (hle : e.tier ≤ e'.tier)
    (hf : (standard e).allows feature = true) : (standard e').allows feature = true := by
  have hrequired : ((standard e).required feature).tier ≤ e.tier := of_decide_eq_true hf
  exact decide_eq_true (Nat.le_trans hrequired hle)

namespace Config

/-- The configuration in another edition. -/
def inEdition (c : Config) (e : Edition) : Config := { c with edition := e }

@[simp] theorem inEdition_get (c : Config) (e : Edition) (s : Setting) :
    (c.inEdition e).get s = c.get s := rfl

theorem inEdition_assigned (c : Config) (e : Edition) (s : Setting) (v : s.Value) :
    (c.inEdition e).assigned s v = (c.assigned s v).inEdition e := by
  unfold assigned
  split <;> rfl

theorem inEdition_require {c : Config} {e : Edition} {s : Setting}
    (hle : c.edition.tier ≤ e.tier) (hs : c.require s = .ok ()) :
    (c.inEdition e).require s = .ok () := by
  rw [require_eq_ok, allows] at hs ⊢
  cases hf : s.feature? with
  | none => rfl
  | some f =>
      rw [hf] at hs
      exact Gate.allows_of_le hle hs

/-- Every edition but the lowest keeps the properties for the driver. -/
theorem allows_jdbcProperties {c : Config} (he : c.edition ≠ .community) :
    c.allows .jdbcProperties = true := by
  unfold allows
  cases hc : c.edition with
  | community => exact absurd hc he
  | teams | enterprise => rfl

/-! ## Passes -/

/-- The outcome that is compared: a higher edition does not refuse what the lower one
does. -/
def Succeeded (r : Except Error Unit) : Prop := r = .ok ()

theorem succeeded_ok : Succeeded (.ok ()) := rfl

/-- The second configuration is the first one, of edition `e₁`, in an edition `e₂` that is
not lower. -/
structure RaisedTo (e₁ e₂ : Edition) (c c' : Config) : Prop where
  edition : c.edition = e₁
  le : e₁.tier ≤ e₂.tier
  eq : c' = c.inEdition e₂

/-- Configurations of two editions agree but for what only the higher one keeps. -/
structure AgreesIn (e₁ e₂ : Edition) (c c' : Config) : Prop where
  edition : c.edition = e₁
  edition' : c'.edition = e₂
  loader : c'.loader = c.loader
  descriptor : c'.descriptor = c.descriptor
  get : ∀ s, s ≠ .jdbcProperties → c'.get s = c.get s
  driverProperties : e₁ ≠ .community → c'.get .jdbcProperties = c.get .jdbcProperties

variable {e₁ e₂ : Edition} {c c' : Config}

theorem RaisedTo.agrees (hc : RaisedTo e₁ e₂ c c') : AgreesIn e₁ e₂ c c' := by
  obtain ⟨hedition, -, rfl⟩ := hc
  exact ⟨hedition, rfl, rfl, rfl, fun _ _ => rfl, fun _ => rfl⟩

/-- An argument that is accepted is accepted in a higher edition. -/
theorem assign_inEdition {s : Setting} {a : s.Argument} {c₁ : Config} {h h₁ : Host}
    (hle : c.edition.tier ≤ e₂.tier) (hr : (c.assign s a).run h = (.ok c₁, h₁)) :
    ((c.inEdition e₂).assign s a).run h = (.ok (c₁.inEdition e₂), h₁) ∧
      c₁.edition = c.edition := by
  rw [assign_run_steps] at hr ⊢
  cases hrequire : c.require s with
  | error err =>
      rw [hrequire] at hr
      cases hr
  | ok u =>
      rw [hrequire] at hr
      rw [inEdition_require hle hrequire]
      rcases ha : (s.kind.accept s.name c.loader a).run h with ⟨r, h'⟩
      have ha' : (s.kind.accept s.name (c.inEdition e₂).loader a).run h = (r, h') := ha
      rw [ha] at hr
      cases r with
      | error err => cases hr
      | ok v =>
          dsimp only at hr
          cases hclosing : h'.closing (c.get .dryRunOutput) ((c.put s v).get .dryRunOutput) with
          | error err =>
              rw [hclosing] at hr
              cases hr
          | ok u =>
              rw [hclosing] at hr
              cases hr
              have hclosing' : h'.closing ((c.inEdition e₂).get .dryRunOutput)
                  (((c.inEdition e₂).put s v).get .dryRunOutput) = .ok u := hclosing
              dsimp only
              rw [ha']
              dsimp only
              rw [hclosing', inEdition_assigned]
              exact ⟨rfl, assigned_edition c s v⟩

/-- A setting that takes its text takes it in a higher edition. -/
theorem applySetting_raised (m : PropertyMap) (s : Setting) :
    Procedure.Mirrors Succeeded id (RaisedTo e₁ e₂) (RaisedTo e₁ e₂)
      (applySetting m s) (applySetting m s) := by
  refine applySetting_mirrors rfl fun a => ?_
  rintro c c' h r c₁ h₁ ⟨hedition, hle, rfl⟩ hr rfl
  rcases hassign : (c.assign s a).run h with ⟨q, h₂⟩
  cases q with
  | error err => cases (Procedure.run_change_error hassign).symm.trans hr
  | ok c₂ =>
      cases (Procedure.run_change_ok hassign).symm.trans hr
      obtain ⟨hassign', hkept⟩ := assign_inEdition (hedition ▸ hle) hassign
      exact ⟨_, Procedure.run_change_ok hassign', hkept.trans hedition, hle, rfl⟩

/-- The conclusion of a pass depends on the edition in one place only. -/
theorem RaisedTo.concluded (hc : RaisedTo e₁ e₂ c c') (m : PropertyMap) :
    AgreesIn e₁ e₂ (c.concluded m) (c'.concluded m) := by
  obtain ⟨hedition, hle, rfl⟩ := hc
  have hframe := concluded_frame c m
  have hframe' := concluded_frame (c.inEdition e₂) m
  refine ⟨hframe.1.trans hedition, hframe'.1, hframe'.2.trans hframe.2.symm, rfl,
    fun s hs => ?_, fun he => ?_⟩
  · rw [concluded_get, concluded_get]
    by_cases hp : s = .placeholders
    · subst hp
      rw [withNamespaces_placeholders, withNamespaces_placeholders]
      rfl
    · rw [withNamespaces_get_of_ne _ _ hp hs, withNamespaces_get_of_ne _ _ hp hs]
      rfl
  · have hallows := allows_jdbcProperties (hedition ▸ he : c.edition ≠ .community)
    have hraised : (c.inEdition e₂).allows .jdbcProperties = true :=
      require_eq_ok.1 (inEdition_require (hedition ▸ hle) (require_eq_ok.2 hallows))
    rw [concluded_get, concluded_get, withNamespaces_driverProperties,
      withNamespaces_driverProperties, hallows, hraised]
    rfl

/-- A pass that is accepted is accepted in a higher edition. -/
theorem apply_raised (m : PropertyMap) (root : String) :
    Procedure.Mirrors Succeeded id (RaisedTo e₁ e₂) (AgreesIn e₁ e₂)
      (apply m root) (apply m root) := by
  have hsettings : Procedure.Mirrors Succeeded id (RaisedTo e₁ e₂) (RaisedTo e₁ e₂)
      (applySettings m Setting.applied) (applySettings m Setting.applied) :=
    applySettings_mirrors succeeded_ok fun s _ => applySetting_raised m s
  refine apply_mirrors succeeded_ok (fun _ _ => rfl) hsettings (fun _ _ hc => hc.agrees)
    (fun _ _ hc => hc.concluded m) (fun c c' hc => ?_) rfl rfl
  obtain ⟨-, -, rfl⟩ := hc
  rfl

/-! ## What is seen -/

/-- No accessor but two tells the configurations apart. -/
theorem AgreesIn.read (hc : AgreesIn e₁ e₂ c c') (h : Host) {a : Accessor} (he : a ≠ .edition)
    (hj : a ≠ .setting .jdbcProperties) : c'.read h a = c.read h a := by
  cases a with
  | edition => exact absurd rfl he
  | descriptor => simp only [Config.read, hc.descriptor]
  | outputPath => simp only [Config.read, outputPath, hc.get .dryRunOutput (by decide)]
  | setting s => simp only [Config.read, hc.get s fun hs => hj (hs ▸ rfl)]

theorem AgreesIn.connection (hc : AgreesIn e₁ e₂ c c') (h : Host) :
    c'.connection.run h = c.connection.run h := by
  have hwarns : c'.warnsOnRead = c.warnsOnRead :=
    warnsOnRead_congr (by rw [hc.descriptor]) (hc.get .driver (by decide))
      (hc.get .user (by decide)) (by rw [hc.get .password (by decide)])
  rw [connection_run, connection_run, hwarns, hc.descriptor]

theorem AgreesIn.findings (hc : AgreesIn e₁ e₂ c c') : Findings.of c' = Findings.of c := by
  refine Findings.of_congr (fun s hs => hc.get s ?_) ?_
  · rintro rfl
    exact absurd hs (by decide)
  · rw [hc.get .password (by decide)]

end Config

/-! ## Loaders -/

namespace Loader

/-- A new configuration that takes its properties takes them in a higher edition. -/
theorem configured_raised {e₁ e₂ : Edition} (hle : e₁.tier ≤ e₂.tier) {classes : ClassLoader}
    {m : PropertyMap} {h h₁ : Host} {c : Config}
    (hr : (configured (.new e₁ classes) (Config.configure m)).run h = (.ok c, h₁)) :
    ∃ c', (configured (.new e₂ classes) (Config.configure m)).run h = (.ok c', h₁) ∧
      Config.AgreesIn e₁ e₂ c c' := by
  rw [configured_run] at hr
  rcases hp : (Config.configure m).run ⟨.new e₁ classes, h⟩ with ⟨r, t⟩
  rw [hp] at hr
  cases r with
  | error err => cases hr
  | ok u =>
      cases hr
      have hnew : Config.RaisedTo e₁ e₂ (.new e₁ classes) (.new e₂ classes) := ⟨rfl, hle, rfl⟩
      obtain ⟨c', hp', hc⟩ := Config.apply_raised m propertyRoot hnew hp Config.succeeded_ok
      refine ⟨c', ?_, hc⟩
      have hrun : (Config.configure m).run ⟨.new e₂ classes, h⟩ = (.ok (), ⟨c', t.host⟩) := hp'
      rw [configured_run, hrun]
      rfl

/-- The loader in another edition. -/
def inEdition (l : Loader) (e : Edition) : Loader := { l with edition := e }

/-- What a loader loads in one edition it loads in a higher one, by the same steps.  The
two configurations cannot be told apart but by the edition and, if the lower edition is
the lowest, by the properties for the driver. -/
theorem load_upgrade {l l₁ : Loader} {h h₁ : Host} {overrides : PropertyMap}
    {environment : Option Variables} {c : Config} {e : Edition} (hle : l.edition.tier ≤ e.tier)
    (hr : (load overrides environment).run l h = ((.ok c, l₁), h₁)) :
    ∃ c', (load overrides environment).run (l.inEdition e) h =
        ((.ok c', l₁.inEdition e), h₁) ∧
      c'.edition = e ∧ c'.loader = c.loader ∧
      (∀ a, a ≠ .edition → a ≠ .setting .jdbcProperties → c'.read h₁ a = c.read h₁ a) ∧
      (∀ h₂, c'.connection.run h₂ = c.connection.run h₂) ∧
      (c'.get .jdbcProperties ≠ c.get .jdbcProperties → l.edition = .community) := by
  have hsources : (l.inEdition e).sources h overrides environment =
      l.sources h overrides environment := rfl
  rw [load_run rfl] at hr
  rw [load_run hsources]
  rcases hf : (l.sources h overrides environment).loadFiles.run
    (h.logged (l.sources h overrides environment).events) with ⟨r, h₂⟩
  rw [hf] at hr
  cases r with
  | error err => cases hr
  | ok loaded =>
      rcases hm : (configured (.new l.edition (l.classesOn h₂).1)
        (Config.configure ((l.sources h overrides environment).merged loaded overrides))).run
          (l.classesOn h₂).2 with ⟨q, h₃⟩
      cases q with
      | error err => cases (make_run_error hm).symm.trans hr
      | ok c₁ =>
          cases (make_run_ok hm).symm.trans hr
          obtain ⟨c', hm', hc⟩ := configured_raised hle hm
          refine ⟨c', ?_, hc.edition', hc.loader, fun a he hj => hc.read _ he hj,
            fun h₂ => hc.connection h₂, fun hne => ?_⟩
          · rw [← hc.findings]
            exact make_run_ok hm'
          · by_contra he
            exact hne (hc.driverProperties he)

/-- A property for the driver is part of the connection in both editions, and is kept in
the higher one only. -/
theorem load_upgrade_community :
    let l : Loader := .new .standard none .community
    let h : Host := { Host.bare with home := Path.ofString "home" }
    let overrides : PropertyMap :=
      .ofList [("flyway.url", "jdbc:x"), ("flyway.jdbcProperties.ssl", "on")]
    ∃ c c' l₁ h₁, (load overrides (some [])).run l h = ((.ok c, l₁), h₁) ∧
      (load overrides (some [])).run (l.inEdition .enterprise) h =
        ((.ok c', l₁.inEdition .enterprise), h₁) ∧
      c'.read h₁ .descriptor = c.read h₁ .descriptor ∧
      c.descriptor.map (fun d => d.properties.entries) = some [("ssl", "on")] ∧
      (c.get .jdbcProperties : PropertyMap).entries = [] ∧
      (c'.get .jdbcProperties : PropertyMap).entries = [("ssl", "on")] := by
  intro l h overrides
  have hseen : ((load overrides (some [])).run l h).1.1.toOption.map (fun c =>
      (c.descriptor.map fun d => d.properties.entries,
        (c.get .jdbcProperties : PropertyMap).entries)) = some (some [("ssl", "on")], []) := by
    decide +kernel
  have hseen' : ((load overrides (some [])).run (l.inEdition .enterprise) h).1.1.toOption.map
      (fun c => (c.get .jdbcProperties : PropertyMap).entries) = some [("ssl", "on")] := by
    decide +kernel
  rcases hr : (load overrides (some [])).run l h with ⟨⟨r, l₁⟩, h₁⟩
  rw [hr] at hseen
  cases r with
  | error e => cases hseen
  | ok c =>
      obtain ⟨c', hr', -, -, hread, -⟩ := load_upgrade (e := .enterprise) (by decide) hr
      rw [hr'] at hseen'
      obtain ⟨hproperties, hkept⟩ := Prod.mk.inj (Option.some.inj hseen)
      exact ⟨c, c', l₁, h₁, rfl, hr', hread .descriptor (by decide) (by decide), hproperties,
        hkept, Option.some.inj hseen'⟩

end Loader

end MigrationConfig
