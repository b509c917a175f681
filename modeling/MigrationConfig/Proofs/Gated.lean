/-
# Features that an edition does not have

A setting that needs a feature can be reached in three ways: an argument is
assigned to it, a pass lays the properties for the driver over those that are
there, a copy takes its value over from a configuration of a higher edition.  In
the end each of them is a single change, and a change does not touch a setting
whose feature the edition lacks (`perform_frame`).  So the values of these
settings are initial, and stay so for good.
-/
import MigrationConfig.Proofs.Change
import MigrationConfig.Proofs.Invariant

namespace MigrationConfig

/-! ## The settings that need a feature -/

/-- The settings that only higher editions have. -/
def Setting.gated : List Setting := [.cherryPick, .dryRunOutput, .stream, .batch,
  .undoSqlMigrationPrefix, .outputQueryResults, .skipExecutingMigrations, .errorOverrides,
  .jdbcProperties, .licenseKey, .oracleSqlplus, .oracleSqlplusWarn, .oracleKerberosConfigFile,
  .oracleKerberosCacheFile, .vaultUrl, .vaultToken, .vaultSecrets]

/-- What shows one of these settings; the dry-run output shows in two ways. -/
def Accessor.gated : List Accessor := .outputPath :: Setting.gated.map .setting

/-- These are the settings with a feature, no more and no less. -/
theorem Setting.mem_gated {s : Setting} : s ∈ gated ↔ s.feature?.isSome := by
  cases s <;> decide

/-- No feature is missing from the table, or listed under another name. -/
theorem Gate.community_allows : ∀ s ∈ Setting.gated, ∀ f ∈ s.feature?,
    (standard .community).allows f = false := by
  decide

namespace Config

theorem allows_gated {c : Config} (he : c.edition = .community) {s : Setting}
    (hs : s ∈ Setting.gated) : c.allows s = false := by
  obtain ⟨f, hf⟩ := Option.isSome_iff_exists.1 (Setting.mem_gated.1 hs)
  simp only [allows, hf, he]
  exact Gate.community_allows s hs f hf

/-! ## One change -/

theorem ne_of_allows {c : Config} {s t : Setting} (hs : c.allows s = false)
    (ht : c.allows t = true) : t ≠ s := by
  rintro rfl
  rw [hs] at ht
  cases ht

/-- No edition is without the connection settings. -/
theorem not_mem_connectionSettings {c : Config} {s : Setting} (hs : c.allows s = false) :
    s ∉ connectionSettings := by
  intro hmem
  have hfeature : ∀ t ∈ connectionSettings, t.feature? = none := by decide
  rw [allows, hfeature s hmem] at hs
  cases hs

/-- A change keeps the edition, and all settings that the edition does not have. -/
theorem perform_frame (k : Change) {c c' : Config} {h h' : Host}
    (hr : (k.perform c).run h = (.ok c', h')) :
    c'.edition = c.edition ∧ ∀ t, c.allows t = false → c'.get t = c.get t := by
  cases perform_cases hr with
  | @assigned _ s a v _ hv =>
      have hallows := (accept_of_takes hv).1
      exact ⟨assigned_edition c s v, fun t ht => assigned_get_of_ne c v (ne_of_allows ht hallows)⟩
  | described d =>
      exact ⟨rfl, fun t ht => c.withDescriptor_get_of_ne d (not_mem_connectionSettings ht)⟩
  | connected url user password | identified url user password =>
      exact ⟨rfl, fun t ht =>
        c.withIdentity_get_of_not_mem url user password (not_mem_connectionSettings ht)⟩
  | derived p => exact ⟨rfl, fun _ _ => rfl⟩

/-! ## Any number of changes -/

/-- Settings that the edition does not have are as in a new configuration. -/
def LacksUnset (c : Config) : Prop := ∀ s, c.allows s = false → c.get s = s.initial

theorem lacksUnset_invariant : Invariant LacksUnset where
  initial _ _ _ _ := rfl
  preserved k c c' h h' hc hr := by
    obtain ⟨hedition, hget⟩ := perform_frame k hr
    intro s hs
    rw [allows_congr hedition] at hs
    rw [hget s hs]
    exact hc s hs

/-- Of the lowest edition, nothing that is gated can be told from a new
configuration. -/
theorem LacksUnset.read {c : Config} (hc : c.LacksUnset) (he : c.edition = .community)
    {a : Accessor} (ha : a ∈ Accessor.gated) (l : ClassLoader) (h : Host) :
    c.read h a = (new .community l).read h a := by
  have hget : ∀ s ∈ Setting.gated, c.get s = (new .community l).get s := by
    intro s hs
    exact hc s (allows_gated he hs)
  rcases List.mem_cons.1 ha with rfl | hmap
  · simp only [Config.read, outputPath, hget .dryRunOutput (by decide)]
  · obtain ⟨s, hs, rfl⟩ := List.mem_map.1 hmap
    simp only [Config.read, hget s hs]

end Config

/-! ## Sessions -/

/-- In a session, whatever has been done, no configuration of the lowest edition shows
anything but initial values where it is gated. -/
theorem Session.Reachable.gated_initial {s : Session} (hs : s.Reachable) {id : String}
    {c : Config} (hc : s.config? id = some c) (he : c.edition = .community) :
    ∀ a ∈ Accessor.gated, ∀ (l : ClassLoader) (h : Host),
      c.read h a = (Config.new .community l).read h a := by
  intro a ha l h
  exact (hs.holds Config.lacksUnset_invariant id c hc).read he ha l h

/-- A configuration that is copied from one of a higher edition, after it has been
refused a feature that the other one has. -/
theorem Session.gated_initial_copied :
    let s₁ := (((Session.new .bare).perform (.create "e" "enterprise" none)).2.perform
      (.change "e" (.assign .stream true))).2
    let s₂ := ((s₁.perform (.change "e" (.assign .table "t"))).2.perform
      (.create "c" "community" none)).2
    let s := ((s₂.perform (.configure "c" (.ofList [("flyway.stream", "true")])
      propertyRoot)).2.perform (.copy "c" "e")).2
    s.Reachable ∧ ∃ e c, s.config? "e" = some e ∧ e.get .stream = true ∧
      s.config? "c" = some c ∧ c.edition = .community ∧ c.get .table = "t" ∧
        ∀ a ∈ Accessor.gated, ∀ (l : ClassLoader) (h : Host),
          c.read h a = (Config.new .community l).read h a := by
  intro s₁ s₂ s
  have hs : s.Reachable :=
    .perform _ (.perform _ (.perform _ (.perform _ (.perform _ (.perform _ (.new _))))))
  have hseen : (s.config? "e").map (fun e => (e.get .stream : Bool)) = some true ∧
      (s.config? "c").map (fun c => (c.edition, (c.get .table : String))) =
        some (.community, "t") := by
    decide +kernel
  obtain ⟨e, he, hstream⟩ := Option.map_eq_some_iff.1 hseen.1
  obtain ⟨c, hc, hlook⟩ := Option.map_eq_some_iff.1 hseen.2
  obtain ⟨hedition, htable⟩ := Prod.mk.inj hlook
  exact ⟨hs, e, c, he, hstream, hc, hedition, htable, hs.gated_initial hc hedition⟩

end MigrationConfig
