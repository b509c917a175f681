/-
# The descriptor and the settings it stands for

The connection of a configuration is kept twice, as a descriptor and as the settings
that it can be derived from.  Nothing but writing over the URL, the user and the
password alone can bring the two apart: whatever else writes one of them derives the
other from it, or drops it.

A copy does write these three alone, at its end.  They come from a configuration in
which they agree with the descriptor that the copy began with, or from the
configuration itself, which has lost them by then.  So a copy is looked at as a whole:
the property lasts (`coherent_lasting`), but it is no invariant of single changes.
-/
import MigrationConfig.Proofs.Overwritten

namespace MigrationConfig

/-- The change writes the URL, the user and the password over and nothing else. -/
def Change.writesIdentity : Change → Bool
  | .identity .. => true
  | _ => false

namespace Config

/-- There is no descriptor, or none of the URL, the user and the password, or these
are those of the descriptor. -/
def Coherent (c : Config) : Prop :=
  c.descriptor = none ∨
    (c.get .url = none ∧ c.get .user = none ∧ c.get .password = none) ∨
      ∃ d, c.descriptor = some d ∧ c.get .url = some d.url ∧ c.get .user = d.user ∧
        c.get .password = d.password

variable {c c' : Config}

theorem Coherent.congr (hc : c.Coherent) (hdescriptor : c'.descriptor = c.descriptor)
    (hurl : c'.get .url = c.get .url) (huser : c'.get .user = c.get .user)
    (hpassword : c'.get .password = c.get .password) : c'.Coherent := by
  rw [Coherent, hdescriptor, hurl, huser, hpassword]
  exact hc

/-- So it is after the descriptor was derived from these three, whatever else it was
derived from. -/
theorem Coherent.derived (driver : Option String) (properties : PropertyMap)
    (loader : Option ClassLoader)
    (hd : c.descriptor = Descriptor.ofSettings? driver (c.get .url) (c.get .user)
      (c.get .password) properties loader) : c.Coherent := by
  cases hc : c.descriptor with
  | none => exact .inl hc
  | some d =>
      obtain ⟨hurl, -, huser, hpassword⟩ := Descriptor.ofSettings?_eq_some (hd.symm.trans hc)
      exact .inr (.inr ⟨d, hc, hurl, huser.symm, hpassword.symm⟩)

/-! ## Single changes -/

theorem Coherent.assigned (hc : c.Coherent) (s : Setting) (v : s.Value) :
    (c.assigned s v).Coherent := by
  by_cases hs : s ∈ connectionSettings
  · exact .inl (c.assigned_descriptor_of_mem hs v)
  · obtain ⟨hdescriptor, hget⟩ := c.assigned_of_not_mem hs v
    exact hc.congr hdescriptor (hget .url (by decide)) (hget .user (by decide))
      (hget .password (by decide))

/-- No other change than the writing of the three alone can bring the two apart. -/
theorem Coherent.changed {k : Change} (hk : k.writesIdentity = false) {h h' : Host}
    (hc : c.Coherent) (hr : (k.perform c).run h = (.ok c', h')) : c'.Coherent := by
  cases perform_cases hr with
  | assigned => exact hc.assigned _ _
  | described d =>
      exact .inr (.inl ⟨c.withDescriptor_url d, c.withDescriptor_user d,
        c.withDescriptor_password d⟩)
  | connected url user password =>
      refine .derived none (c.get .jdbcProperties) (some c.loader) ?_
      show Descriptor.ofSettings? _ _ _ _ _ _ = Descriptor.ofSettings? _
        ((c.withIdentity url user password).get .url) ((c.withIdentity url user password).get .user)
        ((c.withIdentity url user password).get .password) _ _
      rw [withIdentity_url, withIdentity_user, withIdentity_password]
  | derived p => exact .derived _ _ _ rfl
  | identified url user password => cases hk

/-! ## Copies -/

/-- What a copy has up to its end: the descriptor of the source, and no driver and none
of the three. -/
structure Begun (d : Option Descriptor) (c : Config) : Prop where
  descriptor : c.descriptor = d
  driver : c.get .driver = none
  url : c.get .url = none
  user : c.get .user = none
  password : c.get .password = none

variable {d : Option Descriptor}

theorem Begun.coherent (hc : c.Begun d) : c.Coherent :=
  .inr (.inl ⟨hc.url, hc.user, hc.password⟩)

theorem begun_withDescriptor (c : Config) (d : Option Descriptor) : (c.withDescriptor d).Begun d :=
  ⟨rfl, c.withDescriptor_driver d, c.withDescriptor_url d, c.withDescriptor_user d,
    c.withDescriptor_password d⟩

theorem Begun.copySettings (source : Source) :
    Procedure.Keeps (Begun d) (copySettings source copied) := by
  refine copySettings_keeps source fun s hs a => keeps_change (k := .assign s a) ?_
  intro c c' h h' hc hr
  obtain ⟨v, -, rfl⟩ := assign_ok hr
  obtain ⟨hdescriptor, hget⟩ := c.assigned_of_not_mem (mem_copied.1 hs) v
  exact ⟨hdescriptor.trans hc.descriptor, (hget .driver (by decide)).trans hc.driver,
    (hget .url (by decide)).trans hc.url, (hget .user (by decide)).trans hc.user,
    (hget .password (by decide)).trans hc.password⟩

/-- Where a copy ends, it is as begun, for it has failed, or the three are written over
with what the source has by then. -/
theorem copyFrom_ends (source : Source) (t : Situation) :
    ∃ t' : Situation, t'.config.Begun (source.of t.config).descriptor ∧
      (((copyFrom source).run t).2 = t' ∨
        ((copyFrom source).run t).2.config =
          t'.config.withIdentity ((source.of t'.config).get .url)
            ((source.of t'.config).get .user) ((source.of t'.config).get .password)) := by
  have hbegun := Begun.copySettings (d := (source.of t.config).descriptor) source
    ⟨t.config.withDescriptor (source.of t.config).descriptor, t.host⟩ (begun_withDescriptor ..)
  rw [copyFrom_run]
  rcases hr : (Config.copySettings source copied).run
      ⟨t.config.withDescriptor (source.of t.config).descriptor, t.host⟩ with ⟨r, t'⟩
  rw [hr] at hbegun
  refine ⟨t', hbegun, ?_⟩
  cases r with
  | ok u => exact .inr rfl
  | error e => exact .inl rfl

/-- What is written over in the end comes from where the descriptor came from. -/
theorem Coherent.copied (hc : c.Coherent) :
    Procedure.Keeps Coherent (copyFrom (.other c)) := by
  intro t _
  obtain ⟨t', hbegun, hend | hend⟩ := copyFrom_ends (.other c) t
  · rw [hend]
    exact hbegun.coherent
  · rw [hend]
    exact hc.congr hbegun.descriptor (withIdentity_url ..) (withIdentity_user ..)
      (withIdentity_password ..)

/-- A configuration that is copied into itself has lost the three when they are
written over. -/
theorem coherent_selfCopy : Procedure.Keeps Coherent (copyFrom .itself) := by
  intro t _
  obtain ⟨t', hbegun, hend | hend⟩ := copyFrom_ends .itself t
  · rw [hend]
    exact hbegun.coherent
  · rw [hend]
    exact .inr (.inl ⟨(withIdentity_url ..).trans hbegun.url,
      (withIdentity_user ..).trans hbegun.user,
      (withIdentity_password ..).trans hbegun.password⟩)

/-! ## Any number of changes -/

theorem coherent_lasting : Lasting (fun k => k.writesIdentity = false) Coherent := by
  have hchange : ∀ k : Change, k.writesIdentity = false →
      Procedure.Keeps Coherent (Procedure.change fun c => k.perform c) := by
    intro k hk
    exact keeps_change fun hc hr => hc.changed hk hr
  have hassign : KeptByAssignments Coherent := fun s a => hchange (.assign s a) rfl
  exact
    { initial := fun _ _ => .inl rfl
      change := hchange
      pass := hassign.apply fun p => hchange (.deriveConnection p) rfl
      copy := fun c hc => hc.copied
      selfCopy := coherent_selfCopy }

end Config

/-! ## Sessions -/

/-- In a session whose commands never write the URL, the user and the password over
alone, no configuration has a descriptor that disagrees with the three, unless they
are all gone, whatever was done and wherever it has failed. -/
theorem Session.ReachableBy.connection_coherent {s : Session}
    (hs : s.ReachableBy fun k => k.writesIdentity = false) {id : String} {c : Config}
    (hc : s.config? id = some c) : c.Coherent :=
  hs.holds Config.coherent_lasting id c hc

/-- A configuration that was copied into itself keeps the descriptor alone. -/
theorem Session.coherent_copied_into_itself :
    let s := ((((Session.new .bare).perform (.create "c" "community" none)).2.perform
      (.change "c" (.connectTo (some "jdbc:x") (some "u") none))).2.perform (.copy "c" "c")).2
    (s.ReachableBy fun k => k.writesIdentity = false) ∧ ∃ c, s.config? "c" = some c ∧
      c.descriptor.map Descriptor.url = some "jdbc:x" ∧ c.get .url = none ∧ c.Coherent := by
  intro s
  have hs : s.ReachableBy fun k => k.writesIdentity = false :=
    .perform _ trivial (.perform _ rfl (.perform _ trivial (.new _)))
  have hseen : (s.config? "c").map (fun c =>
      (c.descriptor.map Descriptor.url, c.get .url)) = some (some "jdbc:x", none) := by
    decide +kernel
  obtain ⟨c, hc, hlook⟩ := Option.map_eq_some_iff.1 hseen
  obtain ⟨hdescriptor, hurl⟩ := Prod.mk.inj hlook
  exact ⟨hs, c, hc, hdescriptor, hurl, hs.connection_coherent hc⟩

end MigrationConfig
