/-
# What a single change can do

Whatever is done with a configuration is made of single changes, and there are only
five things that one of them can do (`perform_cases`): a setting takes a value that
its own check has let through, a descriptor takes the place of the connection
settings, these settings are given together with the descriptor they derive, the
descriptor is derived anew, or three of them are written over.

A property of configurations is carried from one state to the next by looking at
these five; no proof has to run a change again.
-/
import MigrationConfig.Proofs.Conclusion

namespace MigrationConfig

/-- The change gives a setting an argument. -/
def Change.isAssignment : Change → Bool
  | .assign .. | .target _ => true
  | _ => false

theorem Setting.kind_eq_connectionText {s : Setting} :
    s.kind = .connectionText ↔ s ∈ Config.connectionSettings := by
  cases s <;> decide

namespace Config

variable {c c' : Config} {h h' : Host}

/-! ## Assignments -/

/-- What a setting takes its check has let through, and the edition has it. -/
theorem accept_of_takes {s : Setting} {a : s.Argument} {v : s.Value}
    (hv : c.takes h s a = .ok v) :
    c.allows s = true ∧ ((s.kind.accept s.name c.loader a).run h).1 = .ok v := by
  rw [takes, assign_run_steps] at hv
  cases hr : c.require s with
  | error e =>
      rw [hr] at hv
      cases hv
  | ok u =>
      rw [hr] at hv
      refine ⟨require_eq_ok.1 hr, ?_⟩
      rcases ha : (s.kind.accept s.name c.loader a).run h with ⟨r, h'⟩
      rw [ha] at hv
      cases r with
      | error e => cases hv
      | ok w =>
          dsimp only at hv
          cases hc : h'.closing (c.get .dryRunOutput) ((c.put s w).get .dryRunOutput) with
          | error e =>
              rw [hc] at hv
              cases hv
          | ok u =>
              rw [hc] at hv
              have hw : Except.ok ((c.assigned s w).get s) = .ok v := hv
              rw [← hw, assigned_get_same]

theorem assign_ok {s : Setting} {a : s.Argument} (hr : (c.assign s a).run h = (.ok c', h')) :
    ∃ v, c.takes h s a = .ok v ∧ c' = c.assigned s v := by
  obtain ⟨h'', hrun, -⟩ := c.assign_run s a h
  rw [hr] at hrun
  cases ht : c.takes h s a with
  | error e =>
      rw [ht] at hrun
      cases hrun
  | ok v =>
      rw [ht] at hrun
      cases hrun
      exact ⟨v, rfl, rfl⟩

/-- An assignment drops the descriptor if that is derived from the setting. -/
theorem assigned_descriptor_of_mem (c : Config) {s : Setting} (hs : s ∈ connectionSettings)
    (v : s.Value) : (c.assigned s v).descriptor = none := by
  rw [assigned_descriptor, Setting.kind_eq_connectionText.2 hs]
  rfl

/-- An assignment elsewhere leaves the descriptor and what it is derived from. -/
theorem assigned_of_not_mem (c : Config) {s : Setting} (hs : s ∉ connectionSettings)
    (v : s.Value) :
    (c.assigned s v).descriptor = c.descriptor ∧
      ∀ u ∈ connectionSettings, (c.assigned s v).get u = c.get u := by
  have hkind : (s.kind == .connectionText) = false :=
    beq_eq_false_iff_ne.2 fun h => hs (Setting.kind_eq_connectionText.1 h)
  refine ⟨by rw [assigned_descriptor, hkind]; rfl, fun u hu => ?_⟩
  exact assigned_get_of_ne c v fun h => hs (h ▸ hu)

/-! ## The connection settings -/

section Connection

variable (c : Config) (url user password : Option String)

@[simp] theorem withIdentity_url : (c.withIdentity url user password).get .url = url := by
  unfold withIdentity
  rw [get_put_of_ne _ _ (by decide), get_put_of_ne _ _ (by decide), get_put_same]

@[simp] theorem withIdentity_user : (c.withIdentity url user password).get .user = user := by
  unfold withIdentity
  rw [get_put_of_ne _ _ (by decide), get_put_same]

@[simp] theorem withIdentity_password :
    (c.withIdentity url user password).get .password = password := by
  unfold withIdentity
  rw [get_put_same]

theorem withIdentity_get_of_ne {s : Setting} (hurl : s ≠ .url) (huser : s ≠ .user)
    (hpassword : s ≠ .password) : (c.withIdentity url user password).get s = c.get s := by
  unfold withIdentity
  rw [get_put_of_ne _ _ hpassword.symm, get_put_of_ne _ _ huser.symm, get_put_of_ne _ _ hurl.symm]

@[simp] theorem withIdentity_driver :
    (c.withIdentity url user password).get .driver = c.get .driver :=
  c.withIdentity_get_of_ne url user password (by decide) (by decide) (by decide)

theorem withIdentity_get_of_not_mem {s : Setting} (hs : s ∉ connectionSettings) :
    (c.withIdentity url user password).get s = c.get s := by
  refine c.withIdentity_get_of_ne url user password ?_ ?_ ?_ <;>
    (rintro rfl; exact hs (by decide))

variable (d : Option Descriptor)

@[simp] theorem withDescriptor_driver : (c.withDescriptor d).get .driver = none := by
  show ((c.put .driver none).withIdentity none none none).get .driver = none
  rw [withIdentity_driver, get_put_same]

@[simp] theorem withDescriptor_url : (c.withDescriptor d).get .url = none :=
  (c.put .driver none).withIdentity_url none none none

@[simp] theorem withDescriptor_user : (c.withDescriptor d).get .user = none :=
  (c.put .driver none).withIdentity_user none none none

@[simp] theorem withDescriptor_password : (c.withDescriptor d).get .password = none :=
  (c.put .driver none).withIdentity_password none none none

/-- A descriptor takes the place of the connection settings only. -/
theorem withDescriptor_get_of_ne {s : Setting} (hs : s ∉ connectionSettings) :
    (c.withDescriptor d).get s = c.get s := by
  have hdriver : Setting.driver ≠ s := by
    rintro rfl
    exact hs (by decide)
  show ((c.put .driver none).withIdentity none none none).get s = c.get s
  rw [withIdentity_get_of_not_mem _ _ _ _ hs, get_put_of_ne _ _ hdriver]

/-- The configuration with these three and the descriptor they derive. -/
def connected : Config :=
  { c.withIdentity url user password with
    descriptor := Descriptor.ofSettings? none url user password (c.get .jdbcProperties)
      (some c.loader) }

theorem connectTo_run (h : Host) :
    (c.connectTo url user password).run h =
      (.ok (c.connected url user password),
        h.logged (Descriptor.derivationEvents none url user password
          (c.connected url user password).descriptor)) :=
  HostM.run_bind_ok (Descriptor.derive_run ..)

end Connection

/-! ## All changes -/

/-- What a change comes to when it succeeds. -/
inductive ComesTo (c : Config) (h : Host) : Change → Config → Prop where
  | assigned {k : Change} {s : Setting} {a : s.Argument} {v : s.Value} :
      k.isAssignment = true → c.takes h s a = .ok v → ComesTo c h k (c.assigned s v)
  | described (d : Option Descriptor) : ComesTo c h (.descriptor d) (c.withDescriptor d)
  | connected (url user password : Option String) :
      ComesTo c h (.connectTo url user password) (c.connected url user password)
  | derived (p : Option PropertyMap) :
      ComesTo c h (.deriveConnection p)
        { c with descriptor := c.descriptorWith (p.getD (c.get .jdbcProperties)) }
  | identified (url user password : Option String) :
      ComesTo c h (.identity url user password) (c.withIdentity url user password)

theorem perform_cases {k : Change} (hr : (k.perform c).run h = (.ok c', h')) :
    ComesTo c h k c' := by
  cases k with
  | assign s a =>
      obtain ⟨v, hv, rfl⟩ := assign_ok hr
      exact .assigned rfl hv
  | target v =>
      obtain ⟨w, hw, rfl⟩ := assign_ok hr
      exact .assigned rfl hw
  | descriptor d =>
      cases hr
      exact .described d
  | connectTo url user password =>
      have hrun : ((Change.connectTo url user password).perform c).run h = _ :=
        c.connectTo_run url user password h
      rw [hr] at hrun
      cases hrun
      exact .connected url user password
  | deriveConnection p =>
      have hrun : ((Change.deriveConnection p).perform c).run h = _ := c.deriveConnection_run p h
      rw [hr] at hrun
      cases hrun
      exact .derived p
  | identity url user password =>
      cases hr
      exact .identified url user password

/-- Only assignments can fail. -/
theorem perform_error {k : Change} {e : Error} (hr : (k.perform c).run h = (.error e, h')) :
    k.isAssignment = true := by
  cases k with
  | assign s a => rfl
  | target v => rfl
  | descriptor d => cases hr
  | connectTo url user password =>
      have hrun : ((Change.connectTo url user password).perform c).run h = _ :=
        c.connectTo_run url user password h
      rw [hr] at hrun
      cases hrun
  | deriveConnection p =>
      have hrun : ((Change.deriveConnection p).perform c).run h = _ := c.deriveConnection_run p h
      rw [hr] at hrun
      cases hrun
  | identity url user password => cases hr

end Config

end MigrationConfig
