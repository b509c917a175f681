/-
# Where a descriptor comes from

A descriptor is handed in, or derived, and there are two ways of deriving one.  Both
`deriveConnection` and a pass derive it from all four connection settings, but
`connectTo` from the URL, the user and the password that it is given, while the
driver of the configuration stays.

No configuration remembers which it was, so the origin of the descriptor is kept
beside it (`Connected`).  The driver of a derived descriptor is the one that the
configuration has after the first way, and none at all after the second: whoever
assigns another driver drops the descriptor with it.
-/
import MigrationConfig.Proofs.Change
import MigrationConfig.Proofs.Invariant

namespace MigrationConfig

namespace Config

/-- Where the descriptor of a configuration comes from. -/
inductive Origin where
  /-- handed in -/
  | supplied
  /-- derived from a URL, a user and a password that were given together -/
  | address
  /-- derived from the connection settings -/
  | settings
  deriving DecidableEq

/-- What is done with a configuration by itself. -/
inductive Step where
  | change (k : Change)
  | pass (m : PropertyMap) (root : String)

def Step.procedure : Step → Procedure Unit
  | change k => Procedure.change fun c => k.perform c
  | pass m root => apply m root

/-- A pass comes as far as to derive the connection. -/
def derives (m : PropertyMap) (t : Situation) : Bool :=
  ((applySettings m Setting.applied).run t).1.isOk && touchesConnection m

/-- The origin after a change. -/
def Origin.changed (o : Origin) : Change → Origin
  | .descriptor _ => supplied
  | .connectTo .. => address
  | .deriveConnection _ => settings
  | .assign .. | .target _ | .identity .. => o

/-- The origin after a step in a situation. -/
def Origin.after (o : Origin) (t : Situation) : Step → Origin
  | .change k => o.changed k
  | .pass m _ => if derives m t then settings else o

/-- The configurations that steps lead to, each on any host, with the origin of their
descriptor.  A new one has no descriptor, so that its origin says nothing. -/
inductive Connected : Config → Origin → Prop where
  | new (edition : Edition) (loader : ClassLoader) : Connected (.new edition loader) .settings
  | step {c : Config} {o : Origin} (s : Step) (h : Host) : Connected c o →
      Connected (s.procedure.run ⟨c, h⟩).2.config (o.after ⟨c, h⟩ s)

/-- What the origin of a descriptor says of its driver. -/
def Origin.Fits (o : Origin) (c : Config) : Prop :=
  ∀ d, c.descriptor = some d →
    match o with
    | supplied => True
    | address => d.driver = none
    | settings => d.driver = Descriptor.nonEmpty? (c.get .driver)

variable {c c' : Config} {o : Origin}

namespace Origin

theorem fits_of_none (hc : c.descriptor = none) : o.Fits c := by
  intro d hd
  rw [hc] at hd
  cases hd

theorem fits_supplied : supplied.Fits c := fun _ _ => trivial

theorem Fits.congr (hc : o.Fits c) (hdescriptor : c'.descriptor = c.descriptor)
    (hdriver : c'.get .driver = c.get .driver) : o.Fits c' := by
  intro d hd
  rw [hdriver]
  exact hc d (hdescriptor.symm.trans hd)

theorem fits_settings {properties : PropertyMap}
    (hc : c.descriptor = c.descriptorWith properties) : settings.Fits c := by
  intro d hd
  exact (Descriptor.ofSettings?_eq_some (hc.symm.trans hd)).2.1

theorem fits_connected (c : Config) (url user password : Option String) :
    address.Fits (c.connected url user password) := by
  intro d hd
  exact (Descriptor.ofSettings?_eq_some hd).2.1

/-! ## Changes -/

theorem Fits.assigned (hc : o.Fits c) (s : Setting) (v : s.Value) : o.Fits (c.assigned s v) := by
  by_cases hs : s ∈ connectionSettings
  · exact fits_of_none (c.assigned_descriptor_of_mem hs v)
  · obtain ⟨hdescriptor, hget⟩ := c.assigned_of_not_mem hs v
    exact hc.congr hdescriptor (hget .driver (by decide))

theorem changed_of_isAssignment {k : Change} (hk : k.isAssignment = true) : o.changed k = o := by
  cases k with
  | assign s a => rfl
  | target v => rfl
  | _ => cases hk

theorem Fits.changed (hc : o.Fits c) {k : Change} {h h' : Host}
    (hr : (k.perform c).run h = (.ok c', h')) : (o.changed k).Fits c' := by
  cases perform_cases hr with
  | assigned hk hv =>
      rw [changed_of_isAssignment hk]
      exact hc.assigned _ _
  | described d => exact fits_supplied
  | connected url user password => exact fits_connected c url user password
  | derived p => exact fits_settings rfl
  | identified url user password => exact hc.congr rfl (withIdentity_driver ..)

/-! ## Passes -/

theorem Fits.keptByAssignments : KeptByAssignments o.Fits := by
  intro s a
  exact keeps_change (k := .assign s a) fun hc hr => hc.changed hr

/-- The conclusion of a pass derives the connection from the settings, or leaves it. -/
theorem Fits.concluded (hc : o.Fits c) (m : PropertyMap) :
    (if touchesConnection m then settings else o).Fits (c.concluded m) := by
  have hdriver : (c.concluded m).get .driver = c.get .driver :=
    concluded_get_applied c m (by decide)
  cases hm : touchesConnection m with
  | false =>
      refine hc.congr ?_ hdriver
      rw [Config.concluded, hm]
      rfl
  | true =>
      intro d hd
      rw [Config.concluded, hm] at hd
      rw [if_pos rfl, hdriver]
      exact (Descriptor.ofSettings?_eq_some hd).2.1

theorem Fits.passed (hc : o.Fits c) (m : PropertyMap) (root : String) (h : Host) :
    (o.after ⟨c, h⟩ (.pass m root)).Fits ((apply m root).run ⟨c, h⟩).2.config := by
  have hsettings := Fits.keptByAssignments.applySettings m Setting.applied ⟨c, h⟩ hc
  rw [apply_run, after, derives]
  rcases hr : (applySettings m Setting.applied).run ⟨c, h⟩ with ⟨r, t⟩
  rw [hr] at hsettings
  cases r with
  | ok u => exact hsettings.concluded m
  | error e => exact hsettings

/-! ## Any number of steps -/

theorem Fits.step (hc : o.Fits c) (s : Step) (h : Host) :
    (o.after ⟨c, h⟩ s).Fits (s.procedure.run ⟨c, h⟩).2.config := by
  cases s with
  | change k =>
      show (o.changed k).Fits ((Procedure.change fun c => k.perform c).run ⟨c, h⟩).2.config
      rw [Procedure.run_change]
      rcases hr : (k.perform c).run h with ⟨r, h'⟩
      cases r with
      | ok c' => exact hc.changed hr
      | error e =>
          rw [changed_of_isAssignment (perform_error hr)]
          exact hc
  | pass m root => exact hc.passed m root h

end Origin

theorem Connected.fits (hc : Connected c o) : o.Fits c := by
  induction hc with
  | new edition loader => exact Origin.fits_of_none rfl
  | step s h _ ih => exact ih.step s h

/-- A derived descriptor has the driver of its configuration just when it was derived
from the settings, or there is no such driver. -/
theorem Connected.driver_agrees_iff (hc : Connected c o) (ho : o ≠ .supplied) {d : Descriptor}
    (hd : c.descriptor = some d) :
    d.driver = Descriptor.nonEmpty? (c.get .driver) ↔
      o = .settings ∨ Descriptor.nonEmpty? (c.get .driver) = none := by
  have hfits := hc.fits d hd
  cases o with
  | supplied => exact absurd rfl ho
  | settings => exact ⟨fun _ => .inl rfl, fun _ => hfits⟩
  | address =>
      have hdriver : d.driver = none := hfits
      rw [hdriver]
      constructor
      · exact fun h => .inr h.symm
      · rintro (h | h)
        · cases h
        · exact h.symm

/-- Deriving the connection anew brings the driver in. -/
theorem driver_agrees_derived :
    let c₁ := (((Step.change (.assign .driver (some "d"))).procedure).run
      ⟨.new .community ⟨0, none⟩, .bare⟩).2.config
    let c₂ := (((Step.change (.connectTo (some "jdbc:x") none none)).procedure).run
      ⟨c₁, .bare⟩).2.config
    let c := (((Step.change (.deriveConnection none)).procedure).run ⟨c₂, .bare⟩).2.config
    Connected c .settings ∧ ∃ d, c.descriptor = some d ∧ c.get .driver = some "d" ∧
      d.driver = Descriptor.nonEmpty? (c.get .driver) := by
  intro c₁ c₂ c
  have hc : Connected c .settings :=
    .step _ .bare (.step _ .bare (.step _ .bare (.new .community ⟨0, none⟩)))
  have hseen : c.descriptor.isSome = true ∧ c.get .driver = some "d" := by
    decide +kernel
  obtain ⟨d, hd⟩ := Option.isSome_iff_exists.1 hseen.1
  exact ⟨hc, d, hd, hseen.2, (hc.driver_agrees_iff (by decide) hd).2 (.inl rfl)⟩

/-- The driver that was assigned does not get into the descriptor of an address. -/
theorem connected_driver_lost :
    let c₁ := (((Step.change (.assign .driver (some "d"))).procedure).run
      ⟨.new .community ⟨0, none⟩, .bare⟩).2.config
    let c := (((Step.change (.connectTo (some "jdbc:x") none none)).procedure).run
      ⟨c₁, .bare⟩).2.config
    Connected c .address ∧ ∃ d, c.descriptor = some d ∧ c.get .driver = some "d" ∧
      d.driver = none ∧ d.driver ≠ Descriptor.nonEmpty? (c.get .driver) := by
  intro c₁ c
  have hc : Connected c .address := .step _ .bare (.step _ .bare (.new .community ⟨0, none⟩))
  have hseen : c.descriptor.map Descriptor.driver = some none ∧ c.get .driver = some "d" := by
    decide +kernel
  obtain ⟨d, hd, hdriver⟩ := Option.map_eq_some_iff.1 hseen.1
  refine ⟨hc, d, hd, hseen.2, hdriver, ?_⟩
  rw [hdriver, hseen.2]
  decide

end Config

end MigrationConfig
