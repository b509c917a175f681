/-
# The conclusion of a pass

Once all settings have taken their outcomes, nothing in a pass can be refused
before its very end: the two namespaces are laid over what is held, the
connection is derived, and what is left of the map is reported.  The run of a
whole pass is put together here from its settings and its conclusion.
-/
import MigrationConfig.Proofs.Catalog
import MigrationConfig.Proofs.Pass

namespace MigrationConfig

/-! ## Deriving a descriptor -/

namespace Descriptor

/-- What is logged when a descriptor is derived. -/
def derivationEvents (driver url user password : Option String) : Option Descriptor → List Event
  | some d => [.connectionDerived d.url]
  | none => if isIncomplete driver url user password then [.incompleteConnection] else []

theorem derive_run (driver url user password : Option String) (properties : PropertyMap)
    (loader : Option ClassLoader) (h : Host) :
    (derive driver url user password properties loader).run h =
      (.ok (ofSettings? driver url user password properties loader),
        h.logged (derivationEvents driver url user password
          (ofSettings? driver url user password properties loader))) := by
  unfold derive
  cases ofSettings? driver url user password properties loader with
  | some d => rfl
  | none =>
      simp only [derivationEvents]
      cases isIncomplete driver url user password with
      | true => rfl
      | false =>
          rw [if_neg (by simp), if_neg (by simp), Host.logged_nil]
          rfl

/-- There is a descriptor exactly when the URL has text. -/
theorem ofSettings?_isSome (driver url user password : Option String) (properties : PropertyMap)
    (loader : Option ClassLoader) :
    (ofSettings? driver url user password properties loader).isSome = Text.hasText url := by
  cases url with
  | none => rfl
  | some u =>
      cases hu : Text.isBlankText u <;> simp [ofSettings?, Text.hasText, hu]

/-- A derived descriptor has the settings as they are, but for an empty driver. -/
theorem ofSettings?_eq_some {driver url user password : Option String}
    {properties : PropertyMap} {loader : Option ClassLoader} {d : Descriptor}
    (hd : ofSettings? driver url user password properties loader = some d) :
    url = some d.url ∧ d.driver = nonEmpty? driver ∧ d.user = user ∧ d.password = password := by
  cases url with
  | none => cases hd
  | some u =>
      unfold ofSettings? at hd
      simp only at hd
      split at hd
      · cases hd
      · cases hd
        exact ⟨rfl, rfl, rfl, rfl⟩

end Descriptor

namespace Config

/-! ## The parts of a conclusion -/

/-- The placeholders that a pass ends with. -/
def placeholdersWith (c : Config) (m : PropertyMap) : PropertyMap :=
  (Namespace.extract (beyondSettings m) placeholderRoot (c.get .placeholders)).1

/-- The properties that a pass hands to the driver, whether or not they are
kept. -/
def driverPropertiesWith (c : Config) (m : PropertyMap) : PropertyMap :=
  (Namespace.extract (Namespace.outside placeholderRoot (beyondSettings m)) driverPropertyRoot
    (c.get .jdbcProperties)).1

/-- The entries of a map that have no meaning. -/
def leftOver (m : PropertyMap) : PropertyMap :=
  Namespace.outside driverPropertyRoot (Namespace.outside placeholderRoot (beyondSettings m))

/-- The configuration with the namespaces of a map laid over its own. -/
def withNamespaces (c : Config) (m : PropertyMap) : Config :=
  if c.allows .jdbcProperties then
    (c.put .placeholders (c.placeholdersWith m)).put .jdbcProperties (c.driverPropertiesWith m)
  else c.put .placeholders (c.placeholdersWith m)

/-- The descriptor that the settings derive with some properties. -/
def descriptorWith (c : Config) (p : PropertyMap) : Option Descriptor :=
  Descriptor.ofSettings? (c.get .driver) (c.get .url) (c.get .user) (c.get .password) p
    (some c.loader)

/-- The configuration that a pass ends with, from the one that its settings have
left. -/
def concluded (c : Config) (m : PropertyMap) : Config :=
  { c.withNamespaces m with
    descriptor :=
      if touchesConnection m then c.descriptorWith (c.driverPropertiesWith m)
      else c.descriptor }

/-- Keys without a meaning under a root are reported. -/
def verdict (m : PropertyMap) (root : String) : Except Error Unit :=
  if (keysUnder root (leftOver m)).isEmpty then .ok ()
  else .error (.unrecognized (keysUnder root (leftOver m)))

/-- What is logged when the settings derive a descriptor with some properties. -/
def derivationLog (c : Config) (p : PropertyMap) : List Event :=
  Descriptor.derivationEvents (c.get .driver) (c.get .url) (c.get .user) (c.get .password)
    (c.descriptorWith p)

/-- What a pass logs of the connection, from the configuration that its settings
have left. -/
def conclusionLog (c : Config) (m : PropertyMap) : List Event :=
  if touchesConnection m then c.derivationLog (c.driverPropertiesWith m) else []

/-- A pass ends with the number of its properties, if all of them had a
meaning. -/
def verdictLog (m : PropertyMap) (root : String) : List Event :=
  if (keysUnder root (leftOver m)).isEmpty then
    [.propertiesApplied (m.size - (leftOver m).size)]
  else []

theorem withNamespaces_get_of_ne (c : Config) (m : PropertyMap) {s : Setting}
    (hp : s ≠ .placeholders) (hj : s ≠ .jdbcProperties) : (c.withNamespaces m).get s = c.get s := by
  unfold withNamespaces
  split
  · rw [get_put_of_ne _ _ hj.symm, get_put_of_ne _ _ hp.symm]
  · rw [get_put_of_ne _ _ hp.symm]

theorem withNamespaces_placeholders (c : Config) (m : PropertyMap) :
    (c.withNamespaces m).get .placeholders = c.placeholdersWith m := by
  unfold withNamespaces
  split
  · rw [get_put_of_ne _ _ (by decide), get_put_same]
  · rw [get_put_same]

theorem withNamespaces_driverProperties (c : Config) (m : PropertyMap) :
    (c.withNamespaces m).get .jdbcProperties =
      if c.allows .jdbcProperties then c.driverPropertiesWith m else c.get .jdbcProperties := by
  unfold withNamespaces
  split
  · rw [get_put_same]
  · rw [get_put_of_ne _ _ (by decide)]

/-- A conclusion leaves the edition and the loader as they are. -/
theorem concluded_frame (c : Config) (m : PropertyMap) :
    (c.concluded m).edition = c.edition ∧ (c.concluded m).loader = c.loader := by
  unfold concluded withNamespaces
  split <;> exact ⟨rfl, rfl⟩

@[simp] theorem concluded_get (c : Config) (m : PropertyMap) (s : Setting) :
    (c.concluded m).get s = (c.withNamespaces m).get s := rfl

/-- A conclusion leaves the settings alone that the pass has dealt with. -/
theorem concluded_get_applied (c : Config) (m : PropertyMap) {s : Setting}
    (hs : s ∈ Setting.applied) : (c.concluded m).get s = c.get s := by
  have hp : s ≠ .placeholders := by rintro rfl; exact absurd hs (by decide)
  have hj : s ≠ .jdbcProperties := by rintro rfl; exact absurd hs (by decide)
  rw [concluded_get, withNamespaces_get_of_ne _ _ hp hj]

theorem touchesConnection_congr {m m' : PropertyMap} (hm : ∀ s, textFor? m' s = textFor? m s) :
    touchesConnection m' = touchesConnection m := by
  simp only [touchesConnection, hm]

/-! ## Namespaces and settings do not meet -/

theorem isSettingKey_false_of_name {root key : String}
    (hroot : ∀ s ∈ Setting.applied, ∀ k ∈ s.key?, Namespace.beginsWith root k = false)
    (hb : Namespace.beginsWith root key = true) : isSettingKey key = false := by
  rw [isSettingKey, List.any_eq_false]
  intro s hs hk
  have hk' : key ∈ s.key? := eq_of_beq hk
  rw [hroot s hs key hk'] at hb
  cases hb

theorem beginsWith_append (root n : String) : Namespace.beginsWith root (root ++ n) = true :=
  Namespace.beginsWith_iff.2 ⟨n, rfl⟩

theorem isSettingKey_placeholder (n : String) : isSettingKey (placeholderRoot ++ n) = false :=
  isSettingKey_false_of_name (fun s hs k hk => (Setting.roots_of_keys s hs k hk).2.1)
    (beginsWith_append _ _)

theorem isSettingKey_driverProperty (n : String) :
    isSettingKey (driverPropertyRoot ++ n) = false :=
  isSettingKey_false_of_name (fun s hs k hk => (Setting.roots_of_keys s hs k hk).2.2)
    (beginsWith_append _ _)

theorem get?_beyondSettings (m : PropertyMap) (k : String) :
    (beyondSettings m).get? k = if isSettingKey k then none else m.get? k := by
  rw [beyondSettings, PropertyMap.get?_filter m (fun k => !isSettingKey k)]
  cases isSettingKey k <;> rfl

/-- The two namespaces have no key in common. -/
theorem name?_placeholder_of_driver (n : String) :
    Namespace.name? placeholderRoot (driverPropertyRoot ++ n) = none := by
  rw [Namespace.name?, String.toList_append]
  rfl

/-- A placeholder has the value that the map has for it, or else the one it
had. -/
theorem get?_placeholdersWith (c : Config) (m : PropertyMap) (n : String) :
    (c.placeholdersWith m).get? n =
      (if n = "" then none else m.get? (placeholderRoot ++ n)).or
        ((c.get .placeholders).get? n) := by
  rw [placeholdersWith, Namespace.get?_extract, get?_beyondSettings, isSettingKey_placeholder]
  rfl

/-- A property for the driver has the value that the map has for it, or else the
one it had. -/
theorem get?_driverPropertiesWith (c : Config) (m : PropertyMap) (n : String) :
    (c.driverPropertiesWith m).get? n =
      (if n = "" then none else m.get? (driverPropertyRoot ++ n)).or
        ((c.get .jdbcProperties).get? n) := by
  rw [driverPropertiesWith, Namespace.get?_extract, Namespace.get?_outside,
    name?_placeholder_of_driver, get?_beyondSettings, isSettingKey_driverProperty]
  rfl

/-- A key has a meaning if it is the one of a setting or lies in a namespace. -/
def isKnownKey (k : String) : Bool :=
  isSettingKey k || (Namespace.name? placeholderRoot k).isSome ||
    (Namespace.name? driverPropertyRoot k).isSome

theorem get?_leftOver (m : PropertyMap) (k : String) :
    (leftOver m).get? k = if isKnownKey k then none else m.get? k := by
  rw [leftOver, Namespace.get?_outside, Namespace.get?_outside, get?_beyondSettings, isKnownKey]
  cases isSettingKey k <;> cases Namespace.name? placeholderRoot k <;>
    cases Namespace.name? driverPropertyRoot k <;> rfl

/-- A pass ends well when all keys under its root have a meaning. -/
theorem verdict_eq_ok {m : PropertyMap} {root : String}
    (hm : ∀ k ∈ m.keys, Namespace.beginsWith root k = true → isKnownKey k = true) :
    verdict m root = .ok () := by
  have hnil : keysUnder root (leftOver m) = [] := by
    rw [keysUnder, List.filter_eq_nil_iff]
    intro k hk hb
    rw [PropertyMap.mem_keys, get?_leftOver] at hk
    split at hk
    · cases hk
    · next hunknown => exact hunknown (hm k (PropertyMap.mem_keys.2 hk) hb)
  rw [verdict, hnil]
  rfl

/-! ## The run of a pass -/

section Run

variable {m : PropertyMap} {t : Situation} {c : Config} {h : Host}

/-- A namespace takes any map. -/
theorem assign_placeholders_run (c : Config) (p : PropertyMap) (h : Host) :
    (c.assign .placeholders p).run h = (.ok (c.put .placeholders p), h) :=
  assign_run_pure rfl rfl (by decide)

theorem assign_jdbcProperties_run (hc : c.allows .jdbcProperties = true)
    (p : PropertyMap) (h : Host) :
    (c.assign .jdbcProperties p).run h = (.ok (c.put .jdbcProperties p), h) :=
  assign_run_pure hc rfl (by decide)

theorem apply_error (root : String) {e : Error} {t' : Situation}
    (hr : (applySettings m Setting.applied).run t = (.error e, t')) :
    (apply m root).run t = (.error e, t') :=
  Procedure.run_bind_error hr

theorem deriveConnection_run (c : Config) (p : Option PropertyMap) (h : Host) :
    (c.deriveConnection p).run h =
      (.ok { c with descriptor := c.descriptorWith (p.getD (c.get .jdbcProperties)) },
        h.logged (c.derivationLog (p.getD (c.get .jdbcProperties)))) :=
  HostM.run_bind_ok (Descriptor.derive_run ..)

/-- The end of a pass, from the deriving of the connection. -/
def conclude (m : PropertyMap) (root : String) (driverProperties : PropertyMap) :
    Procedure Unit := do
  if touchesConnection m then
    Procedure.change fun c => c.deriveConnection (some driverProperties)
  let unknown := keysUnder root (leftOver m)
  if !unknown.isEmpty then throw (.unrecognized unknown)
  Procedure.log (.propertiesApplied (m.size - (leftOver m).size))

theorem conclude_run (m : PropertyMap) (root : String) (p : PropertyMap) (c : Config) (h : Host) :
    (conclude m root p).run ⟨c, h⟩ =
      (verdict m root,
        ⟨{ c with descriptor := if touchesConnection m then c.descriptorWith p else c.descriptor },
          h.logged ((if touchesConnection m then c.derivationLog p else []) ++ verdictLog m root)⟩)
      := by
  -- the end of a pass is the same with and without a connection to derive
  have report : ∀ t : Situation, (do
      if !(keysUnder root (leftOver m)).isEmpty then
        throw (.unrecognized (keysUnder root (leftOver m)))
      Procedure.log (.propertiesApplied (m.size - (leftOver m).size)) : Procedure Unit).run t =
        (verdict m root, ⟨t.config, t.host.logged (verdictLog m root)⟩) := by
    intro t
    unfold verdict verdictLog
    cases (keysUnder root (leftOver m)).isEmpty with
    | true => rfl
    | false =>
        rw [if_neg Bool.false_ne_true, if_neg Bool.false_ne_true, Host.logged_nil]
        rfl
  unfold conclude
  cases touchesConnection m with
  | false => exact report ⟨c, h⟩
  | true =>
      rw [if_pos rfl, if_pos rfl, if_pos rfl, ← Host.logged_logged]
      exact (Procedure.run_bind_ok (Procedure.run_change_ok (deriveConnection_run c (some p) h))).trans
        (report ⟨{ c with descriptor := c.descriptorWith p }, h.logged (c.derivationLog p)⟩)

/-- After its settings, a pass ends with its conclusion. -/
theorem apply_ok (root : String) (hr : (applySettings m Setting.applied).run t = (.ok (), ⟨c, h⟩)) :
    (apply m root).run t =
      (verdict m root, ⟨c.concluded m, h.logged (c.conclusionLog m ++ verdictLog m root)⟩) := by
  have hrun : (apply m root).run t =
      (if c.allows .jdbcProperties then
        (do
          Procedure.change fun c' => c'.assign .jdbcProperties (c.driverPropertiesWith m)
          conclude m root (c.driverPropertiesWith m))
      else conclude m root (c.driverPropertiesWith m)).run
        ⟨c.put .placeholders (c.placeholdersWith m), h⟩ := by
    unfold apply
    rw [Procedure.run_bind_ok hr, Procedure.run_bind_ok (Procedure.run_config _)]
    simp only [Namespace.extract]
    rw [Procedure.run_bind_ok (Procedure.run_change_ok (assign_placeholders_run c _ h)),
      Procedure.run_bind_ok (Procedure.run_config _),
      Procedure.run_bind_ok (Procedure.run_config _)]
    rfl
  rw [hrun]
  unfold concluded withNamespaces
  cases hc : c.allows .jdbcProperties with
  | false => exact conclude_run m root _ (c.put .placeholders (c.placeholdersWith m)) h
  | true =>
      have hc' : (c.put .placeholders (c.placeholdersWith m)).allows .jdbcProperties = true := hc
      refine Eq.trans ?_ (conclude_run m root (c.driverPropertiesWith m)
        ((c.put .placeholders (c.placeholdersWith m)).put .jdbcProperties
          (c.driverPropertiesWith m)) h)
      exact Procedure.run_bind_ok
        (Procedure.run_change_ok (assign_jdbcProperties_run hc' (c.driverPropertiesWith m) h))

/-- The run of a pass: that of its settings, and the conclusion if none of them
was refused. -/
theorem apply_run (m : PropertyMap) (root : String) (t : Situation) :
    (apply m root).run t =
      match (applySettings m Setting.applied).run t with
      | (.ok _, ⟨c, h⟩) =>
          (verdict m root, ⟨c.concluded m, h.logged (c.conclusionLog m ++ verdictLog m root)⟩)
      | (.error e, t') => (.error e, t') := by
  rcases hr : (applySettings m Setting.applied).run t with ⟨r, t'⟩
  cases r with
  | ok u => exact apply_ok root hr
  | error e => exact apply_error root hr

end Run

end Config

end MigrationConfig
