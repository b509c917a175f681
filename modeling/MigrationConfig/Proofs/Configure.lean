/-
# What a pass leaves behind

The laws of a pass as a caller sees them, whether it ends well or not.

The first law is about the settings.  A refusal is felt in one place only: the
settings before it have what their own texts made of them, the refused one and
all that come after keep what they had, and so do the two namespaces.

The second law is about the connection.  A pass that names a connection setting
ends with the descriptor of its settings, with one exception: a pass whose texts
for them are all blank drops the descriptor and does not derive it again, although
the URL that was there before still stands.
-/
import MigrationConfig.Proofs.Change

namespace MigrationConfig.Config

/-! ## The settings -/

/-- The map has a text for a setting that it cannot be given. -/
def refuses (c : Config) (h : Host) (m : PropertyMap) (s : Setting) : Bool :=
  match c.outcome h m s with
  | .ok _ => false
  | .error _ => true

/-- The first setting that a pass cannot be given the text of. -/
def firstRefused (c : Config) (h : Host) (m : PropertyMap) : Option Setting :=
  Setting.applied.find? (c.refuses h m)

/-- The settings before another one, in the order of a pass. -/
def appliedBefore (f : Setting) : List Setting := Setting.applied.takeWhile fun s => s != f

section Values

variable {c : Config} {h : Host} {m : PropertyMap}

theorem refuses_eq_false {s : Setting} :
    c.refuses h m s = false ↔ ∃ v, c.outcome h m s = .ok v := by
  unfold refuses
  cases c.outcome h m s with
  | ok v => simp
  | error e => simp

theorem refuses_eq_true {s : Setting} :
    c.refuses h m s = true ↔ ∃ e, c.outcome h m s = .error e := by
  unfold refuses
  cases c.outcome h m s with
  | ok v => simp
  | error e => simp

theorem firstRefused_eq_none :
    c.firstRefused h m = none ↔ ∀ s ∈ Setting.applied, ∃ v, c.outcome h m s = .ok v := by
  simp only [firstRefused, List.find?_eq_none, Bool.not_eq_true, refuses_eq_false]

theorem appliedBefore_eq {f : Setting} {before after : List Setting}
    (hs : Setting.applied = before ++ f :: after) : appliedBefore f = before := by
  have hf : f ∉ before := by
    have hnd := Setting.nodup_applied
    rw [hs, List.nodup_middle, List.nodup_cons] at hnd
    exact fun hb => hnd.1 (List.mem_append_left _ hb)
  rw [appliedBefore, hs, List.takeWhile_append_of_pos]
  · simp
  · intro s hb
    have hne : s ≠ f := fun hc => hf (hc ▸ hb)
    simpa using hne

/-- The settings of a pass end with a refusal, with the outcomes before it in place. -/
theorem applySettings_refused {f : Setting} (hf : c.firstRefused h m = some f) :
    ∃ e t, (applySettings m Setting.applied).run ⟨c, h⟩ = (.error e, t) ∧
      c.outcome h m f = .error e ∧ c.TookOutcomes h m (appliedBefore f) t.config := by
  obtain ⟨hrf, before, after, hs, hb⟩ := List.find?_eq_some_iff_append.1 hf
  obtain ⟨e, he⟩ := refuses_eq_true.1 hrf
  have hb' : ∀ s ∈ before, ∃ v, c.outcome h m s = .ok v := by
    intro s hm
    exact refuses_eq_false.1 (by simpa using hb s hm)
  have hnd := Setting.nodup_applied
  rw [hs] at hnd
  obtain ⟨c', h', hr, ht, -⟩ := applySettings_error hnd hb' he
  rw [← hs] at hr
  refine ⟨e, ⟨c', h'⟩, hr, he, ?_⟩
  rw [appliedBefore_eq hs]
  exact ht

/-- A pass with a refusal ends there, with the outcomes before it in place. -/
theorem apply_refused (root : String) {f : Setting} (hf : c.firstRefused h m = some f) :
    ∃ e t, (apply m root).run ⟨c, h⟩ = (.error e, t) ∧ c.outcome h m f = .error e ∧
      c.TookOutcomes h m (appliedBefore f) t.config := by
  obtain ⟨e, t, hr, he, ht⟩ := applySettings_refused hf
  exact ⟨e, t, apply_error root hr, he, ht⟩

/-- A pass without a refusal reaches its conclusion with all outcomes in
place. -/
theorem apply_accepted (root : String) (hf : c.firstRefused h m = none) :
    ∃ c' h', (apply m root).run ⟨c, h⟩ = (verdict m root, ⟨c'.concluded m, h'⟩) ∧
      c.TookOutcomes h m Setting.applied c' ∧ h'.modules = h.modules := by
  obtain ⟨c', h', hr, ht, hk⟩ :=
    applySettings_ok m Setting.nodup_applied (firstRefused_eq_none.1 hf)
  exact ⟨c', _, apply_ok root hr, ht, hk.modules⟩

/-- What a map says of a name under a root; the bare root has no name. -/
def named? (m : PropertyMap) (root n : String) : Option String :=
  if n = "" then none else m.get? (root ++ n)

theorem TookOutcomes.placeholders {c' : Config} (ht : c.TookOutcomes h m Setting.applied c')
    (n : String) :
    PropertyMap.get? ((c'.concluded m).get .placeholders) n =
      (named? m placeholderRoot n).or (PropertyMap.get? (c.get .placeholders) n) := by
  rw [concluded_get, withNamespaces_placeholders, get?_placeholdersWith,
    ht.kept .placeholders (by decide)]
  rfl

theorem TookOutcomes.driverProperties {c' : Config} (ht : c.TookOutcomes h m Setting.applied c')
    (n : String) :
    (c'.driverPropertiesWith m).get? n =
      (named? m driverPropertyRoot n).or (PropertyMap.get? (c.get .jdbcProperties) n) := by
  rw [get?_driverPropertiesWith, ht.kept .jdbcProperties (by decide)]
  rfl

theorem TookOutcomes.jdbcProperties {c' : Config} (ht : c.TookOutcomes h m Setting.applied c') :
    (c'.concluded m).get .jdbcProperties =
      if c.allows .jdbcProperties then c'.driverPropertiesWith m else c.get .jdbcProperties := by
  rw [concluded_get, withNamespaces_driverProperties, allows_congr ht.edition,
    ht.kept .jdbcProperties (by decide)]

/-- A setting that the map has no text for has the value it had. -/
theorem TookOutcomes.unchanged {ss : List Setting} {c' : Config} (ht : c.TookOutcomes h m ss c')
    {s : Setting} (hs : s ∉ ss ∨ textFor? m s = none) : c'.get s = c.get s := by
  by_cases hm : s ∈ ss
  · have htook := ht.took s hm
    rw [outcome_absent (hs.resolve_left (not_not_intro hm))] at htook
    exact (Except.ok.inj htook).symm
  · exact ht.kept s hm

end Values

/-- What a pass leaves of every setting, whether it returns or fails.

If there is a first setting that is refused, the pass fails with its error; the
settings before it that the map has texts for have their outcomes, and all
others, the refused one included, are as they were.

Without a refusal the settings that the map has texts for all have their
outcomes, the names that the map has under the two namespaces are laid over the
ones that were there — those for the driver if the edition has them — and all
other settings are as they were. -/
theorem apply_values (c : Config) (h : Host) (m : PropertyMap) (root : String) :
    match c.firstRefused h m, (apply m root).run ⟨c, h⟩ with
    | some f, (r, t) =>
        (textFor? m f).isSome ∧ (∃ e, c.outcome h m f = .error e ∧ r = .error e) ∧
          (∀ s ∈ appliedBefore f, (textFor? m s).isSome → c.outcome h m s = .ok (t.config.get s)) ∧
          (∀ s, s ∉ appliedBefore f ∨ textFor? m s = none → t.config.get s = c.get s) ∧
          t.config.edition = c.edition ∧ t.config.loader = c.loader
    | none, (r, t) =>
        r = verdict m root ∧
          (∀ s ∈ Setting.applied, (textFor? m s).isSome →
            c.outcome h m s = .ok (t.config.get s)) ∧
          (∀ n, PropertyMap.get? (t.config.get .placeholders) n =
            (named? m placeholderRoot n).or (PropertyMap.get? (c.get .placeholders) n)) ∧
          (c.allows .jdbcProperties = true → ∀ n,
            PropertyMap.get? (t.config.get .jdbcProperties) n =
              (named? m driverPropertyRoot n).or (PropertyMap.get? (c.get .jdbcProperties) n)) ∧
          (c.allows .jdbcProperties = false →
            t.config.get .jdbcProperties = c.get .jdbcProperties) ∧
          (∀ s, s ≠ .placeholders → s ≠ .jdbcProperties → textFor? m s = none →
            t.config.get s = c.get s) ∧
          t.config.edition = c.edition ∧ t.config.loader = c.loader := by
  cases hf : c.firstRefused h m with
  | some f =>
      obtain ⟨e, t, hr, he, ht⟩ := apply_refused root hf
      rw [hr]
      refine ⟨?_, ⟨e, he, rfl⟩, fun s hs _ => ht.took s hs, fun s hs => ht.unchanged hs,
        ht.edition, ht.loader⟩
      rw [Option.isSome_iff_ne_none]
      intro hn
      rw [outcome_absent hn] at he
      cases he
  | none =>
      obtain ⟨c', h', hr, ht, -⟩ := apply_accepted root hf
      rw [hr]
      refine ⟨rfl, fun s hs hm => ?_, ht.placeholders, fun ha n => ?_, fun ha => ?_,
        fun s hp hj hm => ?_, (concluded_frame c' m).1.trans ht.edition,
        (concluded_frame c' m).2.trans ht.loader⟩
      · have hp : s ≠ .placeholders := by rintro rfl; exact absurd hs (by decide)
        have hj : s ≠ .jdbcProperties := by rintro rfl; exact absurd hs (by decide)
        rw [concluded_get, withNamespaces_get_of_ne _ _ hp hj]
        exact ht.took s hs
      · rw [ht.jdbcProperties, if_pos ha]
        exact ht.driverProperties n
      · rw [ht.jdbcProperties, ha]
        rfl
      · rw [concluded_get, withNamespaces_get_of_ne _ _ hp hj]
        exact ht.unchanged (.inr hm)

/-! ## The connection -/

/-- The map has a text for a connection setting, be it blank. -/
def namesConnection (m : PropertyMap) : Bool :=
  connectionSettings.any fun s => (textFor? m s).isSome

/-- The descriptor after a pass is the one of the settings that the pass has
left: it is there exactly when the URL has text, and is derived with the
properties for the driver from before the pass, with those of the map laid over
them. -/
structure DescriptorAgrees (before after : Config) (m : PropertyMap) : Prop where
  present : after.descriptor.isSome = Text.hasText (after.get .url)
  derived : ∀ d, after.descriptor = some d →
    ∃ p : PropertyMap,
      (∀ n, p.get? n =
        (named? m driverPropertyRoot n).or (PropertyMap.get? (before.get .jdbcProperties) n)) ∧
      Descriptor.ofSettings? (after.get .driver) (after.get .url) (after.get .user)
        (after.get .password) p (some after.loader) = some d

section Descriptor

variable {c : Config} {h : Host} {m : PropertyMap}

/-- A pass that returns has come to its conclusion and found nothing to report. -/
theorem apply_completed {root : String} {t : Situation}
    (hr : (apply m root).run ⟨c, h⟩ = (.ok (), t)) :
    ∃ c', t.config = c'.concluded m ∧ c.TookOutcomes h m Setting.applied c' ∧
      t.host.modules = h.modules ∧ verdict m root = .ok () := by
  cases hf : c.firstRefused h m with
  | some f =>
      obtain ⟨e, t', hr', -, -⟩ := apply_refused root hf
      rw [hr] at hr'
      cases hr'
  | none =>
      obtain ⟨c', h', hr', ht, hmodules⟩ := apply_accepted root hf
      rw [hr] at hr'
      obtain ⟨hverdict, rfl⟩ := Prod.mk.inj hr'
      exact ⟨c', rfl, ht, hmodules, hverdict.symm⟩

theorem apply_returned {root : String} {t : Situation}
    (hr : (apply m root).run ⟨c, h⟩ = (.ok (), t)) :
    ∃ c', t.config = c'.concluded m ∧ c.TookOutcomes h m Setting.applied c' := by
  obtain ⟨c', hc, ht, -, -⟩ := apply_completed hr
  exact ⟨c', hc, ht⟩

theorem concluded_connection (c : Config) (m : PropertyMap) {s : Setting}
    (hs : s ∈ connectionSettings) : (c.concluded m).get s = c.get s := by
  have happlied : ∀ s ∈ connectionSettings, s ∈ Setting.applied := by decide
  exact concluded_get_applied c m (happlied s hs)

/-- Settings among which are those of the connection drop the descriptor if the map names
one of these, and leave it otherwise. -/
theorem TookOutcomes.descriptor_of_connection {ss : List Setting} {c' : Config}
    (ht : c.TookOutcomes h m ss c') (hss : ∀ s ∈ connectionSettings, s ∈ ss) :
    c'.descriptor = if namesConnection m then none else c.descriptor := by
  have hdrop : ss.any (dropsDescriptor m) = namesConnection m := by
    rw [Bool.eq_iff_iff, namesConnection, List.any_eq_true, List.any_eq_true]
    simp only [dropsDescriptor, Bool.and_eq_true, beq_iff_eq, Setting.kind_eq_connectionText]
    constructor
    · rintro ⟨s, -, hs, htext⟩
      exact ⟨s, hs, htext⟩
    · rintro ⟨s, hs, htext⟩
      exact ⟨s, hss s hs, hs, htext⟩
  rw [ht.descriptor, hdrop]

/-- A map that names a connection setting drops the descriptor on its way. -/
theorem TookOutcomes.descriptor_none {c' : Config} (ht : c.TookOutcomes h m Setting.applied c')
    (hm : namesConnection m = true) : c'.descriptor = none := by
  rw [ht.descriptor_of_connection (by decide), if_pos hm]

/-- The descriptor that is derived at the end of a pass agrees with its
settings. -/
theorem TookOutcomes.descriptorAgrees {c' : Config}
    (ht : c.TookOutcomes h m Setting.applied c') (hm : touchesConnection m = true) :
    DescriptorAgrees c (c'.concluded m) m := by
  have hd : (c'.concluded m).descriptor =
      Descriptor.ofSettings? ((c'.concluded m).get .driver) ((c'.concluded m).get .url)
        ((c'.concluded m).get .user) ((c'.concluded m).get .password)
        (c'.driverPropertiesWith m) (some (c'.concluded m).loader) := by
    rw [concluded_connection c' m (s := .driver) (by decide),
      concluded_connection c' m (s := .url) (by decide),
      concluded_connection c' m (s := .user) (by decide),
      concluded_connection c' m (s := .password) (by decide), (concluded_frame c' m).2]
    exact if_pos hm
  constructor
  · rw [hd, Descriptor.ofSettings?_isSome]
  · intro d hsome
    exact ⟨c'.driverPropertiesWith m, ht.driverProperties, hd.symm.trans hsome⟩

/-- A connection setting takes any argument. -/
theorem takes_connection {s : Setting} (hs : s ∈ connectionSettings) (a : s.Argument) :
    ∃ v, c.takes h s a = .ok v := by
  -- setting by setting, for a kind has to be known before its argument can be looked at
  have take : ∀ s ∈ connectionSettings, ∀ a, ∃ v, c.takes h s a = .ok v := by
    simp only [connectionSettings, List.forall_mem_cons]
    refine ⟨fun a => ⟨a, ?_⟩, fun a => ⟨a, ?_⟩, fun a => ⟨a, ?_⟩, fun a => ⟨a, ?_⟩,
      List.forall_mem_nil _⟩ <;>
      exact c.takes_eq_accept h (by decide) a
  exact take s hs a

/-- A connection setting takes any text. -/
theorem outcome_connection {s : Setting} (hs : s ∈ connectionSettings) :
    ∃ v, c.outcome h m s = .ok v := by
  cases hm : textFor? m s with
  | none => exact ⟨_, outcome_absent hm⟩
  | some e =>
      obtain ⟨key, raw⟩ := e
      have hr : ∃ a, argument? m s = .ok (some a) := by
        simp only [argument?, hm]
        have hread : ∀ s ∈ connectionSettings, ∃ a, s.kind.read key raw = .ok (some a) := by
          simp only [connectionSettings, List.forall_mem_cons]
          exact ⟨⟨_, rfl⟩, ⟨_, rfl⟩, ⟨_, rfl⟩, ⟨_, rfl⟩, List.forall_mem_nil _⟩
        exact hread s hs
      obtain ⟨a, ha⟩ := hr
      obtain ⟨v, hv⟩ := takes_connection (c := c) (h := h) hs a
      exact ⟨v, by rw [outcome, ha]; exact hv⟩

/-- A map of connection settings only is never refused. -/
theorem configure_connection_returns (c : Config) (h : Host)
    (hm : ∀ k ∈ m.keys, ∃ s ∈ connectionSettings, s.key? = some k) :
    ∃ t, (configure m).run ⟨c, h⟩ = (.ok (), t) := by
  have hnone : c.firstRefused h m = none := by
    rw [firstRefused, List.find?_eq_none]
    intro s _
    rw [Bool.not_eq_true, refuses_eq_false]
    cases htext : textFor? m s with
    | none => exact ⟨_, outcome_absent htext⟩
    | some e =>
        obtain ⟨hk, hraw⟩ := textFor?_eq_some.1 htext
        obtain ⟨s', hs', hk'⟩ := hm e.1 (PropertyMap.mem_keys.2 (by rw [hraw]; rfl))
        rw [Setting.key?_inj hk hk']
        exact outcome_connection hs'
  obtain ⟨c', h', hr, -, -⟩ := apply_accepted propertyRoot hnone
  have hverdict : verdict m propertyRoot = .ok () := by
    refine verdict_eq_ok fun k hk _ => ?_
    obtain ⟨s, hs, hkey⟩ := hm k hk
    have happ : s ∈ Setting.applied := Setting.mem_applied.2 (by rw [hkey]; rfl)
    have hset : isSettingKey k = true := List.any_eq_true.2 ⟨s, happ, by simp [hkey]⟩
    simp [isKnownKey, hset]
  exact ⟨_, hr.trans (by rw [hverdict])⟩

/-- A pass with blank texts only for the connection leaves no descriptor. -/
theorem apply_descriptor_none {root : String} {t : Situation} (hm : namesConnection m = true)
    (hblank : touchesConnection m = false) (hr : (apply m root).run ⟨c, h⟩ = (.ok (), t)) :
    t.config.descriptor = none := by
  obtain ⟨c', ht', ht⟩ := apply_returned hr
  rw [ht']
  show (if touchesConnection m then _ else c'.descriptor) = none
  rw [hblank, if_neg (by simp)]
  exact ht.descriptor_none hm

theorem apply_url {root : String} {t : Situation}
    (hr : (apply m root).run ⟨c, h⟩ = (.ok (), t)) :
    c.outcome h m .url = .ok (t.config.get .url) := by
  obtain ⟨c', ht', ht⟩ := apply_returned hr
  rw [ht', concluded_connection c' m (by decide)]
  exact ht.took .url (by decide)

end Descriptor

/-- A pass that names a connection setting and returns leaves the descriptor of
its settings exactly when one of their texts is not blank, or there is no URL to
derive it from.  If all of them are blank there is no descriptor, whatever the
URL that was there before. -/
theorem configure_descriptor_agrees_iff {c : Config} {h : Host} {m : PropertyMap} {t : Situation}
    (hm : namesConnection m = true) (hr : (configure m).run ⟨c, h⟩ = (.ok (), t)) :
    (DescriptorAgrees c t.config m ↔
      touchesConnection m = true ∨ Text.hasText (t.config.get .url) = false) ∧
    (touchesConnection m = false → t.config.descriptor = none) := by
  cases htouch : touchesConnection m with
  | true =>
      obtain ⟨c', ht', ht⟩ := apply_returned hr
      refine ⟨⟨fun _ => .inl rfl, fun _ => ht' ▸ ht.descriptorAgrees htouch⟩, fun hf => ?_⟩
      cases hf
  | false =>
      have hnone := apply_descriptor_none hm htouch hr
      refine ⟨⟨fun hagree => .inr ?_, fun hurl => ?_⟩, fun _ => hnone⟩
      · rw [← hagree.present, hnone]
        rfl
      · rcases hurl with hc | hurl
        · cases hc
        · refine ⟨by rw [hnone, hurl]; rfl, fun d hd => ?_⟩
          rw [hnone] at hd
          cases hd

/-- A blank user is enough to lose the descriptor of a URL that still stands. -/
theorem configure_blank_user_disagrees :
    ∃ t₁ t₂ : Situation,
      (configure (.ofList [("flyway.url", "jdbc:x")])).run
          ⟨.new .community ⟨0, none⟩, .bare⟩ = (.ok (), t₁) ∧
        (configure (.ofList [("flyway.user", "")])).run t₁ = (.ok (), t₂) ∧
        ¬ DescriptorAgrees t₁.config t₂.config (.ofList [("flyway.user", "")]) := by
  obtain ⟨t₁, hr₁⟩ := configure_connection_returns (m := .ofList [("flyway.url", "jdbc:x")])
    (.new .community ⟨0, none⟩) .bare fun k hk => ⟨.url, by decide, by
      rw [List.mem_singleton.1 hk]
      rfl⟩
  obtain ⟨t₂, hr₂⟩ := configure_connection_returns (m := .ofList [("flyway.user", "")])
    t₁.config t₁.host fun k hk => ⟨.user, by decide, by
      rw [List.mem_singleton.1 hk]
      rfl⟩
  have hurl₁ : t₁.config.get .url = some "jdbc:x" := (Except.ok.inj (apply_url hr₁)).symm
  have hurl₂ : t₂.config.get .url = t₁.config.get .url := (Except.ok.inj (apply_url hr₂)).symm
  refine ⟨t₁, t₂, hr₁, hr₂, fun hagree => ?_⟩
  have hpresent := hagree.present
  rw [apply_descriptor_none (by decide) (by decide) hr₂, hurl₂, hurl₁] at hpresent
  exact absurd hpresent (by decide)

/-- A pass with a URL on a new configuration. -/
theorem configure_url_agrees :
    ∃ t : Situation,
      namesConnection (.ofList [("flyway.url", "jdbc:x")]) = true ∧
        (configure (.ofList [("flyway.url", "jdbc:x")])).run
          ⟨.new .community ⟨0, none⟩, .bare⟩ = (.ok (), t) ∧
        DescriptorAgrees (.new .community ⟨0, none⟩) t.config
          (.ofList [("flyway.url", "jdbc:x")]) := by
  obtain ⟨t, hr⟩ := configure_connection_returns (m := .ofList [("flyway.url", "jdbc:x")])
    (.new .community ⟨0, none⟩) .bare fun k hk => ⟨.url, by decide, by
      rw [List.mem_singleton.1 hk]
      rfl⟩
  have hm : namesConnection (.ofList [("flyway.url", "jdbc:x")]) = true := by decide
  exact ⟨t, hm, hr, (configure_descriptor_agrees_iff hm hr).1.2 (.inl (by decide))⟩

end MigrationConfig.Config
