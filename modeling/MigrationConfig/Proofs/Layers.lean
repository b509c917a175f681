/-
# Layers

Properties come in layers: those of files, of the environment, of a program.  A
caller applies one layer after the other; a loader merges them, and applies the
merged map once.  Both lead to the same configuration.

What a pass leaves is told in full by `Passed`, but for the descriptor and the
order of maps.  Two passes in a row are therefore one pass with the merged map as
soon as `Passed` can be shown of it, and this is looked at setting by setting: the
second map has the last word where it has a text, and the first map where it has
none.  There are two exceptions.  A dry-run output is opened by every pass that
names it.  A blank list of classes leaves a setting alone, so that laid over
another list it hides what it did not replace.
-/
import MigrationConfig.Proofs.Agreement
import MigrationConfig.Proofs.Residue

namespace MigrationConfig

theorem Setting.alike_of_modules {s : Setting} (hs : s ≠ .dryRunOutput) {h h' : Host}
    (hm : h'.modules = h.modules) : s.kind.Alike h h' where
  modules := hm
  files ho := absurd (Setting.kind_eq_output.1 ho) hs
  streams ho := absurd (Setting.kind_eq_output.1 ho) hs

/-- Only a blank list of classes is read as nothing, among the kinds that are read
from a text. -/
theorem Kind.read_eq_none {key raw : String} {k : Kind} (ht : k ≠ .table) (hp : k ≠ .provider) :
    k.read key raw = .ok none ↔ (∃ role, k = .instances role) ∧ Text.isBlankText raw = true := by
  have map_some : ∀ {α β : Type} (f : α → β) (r : Except Error α),
      r.map (fun a => some (f a)) ≠ .ok none := by
    intro α β f r h
    cases r <;> cases h
  constructor
  · intro h
    cases k with
    | instances role =>
        refine ⟨⟨role, rfl⟩, ?_⟩
        cases hraw : Text.isBlankText raw with
        | true => rfl
        | false => simp [read, hraw] at h
    | table => exact absurd rfl ht
    | provider => exact absurd rfl hp
    | flag => exact absurd h (map_some id _)
    | counter => exact absurd h (map_some Document.number _)
    | _ => cases h
  · rintro ⟨⟨role, rfl⟩, hraw⟩
    simp [read, hraw]

namespace Config

/-! ## Merged maps -/

section Union

variable (m₁ m₂ : PropertyMap)

theorem textFor?_union (s : Setting) :
    textFor? (m₁.union m₂) s = (textFor? m₂ s).or (textFor? m₁ s) := by
  unfold textFor?
  cases s.key? with
  | none => rfl
  | some key =>
      simp only [PropertyMap.get?_union]
      cases m₂.get? key <;> rfl

theorem named?_union (root n : String) :
    named? (m₁.union m₂) root n = (named? m₂ root n).or (named? m₁ root n) := by
  unfold named?
  split
  · rfl
  · exact PropertyMap.get?_union m₁ m₂ (root ++ n)

/-- Keys without a meaning come from one of the maps. -/
theorem unknownKeys_union {root : String} (h₁ : unknownKeys m₁ root = [])
    (h₂ : unknownKeys m₂ root = []) : unknownKeys (m₁.union m₂) root = [] := by
  apply List.eq_nil_iff_forall_not_mem.2
  intro k hk
  obtain ⟨hkey, hunknown⟩ := mem_unknownKeys.1 hk
  rw [PropertyMap.mem_keys, PropertyMap.get?_union, Option.isSome_or, Bool.or_eq_true] at hkey
  rcases hkey with hkey | hkey
  · have hmem : k ∈ unknownKeys m₂ root := mem_unknownKeys.2 ⟨PropertyMap.mem_keys.2 hkey, hunknown⟩
    rw [h₂] at hmem
    cases hmem
  · have hmem : k ∈ unknownKeys m₁ root := mem_unknownKeys.2 ⟨PropertyMap.mem_keys.2 hkey, hunknown⟩
    rw [h₁] at hmem
    cases hmem

end Union

/-! ## Blank lists of classes -/

/-- The keys of lists of classes. -/
def classKeys : List String := ["flyway.callbacks", "flyway.resolvers"]

theorem classKey_of_instances {s : Setting} {role : Interface} {key : String}
    (hk : s.kind = .instances role) (hkey : s.key? = some key) : key ∈ classKeys := by
  cases s <;> simp_all [Setting.kind, Setting.key?, classKeys]

/-- A text without an argument is a blank list of classes. -/
theorem argument?_eq_none {m : PropertyMap} {s : Setting} {key raw : String}
    (htext : textFor? m s = some (key, raw)) :
    argument? m s = .ok none ↔
      (∃ role, s.kind = .instances role) ∧ Text.isBlankText raw = true := by
  have hkey : s.key? = some key := (textFor?_eq_some.1 htext).1
  -- what has a key is read from its text, so the kinds without one do not matter
  have hkind : s.kind ≠ .table ∧ s.kind ≠ .provider := by
    cases s <;> simp_all [Setting.kind, Setting.key?]
  rw [argument?, htext]
  exact Kind.read_eq_none hkind.1 hkind.2

/-- Maps of which the second can be laid over the first: none of them names a
dry-run output, and a list of classes that the second has as a blank text is not
filled by the first. -/
structure Layered (m₁ m₂ : PropertyMap) : Prop where
  lower : m₁.get? "flyway.dryRunOutput" = none
  upper : m₂.get? "flyway.dryRunOutput" = none
  classes : ∀ key ∈ classKeys, ∀ raw, m₂.get? key = some raw → Text.isBlankText raw = true →
    ∀ raw', m₁.get? key = some raw' → Text.isBlankText raw' = true

theorem textFor?_output {m : PropertyMap} (hm : m.get? "flyway.dryRunOutput" = none) :
    textFor? m .dryRunOutput = none := by
  show (m.get? "flyway.dryRunOutput").map _ = none
  rw [hm]
  rfl

theorem ne_output_of_text {m : PropertyMap} (hm : m.get? "flyway.dryRunOutput" = none)
    {s : Setting} {e : String × String} (htext : textFor? m s = some e) : s ≠ .dryRunOutput := by
  rintro rfl
  rw [textFor?_output hm] at htext
  cases htext

/-- Where the second map has a blank list of classes, the first pass kept what was
there. -/
theorem Layered.outcome_lower {m₁ m₂ : PropertyMap} (hl : Layered m₁ m₂) {s : Setting}
    {key raw : String} (htext : textFor? m₂ s = some (key, raw)) (ha : argument? m₂ s = .ok none)
    (c : Config) (h : Host) : c.outcome h m₁ s = .ok (c.get s) := by
  obtain ⟨⟨role, hk⟩, hblank⟩ := (argument?_eq_none htext).1 ha
  obtain ⟨hkey, hraw⟩ := textFor?_eq_some.1 htext
  cases htext₁ : textFor? m₁ s with
  | none => exact outcome_absent htext₁
  | some e =>
      obtain ⟨hkey₁, hraw₁⟩ := textFor?_eq_some.1 htext₁
      have hclass : e.1 ∈ classKeys := classKey_of_instances hk hkey₁
      have hsame : key = e.1 := Option.some.inj (hkey.symm.trans hkey₁)
      have hblank₁ : Text.isBlankText e.2 = true :=
        hl.classes e.1 hclass raw (hsame ▸ hraw) hblank e.2 hraw₁
      rw [outcome, (argument?_eq_none htext₁).2 ⟨⟨role, hk⟩, hblank₁⟩]

/-! ## What a pass comes to -/

/-- The configuration that a pass comes to when it returns, but for its
descriptor. -/
structure Passed (c : Config) (h : Host) (m : PropertyMap) (c' : Config) : Prop where
  edition : c'.edition = c.edition
  loader : c'.loader = c.loader
  took : ∀ s ∈ Setting.applied, c.outcome h m s = .ok (c'.get s)
  kept : ∀ s, s ∉ Setting.applied → s ≠ .placeholders → s ≠ .jdbcProperties → c'.get s = c.get s
  placeholders : ∀ n, PropertyMap.get? (c'.get .placeholders) n =
    (named? m placeholderRoot n).or (PropertyMap.get? (c.get .placeholders) n)
  driverProperties : ∀ n, PropertyMap.get? (c'.get .jdbcProperties) n =
    (if c.allows .jdbcProperties then named? m driverPropertyRoot n else none).or
      (PropertyMap.get? (c.get .jdbcProperties) n)

theorem TookOutcomes.passed {c c' : Config} {h : Host} {m : PropertyMap}
    (ht : c.TookOutcomes h m Setting.applied c') : c.Passed h m (c'.concluded m) where
  edition := (concluded_frame c' m).1.trans ht.edition
  loader := (concluded_frame c' m).2.trans ht.loader
  took s hs := by
    rw [concluded_get_applied c' m hs]
    exact ht.took s hs
  kept s hs hp hj := by
    rw [concluded_get, withNamespaces_get_of_ne _ _ hp hj]
    exact ht.kept s hs
  placeholders := ht.placeholders
  driverProperties n := by
    rw [ht.jdbcProperties]
    split
    · exact ht.driverProperties n
    · rfl

section Passed

variable {c c' c₁ c₂ : Config} {h h₁ : Host} {m m₁ m₂ : PropertyMap} {root : String}

/-- A pass that returns comes to this; it knew all its keys, and no module was
touched. -/
theorem passed_of_returned {t : Situation} (hr : (apply m root).run ⟨c, h⟩ = (.ok (), t)) :
    c.Passed h m t.config ∧ t.host.modules = h.modules ∧ unknownKeys m root = [] := by
  obtain ⟨c', hc, ht, hmodules, hverdict⟩ := apply_completed hr
  refine ⟨hc ▸ ht.passed, hmodules, ?_⟩
  rw [verdict_eq] at hverdict
  split at hverdict
  · assumption
  · cases hverdict

/-- A pass without a refusal that knows all its keys returns. -/
theorem returns_of_passed (hp : c.Passed h m c') (hu : unknownKeys m root = []) :
    ∃ t, (apply m root).run ⟨c, h⟩ = (.ok (), t) := by
  have hnone : c.firstRefused h m = none :=
    firstRefused_eq_none.2 fun s hs => ⟨_, hp.took s hs⟩
  obtain ⟨c'', h', hr, -, -⟩ := apply_accepted root hnone
  rw [verdict_eq, if_pos hu] at hr
  exact ⟨_, hr⟩

/-- There is one such configuration, up to the order of its maps. -/
theorem Passed.unique (hp₁ : c.Passed h m c₁) (hp₂ : c.Passed h m c₂) : c₁.SettingsAgree c₂ where
  edition := hp₁.edition.trans hp₂.edition.symm
  loader := hp₁.loader.trans hp₂.loader.symm
  values := by
    refine settings_agree (fun s hp hj => ?_) (fun n => ?_) (fun n => ?_)
    · by_cases hs : s ∈ Setting.applied
      · exact Except.ok.inj ((hp₁.took s hs).symm.trans (hp₂.took s hs))
      · rw [hp₁.kept s hs hp hj, hp₂.kept s hs hp hj]
    · rw [hp₁.placeholders, hp₂.placeholders]
    · rw [hp₁.driverProperties, hp₂.driverProperties]

/-- An argument is taken after a pass as it was before. -/
theorem Passed.takes_eq (hp : c.Passed h m₁ c₁) (hm : h₁.modules = h.modules) {s : Setting}
    (hs : s ≠ .dryRunOutput) (a : s.Argument) : c₁.takes h₁ s a = c.takes h s a :=
  takes_congr hp.edition hp.loader (Setting.alike_of_modules hs hm) (fun ho => absurd ho hs) a

/-! ## Two passes -/

/-- A setting comes to the same through two passes as through one with the merged
map. -/
theorem Passed.outcome_union (hl : Layered m₁ m₂) (hp₁ : c.Passed h m₁ c₁)
    (hm : h₁.modules = h.modules) (hp₂ : c₁.Passed h₁ m₂ c₂) {s : Setting}
    (hs : s ∈ Setting.applied) : c.outcome h (m₁.union m₂) s = .ok (c₂.get s) := by
  have htook₁ := hp₁.took s hs
  have htook₂ := hp₂.took s hs
  have htext := textFor?_union m₁ m₂ s
  cases htext₂ : textFor? m₂ s with
  | none =>
      -- the merged map says what the first one says, and the second pass kept the value
      have hunion : c.outcome h (m₁.union m₂) s = c.outcome h m₁ s := by
        rw [htext₂, Option.none_or] at htext
        simp only [outcome, argument?, htext]
      rw [outcome_absent htext₂] at htook₂
      rw [hunion, htook₁, Except.ok.inj htook₂]
  | some e =>
      obtain ⟨key, raw⟩ := e
      have harg : argument? (m₁.union m₂) s = argument? m₂ s := by
        rw [htext₂, Option.some_or] at htext
        rw [argument?, argument?, htext, htext₂]
      cases ha : argument? m₂ s with
      | error e =>
          rw [outcome, ha] at htook₂
          cases htook₂
      | ok o =>
          rw [outcome, ha] at htook₂
          rw [outcome, harg, ha]
          cases o with
          | some a =>
              have htakes := hp₁.takes_eq hm (ne_output_of_text hl.upper htext₂) a
              exact htakes.symm.trans htook₂
          | none =>
              -- a blank list of classes hides no text that the first pass has used
              have hlower := hl.outcome_lower htext₂ ha
              show Except.ok (c.get s) = .ok (c₂.get s)
              rw [← hlower c h, htook₁, Except.ok.inj htook₂]

/-- Two passes in a row come to what one with the merged map comes to. -/
theorem Passed.layers (hl : Layered m₁ m₂) (hp₁ : c.Passed h m₁ c₁) (hm : h₁.modules = h.modules)
    (hp₂ : c₁.Passed h₁ m₂ c₂) : c.Passed h (m₁.union m₂) c₂ where
  edition := hp₂.edition.trans hp₁.edition
  loader := hp₂.loader.trans hp₁.loader
  took s hs := hp₁.outcome_union hl hm hp₂ hs
  kept s hs hp hj := (hp₂.kept s hs hp hj).trans (hp₁.kept s hs hp hj)
  placeholders n := by
    rw [hp₂.placeholders, hp₁.placeholders, named?_union, Option.or_assoc]
  driverProperties n := by
    rw [hp₂.driverProperties, hp₁.driverProperties, allows_congr hp₁.edition, named?_union]
    split
    · rw [Option.or_assoc]
    · rfl

/-- A second pass with the same map finds all as it would leave it. -/
theorem Passed.again (hout : m.get? "flyway.dryRunOutput" = none) (hp : c.Passed h m c₁)
    (hm : h₁.modules = h.modules) : c₁.Passed h₁ m c₁ where
  edition := rfl
  loader := rfl
  took s hs := by
    have htook := hp.took s hs
    cases ha : argument? m s with
    | error e =>
        rw [outcome, ha] at htook
        cases htook
    | ok o =>
        cases o with
        | none => rw [outcome, ha]
        | some a =>
            have hne : s ≠ .dryRunOutput := by
              rintro rfl
              rw [argument?_absent (textFor?_output hout)] at ha
              cases ha
            rw [outcome, ha] at htook ⊢
            exact (hp.takes_eq hm hne a).trans htook
  kept _ _ _ _ := rfl
  placeholders n := by
    rw [hp.placeholders]
    cases named? m placeholderRoot n <;> simp
  driverProperties n := by
    rw [allows_congr hp.edition, hp.driverProperties]
    split
    · cases named? m driverPropertyRoot n <;> simp
    · rfl

end Passed

/-! ## One pass for two -/

/-- If a pass with one map and then one with another return, so does the pass with
the merged map, and the settings that it leaves agree with theirs.  A second pass
with the same map returns like the first and leaves the settings as they are. -/
theorem configure_layers (c : Config) (h : Host) :
    (∀ (m₁ m₂ : PropertyMap) (t₁ t₂ : Situation), Layered m₁ m₂ →
      (configure m₁).run ⟨c, h⟩ = (.ok (), t₁) → (configure m₂).run t₁ = (.ok (), t₂) →
        ∃ t, (configure (m₁.union m₂)).run ⟨c, h⟩ = (.ok (), t) ∧
          t.config.SettingsAgree t₂.config) ∧
    ∀ (m : PropertyMap) (t₁ : Situation), m.get? "flyway.dryRunOutput" = none →
      (configure m).run ⟨c, h⟩ = (.ok (), t₁) →
        ∃ t₂, (configure m).run t₁ = (.ok (), t₂) ∧ t₂.config.SettingsAgree t₁.config := by
  constructor
  · intro m₁ m₂ t₁ t₂ hl hr₁ hr₂
    obtain ⟨hp₁, hm₁, hu₁⟩ := passed_of_returned hr₁
    obtain ⟨hp₂, -, hu₂⟩ := passed_of_returned hr₂
    have hp := hp₁.layers hl hm₁ hp₂
    obtain ⟨t, hr⟩ := returns_of_passed hp (unknownKeys_union m₁ m₂ hu₁ hu₂)
    exact ⟨t, hr, (passed_of_returned hr).1.unique hp⟩
  · intro m t₁ hout hr₁
    obtain ⟨hp₁, hm₁, hu⟩ := passed_of_returned hr₁
    have hp := hp₁.again hout hm₁
    obtain ⟨t₂, hr₂⟩ := returns_of_passed hp hu
    exact ⟨t₂, hr₂, (passed_of_returned hr₂).1.unique hp⟩

/-- Two maps with a setting and a placeholder in common, and a blank list of classes
in each. -/
theorem configure_layers_overlapping :
    let c : Config := .new .community ⟨0, none⟩
    let m₁ : PropertyMap := .ofList [("flyway.table", "first"), ("flyway.callbacks", " "),
      ("flyway.placeholders.a", "x"), ("flyway.placeholders.b", "y"), ("flyway.group", "true")]
    let m₂ : PropertyMap := .ofList [("flyway.placeholders.b", "z"), ("flyway.table", "second"),
      ("flyway.callbacks", ""), ("flyway.jdbcProperties.p", "q")]
    ∃ t₁ t₂ t t₃ : Situation,
      Layered m₁ m₂ ∧ (configure m₁).run ⟨c, .bare⟩ = (.ok (), t₁) ∧
        (configure m₂).run t₁ = (.ok (), t₂) ∧
        (configure (m₁.union m₂)).run ⟨c, .bare⟩ = (.ok (), t) ∧
        t.config.SettingsAgree t₂.config ∧
        (configure m₁).run t₁ = (.ok (), t₃) ∧ t₃.config.SettingsAgree t₁.config := by
  intro c m₁ m₂
  have hl : Layered m₁ m₂ := by
    refine ⟨by decide +kernel, by decide +kernel, ?_⟩
    intro key hkey raw _ _ raw' hraw'
    have hblank : ∀ key ∈ classKeys, ∀ raw ∈ m₁.get? key, Text.isBlankText raw = true := by
      decide +kernel
    exact hblank key hkey raw' hraw'
  have hr₁ := Procedure.run_eq_of_isOk (x := configure m₁) (t := ⟨c, .bare⟩) (by decide +kernel)
  have hr₂ := Procedure.run_eq_of_isOk (x := configure m₂)
    (t := ((configure m₁).run ⟨c, .bare⟩).2) (by decide +kernel)
  obtain ⟨t, hr, hagree⟩ := (configure_layers c .bare).1 m₁ m₂ _ _ hl hr₁ hr₂
  obtain ⟨t₃, hr₃, hagain⟩ := (configure_layers c .bare).2 m₁ _ (by decide +kernel) hr₁
  exact ⟨_, _, t, t₃, hl, hr₁, hr₂, hr, hagree, hr₃, hagain⟩

end Config

end MigrationConfig
