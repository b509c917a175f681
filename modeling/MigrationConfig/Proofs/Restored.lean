/-
# Properties that are read back

The property map of a configuration, applied to a new one, gives it the same
settings.  A text that a value is written as is read and accepted as the value,
kind by kind; a value without a text is the initial one.  This needs what
`WellKept` says of values, and two things that are not up to the configuration: that
the encoding is still known under its name, and that the classes of its
extensions are found under theirs.
-/
import MigrationConfig.Proofs.Exported
import MigrationConfig.Proofs.Stored

namespace MigrationConfig

/-! ## Classes by their own names -/

namespace ClassLoader

/-- A class is imported under the name of its module and its own.  Both are
identifiers with dots between them; all that matters of this is that no comma is
in them, which a list of names would be cut at. -/
structure Finds (l : ClassLoader) (ms : Modules) (k : ClassInfo) : Prop where
  comma : ',' ∉ k.fullName.toList
  loads : l.load ms k.fullName = .ok k

/-- The module is the one that the name has in front, or else the default
package. -/
theorem moduleOf_eq_ok {l : ClassLoader} {name p : String} :
    l.moduleOf name = .ok p ↔
      (if (splitName name).1.isEmpty then l.defaultPackage else some (splitName name).1) =
        some p := by
  unfold moduleOf
  simp only
  split
  · cases l.defaultPackage with
    | none => simp
    | some q => simp
  · simp

theorem load_eq_ok {l : ClassLoader} {ms : Modules} {name : String} {k : ClassInfo} :
    l.load ms name = .ok k ↔
      ∃ p m, l.moduleOf name = .ok p ∧ ms.importNamed p = .ok m ∧
        Entries.get? (splitName name).2 m.members = some (.ofClass k) := by
  unfold load
  constructor
  · intro h
    split at h
    · cases h
    · next p hp =>
        split at h
        · cases h
        · cases h
        · next m hm =>
            simp only at h
            split at h
            · next hk =>
                cases h
                exact ⟨p, m, hp, hm, hk⟩
            · cases h
  · rintro ⟨p, m, hp, hm, hk⟩
    simp only [hp, hm, hk]

/-- Blanks around a name make no difference to what is loaded. -/
theorem load_trim {l : ClassLoader} {ms : Modules} {name : String} {k : ClassInfo}
    (h : l.load ms name = .ok k) :
    l.load ms (String.ofList (Text.trim name.toList)) = .ok k := by
  have hsplit : splitName (String.ofList (Text.trim name.toList)) = splitName name := by
    rw [splitName, splitName, String.toList_ofList, Text.trim_trim]
  rw [load_eq_ok] at h ⊢
  simp only [moduleOf_eq_ok, hsplit] at h ⊢
  exact h

/-- An instance of a class that is found under its name can be made under it. -/
theorem Finds.prepare {l : ClassLoader} {ms : Modules} {role : Interface} {i : Instance}
    (hk : l.Finds ms i.ofClass) (hp : i.ofClass.plays role = true)
    (ho : i.ofClass.obstacle = none) :
    l.prepare ms (some role) (String.ofList (Text.trim i.ofClass.fullName.toList)) = .ok i := by
  unfold ClassLoader.prepare
  rw [load_trim hk.loads]
  simp only [hp, construct, ho]
  rfl

end ClassLoader

theorem ClassInfo.dot_mem_fullName (k : ClassInfo) : '.' ∈ k.fullName.toList := by
  rw [fullName, String.toList_append, String.toList_append]
  simp

theorem ClassInfo.trim_fullName (k : ClassInfo) : Text.trim k.fullName.toList ≠ [] := by
  rw [ne_eq, Text.trim_eq_nil_iff]
  intro h
  exact absurd (h '.' k.dot_mem_fullName) (by decide)

namespace Kind

/-! ## Kind by kind -/

/-- What a value refers to is there: the encoding, or the classes. -/
def IsFound (l : ClassLoader) (ms : Modules) : (k : Kind) → k.Value → Prop
  | .encoding, s => (Codec.lookup? s).map Codec.Entry.name = some s
  | .instances _, is => ∀ i ∈ is, l.Finds ms i.ofClass
  | _, _ => True

/-- The kinds whose values are written and read as texts of their own. -/
def isTextual : Kind → Bool
  | patterns | overrides | table | provider | output => false
  | _ => true

/-- A text that was written for a value is read, and accepted as the value. -/
theorem accept_write {k : Kind} {v : k.Value} {t : String} (hk : k.isTextual = true)
    (hv : k.Storable v) (hw : k.write v = .ok (some t)) (key field : String) {l : ClassLoader}
    {h : Host} (hf : k.IsFound l h.modules v) :
    ∃ a, k.read key t = .ok (some a) ∧ ((k.accept field l a).run h).1 = .ok v := by
  cases k with
  | patterns | overrides | table | provider | output => cases hk
  | text | optionalText | connectionText =>
      cases hw
      exact ⟨_, rfl, rfl⟩
  | flag =>
      cases hw
      cases v with
      | true => exact ⟨true, rfl, rfl⟩
      | false => exact ⟨false, rfl, rfl⟩
  | counter =>
      obtain ⟨hn, hs⟩ := hv
      have ht : t = Text.integerText v := by
        have hw : (counterText v).map some = .ok (some t) := hw
        rw [counterText, hs] at hw
        cases hw
        rfl
      refine ⟨.number v, ?_, ?_⟩
      · rw [read, ht, Coercion.integer_integerText hn hs]
        rfl
      · have hacc : acceptCounter field (.number v) = .ok v := by
          unfold acceptCounter Document.number
          exact if_pos hn
        simp only [accept, HostM.run_ofExcept, hacc]
  | requiredText =>
      cases hw
      refine ⟨some t, rfl, ?_⟩
      have hacc : acceptRequired field (some t) = .ok t := by
        have hv : t ≠ "" := hv
        have hne : t.isEmpty = false := by simpa [String.isEmpty_iff] using hv
        simp [acceptRequired, Descriptor.nonEmpty?, hne]
      simp only [accept, HostM.run_ofExcept, hacc]
  | nonEmptyText =>
      cases hw
      refine ⟨some t, rfl, ?_⟩
      have hne : t.isEmpty = false := by
        have hv : (some t : Option String) ≠ some "" := hv
        simpa [String.isEmpty_iff] using hv
      show (.ok (Descriptor.nonEmpty? (some t)) : Except Error (Option String)) = _
      simp [Descriptor.nonEmpty?, hne]
  | encoding =>
      cases hw
      refine ⟨some t, rfl, ?_⟩
      have hacc : acceptEncoding (some t) = .ok t := by
        have hv : t.toList.contains '\x00' = false := hv
        obtain ⟨e, he, hname⟩ := Option.map_eq_some_iff.1 hf
        simp only [acceptEncoding, hv, he]
        rw [← hname]
        rfl
      simp only [accept, HostM.run_ofExcept, hacc]
  | version =>
      have hrank : v.same .empty = false := by
        cases v with
        | empty => exact absurd rfl hv.2
        | numeric _ _ | current | latest => rfl
      have ht : t = v.text := by
        have hw : (.ok (versionText? v) : Except Error (Option String)) = .ok (some t) := hw
        rw [versionText?, hrank] at hw
        cases hw
        rfl
      refine ⟨.text (some t), rfl, ?_⟩
      rw [ht]
      simp only [accept, VersionArgument.resolve, HostM.run_ofExcept, hv.1]
  | texts =>
      cases hw
      refine ⟨.items v, ?_, rfl⟩
      rw [read, textItems, Text.tokenize_joinComma hv]
  | instances role =>
      have ht : v ≠ [] ∧ t = Text.joinComma (v.map fun i => i.ofClass.fullName) := by
        have hw : (.ok (instancesText? v) : Except Error (Option String)) = .ok (some t) := hw
        rw [instancesText?] at hw
        cases v with
        | nil => cases hw
        | cons i rest =>
            cases hw
            exact ⟨by simp, rfl⟩
      obtain ⟨hne, rfl⟩ := ht
      -- the names come back trimmed, which the loader makes no difference of
      have htokens : Text.tokenize (Text.joinComma (v.map fun i => i.ofClass.fullName)) =
          v.map fun i => String.ofList (Text.trim i.ofClass.fullName.toList) := by
        rw [Text.tokenize_joinComma_trim, List.map_map]
        · rfl
        · intro x hx
          obtain ⟨i, hi, rfl⟩ := List.mem_map.1 hx
          exact ⟨(hf i hi).comma, i.ofClass.trim_fullName⟩
      have hblank : Text.isBlankText (Text.joinComma (v.map fun i => i.ofClass.fullName)) =
          false := by
        obtain ⟨i, hi⟩ := List.exists_mem_of_ne_nil v hne
        rw [Bool.eq_false_iff, ne_eq, Text.isBlankText_eq_true]
        intro hall
        have hname : i.ofClass.fullName ∈ v.map fun i => i.ofClass.fullName :=
          List.mem_map_of_mem hi
        have hdot := Text.mem_joinComma hname i.ofClass.dot_mem_fullName
        exact absurd (hall '.' hdot) (by decide)
      refine ⟨.named (textItems _), by rw [read, hblank]; rfl, ?_⟩
      have hall : resolveAll (l.prepare h.modules (some role))
          (v.map fun i => String.ofList (Text.trim i.ofClass.fullName.toList)) = .ok v :=
        resolveAll_map fun i hi => (hf i hi).prepare (hv i hi).1 (hv i hi).2
      obtain ⟨es, hes⟩ := l.instantiateAll_run (some role)
        (v.map fun i => String.ofList (Text.trim i.ofClass.fullName.toList)) h
      show ((l.instantiateAll (some role) (Text.tokenize _)).run h).1 = .ok v
      rw [htokens, hes, hall]

theorem write_storable {k : Kind} {v : k.Value} (hv : k.Storable v) :
    ∃ t, k.write v = .ok t := by
  cases k with
  | counter =>
      refine ⟨some (Text.integerText v), ?_⟩
      show (counterText v).map some = _
      rw [counterText, hv.2]
      rfl
  | _ => exact ⟨_, rfl⟩

/-- A value that is as good as none. -/
def IsUnset : (k : Kind) → k.Value → Prop
  | .optionalText, s => s = none
  | .nonEmptyText, s => s = none
  | .connectionText, s => s = none
  | .instances _, is => is = []
  | _, _ => False

/-- Only a value that is as good as none has no text. -/
theorem write_none {k : Kind} {v : k.Value} (hk : k.isTextual = true) (hv : k.Storable v)
    (hw : k.write v = .ok none) : k.IsUnset v := by
  cases k with
  | patterns | overrides | table | provider | output => cases hk
  | flag | text | requiredText | encoding | texts => cases hw
  | optionalText | nonEmptyText | connectionText => exact Except.ok.inj hw
  | counter =>
      have hw : (counterText v).map some = .ok none := hw
      rw [counterText, hv.2] at hw
      cases hw
  | version =>
      have hw : versionText? v = none := Except.ok.inj hw
      cases v with
      | empty => exact absurd rfl hv.2
      | numeric _ _ | current | latest => cases hw
  | instances role =>
      have hw : instancesText? v = none := Except.ok.inj hw
      cases v with
      | nil => rfl
      | cons i rest => cases hw

end Kind

namespace Setting

theorem initial_of_isUnset {s : Setting} {v : s.Value} (h : s.kind.IsUnset v) : v = s.initial := by
  cases s <;> first | exact h | exact h.elim

theorem isTextual_of_exported : ∀ s ∈ exported, s.kind.isTextual = true := by
  decide

end Setting

/-! ## The whole map -/

namespace Config

variable {edition : Edition} {loader l : ClassLoader} {c c' : Config} {m : PropertyMap} {h : Host}

/-- In a new configuration a setting takes the value that it was written from. -/
theorem outcome_properties (hw : c.WellKept) (hm : c.properties = .ok m) {s : Setting}
    (hs : s ∈ Setting.exported) (hf : s.kind.IsFound l h.modules (c.get s)) :
    (new edition l).outcome h m s = .ok (c.get s) := by
  have htextual := Setting.isTextual_of_exported s hs
  have hv := hw.storable s
  obtain ⟨hkey, hfeature⟩ := Setting.mem_exported.1 hs
  obtain ⟨key, hkey⟩ := Option.isSome_iff_exists.1 hkey
  obtain ⟨t, ht⟩ := Kind.write_storable hv
  cases t with
  | none =>
      rw [outcome_absent (textFor?_properties_absent hm (.inr ht)),
        Setting.initial_of_isUnset (Kind.write_none htextual hv ht)]
      rfl
  | some t =>
      have htext : textFor? m s = some (key, t) := (textFor?_properties hm).2 ⟨hs, hkey, ht⟩
      obtain ⟨a, hr, ha⟩ := Kind.accept_write htextual hv ht key s.name hf
      have harg : argument? m s = .ok (some a) := by
        rw [argument?, htext]
        exact hr
      have hrequire : (new edition l).require s = .ok () := by
        rw [require, hfeature]
      rw [outcome, harg]
      show (new edition l).takes h s a = _
      have hne : s ≠ .dryRunOutput := by
        rintro rfl
        cases hfeature
      rw [takes_eq_accept _ _ hne, hrequire]
      exact ha

theorem placeholdersWith_properties (hw : c.WellKept) (hm : c.properties = .ok m)
    (hc : c'.get .placeholders = PropertyMap.empty) :
    c'.placeholdersWith m = c.get .placeholders := by
  rw [placeholdersWith, Namespace.extract, members_properties hm hw.placeholders, hc]
  exact PropertyMap.ofList_entries _

/-- A configuration that is well kept has a property map. -/
theorem WellKept.properties_ok (hw : c.WellKept) : ∃ m, c.properties = .ok m := by
  obtain ⟨es, hes⟩ : ∃ es, c.entries Setting.exported = .ok es :=
    entries_exist fun s _ => Kind.write_storable (hw.storable s)
  rw [properties, hes]
  exact ⟨_, rfl⟩

/-- The property map of a configuration that passes have led to can be applied to
a new configuration of the lowest edition, which then has all the settings that
need no feature. -/
theorem configure_properties (hc : Configured edition loader c) (l : ClassLoader) (h : Host)
    (hencoding : (Codec.lookup? (c.get .encoding)).map Codec.Entry.name = some (c.get .encoding))
    (hcallbacks : ∀ i ∈ c.get .callbacks, l.Finds h.modules i.ofClass)
    (hresolvers : ∀ i ∈ c.get .resolvers, l.Finds h.modules i.ofClass) :
    ∃ m t, c.properties = .ok m ∧ (configure m).run ⟨new .community l, h⟩ = (.ok (), t) ∧
      ∀ s : Setting, s.feature? = none → t.config.get s = c.get s := by
  have hw := hc.wellKept
  have hfound : ∀ s : Setting, s ∈ Setting.exported → s.kind.IsFound l h.modules (c.get s) := by
    intro s hs
    cases s with
    | encoding => exact hencoding
    | callbacks => exact hcallbacks
    | resolvers => exact hresolvers
    | codeMigrations => exact absurd hs (by decide)
    | _ => trivial
  obtain ⟨m, hm⟩ := hw.properties_ok
  have hnone : (new .community l).firstRefused h m = none := by
    rw [firstRefused, List.find?_eq_none]
    intro s _
    rw [Bool.not_eq_true, refuses_eq_false]
    by_cases hs : s ∈ Setting.exported
    · exact ⟨_, outcome_properties hw hm hs (hfound s hs)⟩
    · exact ⟨_, outcome_absent (textFor?_properties_absent hm (.inl hs))⟩
  obtain ⟨c', h', hr, ht, -⟩ := apply_accepted propertyRoot hnone
  have hverdict : verdict m propertyRoot = .ok () :=
    verdict_eq_ok fun k hk _ => isKnownKey_properties hm hw.placeholders hk
  refine ⟨m, ⟨c'.concluded m, h'⟩, hm, hr.trans (by rw [hverdict]), fun s hs => ?_⟩
  by_cases hp : s = .placeholders
  · subst hp
    rw [concluded_get, withNamespaces_placeholders]
    exact placeholdersWith_properties hw hm (ht.kept .placeholders (by decide))
  · have hj : s ≠ .jdbcProperties := by
      rintro rfl
      cases hs
    rw [concluded_get, withNamespaces_get_of_ne _ _ hp hj]
    cases hk : s.key? with
    -- a setting without a key was never read from a property, on either side
    | none =>
        have hnot : s ∉ Setting.applied := by
          rw [Setting.mem_applied, hk]
          simp
        rw [ht.kept s hnot, hw.untouched s hk hp hj]
        rfl
    | some key =>
        have hexp : s ∈ Setting.exported := Setting.mem_exported.2 ⟨by rw [hk]; rfl, hs⟩
        have htook := ht.took s (Setting.mem_applied_of_exported hexp)
        rw [outcome_properties hw hm hexp (hfound s hexp)] at htook
        exact (Except.ok.inj htook).symm

/-- A configuration with a callback, read back with the class at hand. -/
theorem configure_properties_callback :
    ∃ (k : ClassInfo) (h : Host) (c : Config),
      Configured .teams ⟨0, none⟩ c ∧ c.get .callbacks = [⟨k⟩] ∧
        ∃ m t, c.properties = .ok m ∧
          (configure m).run ⟨new .community ⟨1, none⟩, h⟩ = (.ok (), t) ∧
            ∀ s : Setting, s.feature? = none → t.config.get s = c.get s := by
  let k : ClassInfo := ⟨"m", "C", [.callback], none, "C", none, true, none, "", "C"⟩
  let h : Host := { Host.bare with modules := [⟨"m", false, none, [("C", .ofClass k)]⟩] }
  let c : Config :=
    ((apply (.ofList [("flyway.callbacks", "m.C")]) propertyRoot).run
      ⟨new .teams ⟨0, none⟩, h⟩).2.config
  have hc : Configured .teams ⟨0, none⟩ c := .pass .new h _ propertyRoot
  have hcallbacks : c.get .callbacks = [⟨k⟩] := by decide +kernel
  have hresolvers : c.get .resolvers = [] := by decide +kernel
  have hload : (ClassLoader.load ⟨1, none⟩ h.modules k.fullName).toOption = some k := by
    decide +kernel
  have hfinds : ClassLoader.Finds ⟨1, none⟩ h.modules k := by
    refine ⟨by decide, ?_⟩
    cases hl : ClassLoader.load ⟨1, none⟩ h.modules k.fullName with
    | error e => rw [hl] at hload; cases hload
    | ok k' => rw [hl] at hload; exact congrArg Except.ok (Option.some.inj hload)
  refine ⟨k, h, c, hc, hcallbacks, configure_properties hc ⟨1, none⟩ h ?_ ?_ ?_⟩
  · decide +kernel
  · intro i hi
    rw [hcallbacks, List.mem_singleton] at hi
    rw [hi]
    exact hfinds
  · intro i hi
    rw [hresolvers] at hi
    cases hi

end Config

end MigrationConfig
