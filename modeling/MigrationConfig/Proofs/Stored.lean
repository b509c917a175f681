/-
# What configurations hold

A value that a setting took from a text is more than a value of its kind: a
counter is not negative, a list has tokens only, a version can be read from its
own text.  `Kind.Storable` says what each kind adds.  New configurations have only
storable values, and a pass, wherever it ends, keeps it so; hence every
configuration that passes can lead to is of this sort (`Configured.wellKept`).
-/
import MigrationConfig.Proofs.Checked
import MigrationConfig.Proofs.Configure
import MigrationConfig.Proofs.VersionText

namespace MigrationConfig

/-! ## Values of a kind -/

/-- What a setting of a kind can hold after a text was accepted for it. -/
def Kind.Storable : (k : Kind) → k.Value → Prop
  | .counter, n => 0 ≤ n ∧ Scalar.isTooLong (.number n) = false
  | .requiredText, s => s ≠ ""
  | .nonEmptyText, s => s ≠ some ""
  | .encoding, s => s.toList.contains '\x00' = false
  | .version, v => Version.parse (some v.text) = .ok v ∧ v ≠ .empty
  | .texts, xs => ∀ x ∈ xs, Text.IsToken x
  | .instances role, is => ∀ i ∈ is, i.ofClass.plays role = true ∧ i.ofClass.obstacle = none
  | _, _ => True

namespace Kind

theorem acceptEncoding_ok {name : Option String} {s : String} (h : acceptEncoding name = .ok s) :
    s.toList.contains '\x00' = false := by
  obtain ⟨n, e, -, -, he, rfl⟩ := acceptEncoding_eq_ok.1 h
  exact Codec.registry_names e (Codec.mem_registry_of_lookup? he)

theorem acceptCounter_number {field : String} {n v : Int}
    (h : acceptCounter field (.number n) = .ok v) : v = n ∧ 0 ≤ n := by
  unfold acceptCounter Document.number at h
  simp only at h
  split at h
  · next hn => exact ⟨(Except.ok.inj h).symm, hn⟩
  · split at h <;> cases h

end Kind

/-- What comes of the text of a property can be stored. -/
theorem Kind.accept_storable {k : Kind} {key raw field : String} {a : k.Argument}
    {loader : ClassLoader} {h : Host} {v : k.Value} (hr : k.read key raw = .ok (some a))
    (ha : ((k.accept field loader a).run h).1 = .ok v) : k.Storable v := by
  cases k with
  | flag | text | optionalText | connectionText | patterns | overrides | table | provider
      | output =>
      trivial
  | counter =>
      unfold read at hr
      cases hi : Coercion.integer key raw with
      | error e => rw [hi] at hr; cases hr
      | ok n =>
          rw [hi] at hr
          cases hr
          have hv : acceptCounter field (.number n) = .ok v := by
            simpa only [accept, HostM.run_ofExcept] using ha
          obtain ⟨rfl, hn⟩ := acceptCounter_number hv
          exact ⟨hn, Coercion.integer_short hi⟩
  | requiredText =>
      have hv : acceptRequired field a = .ok v := by
        simpa only [accept, HostM.run_ofExcept] using ha
      exact (acceptRequired_ok hv).1
  | nonEmptyText =>
      cases ha
      exact nonEmpty?_ne a
  | encoding =>
      have hv : acceptEncoding a = .ok v := by
        simpa only [accept, HostM.run_ofExcept] using ha
      exact acceptEncoding_ok hv
  | version =>
      cases hr
      have hv : Version.parse (some raw) = .ok v := by
        simpa only [accept, VersionArgument.resolve, HostM.run_ofExcept] using ha
      exact Version.parse_text hv
  | texts =>
      cases hr
      cases ha
      exact fun x => Text.tokenize_isToken
  | instances role =>
      have hif : (if Text.isBlankText raw then .ok none else .ok (some (.named (textItems raw)))) =
          (.ok (some a) : Except Error (Option InstancesArgument)) := hr
      split at hif
      · cases hif
      · cases hif
        obtain ⟨es, hes⟩ := loader.instantiateAll_run (some role) (Text.tokenize raw) h
        have hrun : ((loader.instantiateAll (some role) (Text.tokenize raw)).run h).1 = .ok v := ha
        rw [hes] at hrun
        exact resolveAll_forall prepare_ok hrun

/-! ## Configurations -/

namespace Config

/-- What every configuration is like that passes lead to. -/
structure WellKept (c : Config) : Prop where
  storable : ∀ s : Setting, s.kind.Storable (c.get s)
  placeholders : ∀ n ∈ PropertyMap.keys (c.get .placeholders), n ≠ ""
  /-- settings that no property is read into -/
  untouched : ∀ s : Setting, s.key? = none → s ≠ .placeholders → s ≠ .jdbcProperties →
    c.get s = s.initial

/-- The configurations that passes lead to, from a new one of an edition; a pass
may fail, and may meet another host than the one before. -/
inductive Configured (edition : Edition) (loader : ClassLoader) : Config → Prop
  | new : Configured edition loader (.new edition loader)
  | pass {c : Config} (hc : Configured edition loader c) (h : Host) (m : PropertyMap)
      (root : String) : Configured edition loader ((apply m root).run ⟨c, h⟩).2.config

theorem initial_storable (s : Setting) : s.kind.Storable s.initial := by
  have short : ∀ n : Int, n.natAbs < 10 ^ 2 → Scalar.isTooLong (.number n) = false := by
    intro n hn
    exact Scalar.isTooLong_number.2 (hn.trans_le (Nat.pow_le_pow_right (by decide) (by decide)))
  have token : ∀ t : String, Text.trim t.toList = t.toList → t ≠ "" → ',' ∉ t.toList →
      ∀ x ∈ [t], Text.IsToken x := by
    intro t h₁ h₂ h₃ x hx
    rw [List.mem_singleton.1 hx]
    exact ⟨h₁, h₂, h₃⟩
  cases s with
  | connectRetries | lockRetryCount => exact ⟨by decide, short _ (by decide)⟩
  | locations | sqlMigrationSuffixes => exact token _ (by decide) (by decide) (by decide)
  | placeholderPrefix | placeholderSuffix | sqlMigrationSeparator =>
      show (_ : String) ≠ ""
      decide
  | installedBy =>
      show (none : Option String) ≠ some ""
      simp
  | encoding =>
      show "utf-8".toList.contains '\x00' = false
      decide
  | target | baselineVersion => exact ⟨rfl, by decide⟩
  | schemas | vaultSecrets | codeMigrations | callbacks | resolvers =>
      intro x hx
      cases hx
  | _ => trivial

theorem new_wellKept (edition : Edition) (loader : ClassLoader) :
    (new edition loader).WellKept where
  storable := initial_storable
  placeholders n hn := by cases hn
  untouched _ _ _ _ := rfl

section Pass

variable {c c' : Config} {h : Host} {m : PropertyMap}

/-- A setting that could be stored can be stored after its outcome. -/
theorem outcome_storable {s : Setting} {v : s.Value} (hc : s.kind.Storable (c.get s))
    (ho : c.outcome h m s = .ok v) : s.kind.Storable v := by
  unfold outcome at ho
  cases ha : argument? m s with
  | error e => rw [ha] at ho; cases ho
  | ok o =>
      rw [ha] at ho
      cases o with
      | none => cases ho; exact hc
      | some a =>
          have ho : c.takes h s a = .ok v := ho
          cases htext : textFor? m s with
          | none => rw [argument?_absent htext] at ha; cases ha
          | some e =>
              have hr : s.kind.read e.1 e.2 = .ok (some a) := by
                rw [argument?, htext] at ha
                exact ha
              exact Kind.accept_storable hr (accept_of_takes ho).2

/-- Settings that took their outcomes hold what can be stored. -/
theorem TookOutcomes.storable {ss : List Setting} (ht : c.TookOutcomes h m ss c')
    (hc : ∀ s : Setting, s.kind.Storable (c.get s)) (s : Setting) :
    s.kind.Storable (c'.get s) := by
  by_cases hs : s ∈ ss
  · exact outcome_storable (hc s) (ht.took s hs)
  · rw [ht.kept s hs]
    exact hc s

theorem TookOutcomes.wellKept {ss : List Setting} (ht : c.TookOutcomes h m ss c')
    (hss : ss ⊆ Setting.applied) (hc : c.WellKept) : c'.WellKept where
  storable := ht.storable hc.storable
  placeholders := by
    have hp : .placeholders ∉ ss := fun hp => absurd (hss hp) (by decide)
    rw [ht.kept _ hp]
    exact hc.placeholders
  untouched s hk hp hj := by
    have hs : s ∉ ss := by
      intro hs
      have hsome := Setting.mem_applied.1 (hss hs)
      rw [hk] at hsome
      cases hsome
    rw [ht.kept s hs]
    exact hc.untouched s hk hp hj

/-- The names that a pass lays over the placeholders are not empty. -/
theorem concluded_wellKept (hc : c.WellKept) : (c.concluded m).WellKept where
  storable s := by
    by_cases hp : s = .placeholders
    · subst hp
      trivial
    · by_cases hj : s = .jdbcProperties
      · subst hj
        trivial
      · rw [concluded_get, withNamespaces_get_of_ne _ _ hp hj]
        exact hc.storable s
  placeholders := by
    rintro _ hn rfl
    rw [concluded_get, withNamespaces_placeholders, PropertyMap.mem_keys,
      get?_placeholdersWith, if_pos rfl, Option.none_or, ← PropertyMap.mem_keys] at hn
    exact hc.placeholders "" hn rfl
  untouched s hk hp hj := by
    rw [concluded_get, withNamespaces_get_of_ne _ _ hp hj]
    exact hc.untouched s hk hp hj

/-- A pass keeps a configuration well kept, wherever it ends. -/
theorem apply_wellKept (root : String) (hc : c.WellKept) :
    ((apply m root).run ⟨c, h⟩).2.config.WellKept := by
  cases hf : c.firstRefused h m with
  | some f =>
      obtain ⟨e, t, hr, -, ht⟩ := apply_refused root hf
      rw [hr]
      exact ht.wellKept (List.takeWhile_sublist _).subset hc
  | none =>
      obtain ⟨c', h', hr, ht, -⟩ := apply_accepted root hf
      rw [hr]
      exact concluded_wellKept (ht.wellKept (List.Subset.refl _) hc)

end Pass

theorem Configured.wellKept {edition : Edition} {loader : ClassLoader} {c : Config}
    (hc : Configured edition loader c) : c.WellKept := by
  induction hc with
  | new => exact new_wellKept edition loader
  | pass _ h m root ih => exact apply_wellKept root ih

end Config

end MigrationConfig
