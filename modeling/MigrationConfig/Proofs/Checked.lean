/-
# Values that pass their own check

What a setting holds was accepted at some time, as an argument of any form.  This
module says what is known of it from then on (`Kind.Checked`), and that it is enough
to be accepted again in the form in which a copy offers it (`accept_offer`): no
check refuses what an earlier one has let through, and none makes another value of
it.  The one thing that is lost on the way is the path of a dry-run output.
-/
import MigrationConfig.Proofs.Accept
import MigrationConfig.Proofs.Encodings

namespace MigrationConfig

/-! ## Items of a list -/

theorem resolveAll_forall {α β : Type} {resolve : α → Except Error β} {P : β → Prop}
    (hP : ∀ {a b}, resolve a = .ok b → P b) :
    ∀ {xs : List α} {ys : List β}, resolveAll resolve xs = .ok ys → ∀ y ∈ ys, P y := by
  intro xs
  induction xs with
  | nil =>
      intro ys h y hy
      cases h
      cases hy
  | cons x rest ih =>
      intro ys h y hy
      unfold resolveAll at h
      split at h
      · cases h
      · next b hb =>
          split at h
          · cases h
          · next bs hbs =>
              cases h
              rcases List.mem_cons.1 hy with rfl | hy
              · exact hP hb
              · exact ih hbs y hy

theorem resolveAll_map {α β : Type} {resolve : α → Except Error β} {f : β → α} {ys : List β}
    (h : ∀ y ∈ ys, resolve (f y) = .ok y) : resolveAll resolve (ys.map f) = .ok ys := by
  induction ys with
  | nil => rfl
  | cons y rest ih =>
      rw [List.map_cons, resolveAll, h y (by simp), ih fun z hz => h z (List.mem_cons_of_mem _ hz)]

theorem Candidate.check_object {field : String} {role : Interface} {i : Instance}
    (hi : i.ofClass.plays role = true) : (object i).check field role = .ok i := by
  unfold check playing?
  simp only [hi, if_true]

theorem Candidate.check_ok {field : String} {role : Interface} {c : Candidate} {i : Instance}
    (h : c.check field role = .ok i) : i.ofClass.plays role = true := by
  cases c with
  | other d => cases h
  | object j =>
      cases hj : j.ofClass.plays role with
      | true =>
          rw [check_object hj] at h
          cases h
          exact hj
      | false =>
          unfold check playing? at h
          simp only [hj, Bool.false_eq_true, if_false] at h
          cases h

namespace Kind

/-! ## What a check lets through -/

/-- What a setting of a kind can hold, whatever it was given. -/
def Checked : (k : Kind) → k.Value → Prop
  | .counter, n => 0 ≤ n
  | .requiredText, s => s ≠ ""
  | .nonEmptyText, s => s ≠ some ""
  | .encoding, s => acceptEncoding (some s) = .ok s
  | .instances role, is => ∀ i ∈ is, i.ofClass.plays role = true
  | _, _ => True

theorem acceptCounter_ok {field : String} {d : Document} {n : Int}
    (h : acceptCounter field d = .ok n) : 0 ≤ n := by
  unfold acceptCounter at h
  split at h
  · split at h
    · next hn =>
        cases h
        exact hn
    · split at h <;> cases h
  · cases h

theorem acceptRequired_ok {field t : String} {s : Option String}
    (h : acceptRequired field s = .ok t) : t ≠ "" ∧ s = some t := by
  unfold acceptRequired Descriptor.nonEmpty? at h
  cases s with
  | none => cases h
  | some u =>
      by_cases hu : u.isEmpty
      · simp [hu] at h
      · simp only [hu] at h
        cases h
        exact ⟨by simpa [String.isEmpty_iff] using hu, rfl⟩

theorem nonEmpty?_ne (s : Option String) : Descriptor.nonEmpty? s ≠ some "" := by
  unfold Descriptor.nonEmpty?
  cases s with
  | none => simp
  | some t =>
      by_cases ht : t.isEmpty
      · simp [ht]
      · simp only [ht]
        intro h
        cases h
        exact ht rfl

/-- What was prepared for a role plays it, and nothing stood in its way. -/
theorem prepare_ok {l : ClassLoader} {ms : Modules} {role : Interface} {name : String}
    {i : Instance} (h : l.prepare ms (some role) name = .ok i) :
    i.ofClass.plays role = true ∧ i.ofClass.obstacle = none := by
  have construct_ok : ∀ {c : ClassInfo}, ClassLoader.construct name c = .ok i →
      i.ofClass = c ∧ c.obstacle = none := by
    intro c hc
    unfold ClassLoader.construct at hc
    split at hc
    · cases hc
    · next ho =>
        cases hc
        exact ⟨rfl, ho⟩
  unfold ClassLoader.prepare at h
  split at h
  · cases h
  · next c _ =>
      simp only at h
      split at h
      · next hp =>
          obtain ⟨rfl, ho⟩ := construct_ok h
          exact ⟨hp, ho⟩
      · cases h

theorem acceptInstances_ok {field : String} {role : Interface} {loader : ClassLoader}
    {a : InstancesArgument} {h : Host} {is : List Instance}
    (ha : ((acceptInstances field role loader a).run h).1 = .ok is) :
    ∀ i ∈ is, i.ofClass.plays role = true := by
  cases a with
  | given xs =>
      obtain ⟨candidates, h', -, hall⟩ := HostM.bind_eq_ok ha
      rw [HostM.run_ofExcept] at hall
      exact resolveAll_forall Candidate.check_ok hall
  | named names =>
      obtain ⟨ns, h', -, hall⟩ := HostM.bind_eq_ok ha
      obtain ⟨es, hes⟩ := loader.instantiateAll_run (some role) ns h'
      rw [hes] at hall
      exact resolveAll_forall (fun hi => (prepare_ok hi).1) hall

/-- What was accepted is checked, whatever was given. -/
theorem accept_checked {k : Kind} {field : String} {loader : ClassLoader} {a : k.Argument}
    {h : Host} {v : k.Value} (ha : ((k.accept field loader a).run h).1 = .ok v) :
    k.Checked v := by
  cases k with
  | flag | text | optionalText | connectionText | version | texts | patterns | overrides | table
      | provider | output =>
      trivial
  | counter =>
      have hv : acceptCounter field a = .ok v := by
        simpa only [accept, HostM.run_ofExcept] using ha
      exact acceptCounter_ok hv
  | requiredText =>
      have hv : acceptRequired field a = .ok v := by
        simpa only [accept, HostM.run_ofExcept] using ha
      exact (acceptRequired_ok hv).1
  | nonEmptyText =>
      cases ha
      exact nonEmpty?_ne a
  | encoding =>
      have hv : acceptEncoding a = .ok v := by
        simpa only [accept, HostM.run_ofExcept] using ha
      exact acceptEncoding_again hv
  | instances role => exact acceptInstances_ok ha

/-! ## What is offered to a copy -/

/-- What a copy takes over of a value: all of it, but of a sink the stream
alone. -/
def carried : (k : Kind) → k.Value → k.Value
  | .output, o => o.map fun sink => ⟨sink.stream, none⟩
  | _, v => v

theorem carried_of_ne {k : Kind} (hk : k ≠ .output) (v : k.Value) : k.carried v = v := by
  cases k with
  | output => exact absurd rfl hk
  | _ => rfl

theorem carried_checked {k : Kind} {v : k.Value} (hv : k.Checked v) : k.Checked (k.carried v) := by
  by_cases hk : k = .output
  · subst hk
    trivial
  · rw [carried_of_ne hk]
    exact hv

theorem nonEmpty?_eq_self {s : Option String} (hs : s ≠ some "") : Descriptor.nonEmpty? s = s := by
  unfold Descriptor.nonEmpty?
  cases s with
  | none => rfl
  | some t =>
      have ht : t.isEmpty = false := by
        simpa [String.isEmpty_iff] using hs
      simp [ht]

/-- A value that passes its own check is accepted in the form that is offered, and
the host has no part in it. -/
theorem accept_offer {k : Kind} {v : k.Value} (hv : k.Checked v) (field : String)
    (loader : ClassLoader) (h : Host) :
    (k.accept field loader (k.offer v)).run h = (.ok (k.carried v), h) := by
  cases k with
  | flag | text | optionalText | connectionText | version | texts | table | provider => rfl
  | output => cases v <;> rfl
  | counter =>
      have hacc : acceptCounter field (.number v) = .ok v := if_pos hv
      show (HostM.ofExcept (acceptCounter field (.number v))).run h = _
      rw [HostM.run_ofExcept, hacc]
      rfl
  | requiredText =>
      have hacc : acceptRequired field (some v) = .ok v := by
        have hne : (some v : Option String) ≠ some "" := fun h => hv (Option.some.inj h)
        rw [acceptRequired, nonEmpty?_eq_self hne]
      show (HostM.ofExcept (acceptRequired field (some v))).run h = _
      rw [HostM.run_ofExcept, hacc]
      rfl
  | nonEmptyText =>
      show ((.ok (Descriptor.nonEmpty? v), h) : Except Error (Option String) × Host) = _
      rw [nonEmpty?_eq_self hv]
      rfl
  | encoding =>
      show (HostM.ofExcept (acceptEncoding (some v))).run h = _
      rw [HostM.run_ofExcept, show acceptEncoding (some v) = .ok v from hv]
      rfl
  | patterns =>
      have hall : resolveAll PatternItem.resolve (v.map PatternItem.given) = .ok v :=
        resolveAll_map fun _ _ => rfl
      show (HostM.ofExcept (resolveAll PatternItem.resolve (v.map PatternItem.given))).run h = _
      rw [HostM.run_ofExcept, hall]
      rfl
  | overrides =>
      have hall : resolveAll OverrideItem.resolve (v.map OverrideItem.given) = .ok v :=
        resolveAll_map fun _ _ => rfl
      show (HostM.ofExcept (resolveAll OverrideItem.resolve (v.map OverrideItem.given))).run h = _
      rw [HostM.run_ofExcept, hall]
      rfl
  | instances role =>
      have hall : resolveAll (Candidate.check field role) (v.map Candidate.object) = .ok v :=
        resolveAll_map fun i hi => Candidate.check_object (hv i hi)
      show (HostM.ofExcept (resolveAll (Candidate.check field role)
        (v.map Candidate.object))).run h = _
      rw [HostM.run_ofExcept, hall]
      rfl

end Kind

/-- New configurations hold what passes its own check. -/
theorem Setting.initial_checked (s : Setting) : s.kind.Checked s.initial := by
  cases s with
  | connectRetries | lockRetryCount =>
      show (0 : Int) ≤ _
      decide
  | placeholderPrefix | placeholderSuffix | sqlMigrationSeparator =>
      show (_ : String) ≠ ""
      decide
  | installedBy =>
      show (none : Option String) ≠ some ""
      simp
  | encoding =>
      have hmem : ∃ e ∈ Codec.registry, e.name = "utf-8" := by decide +kernel
      obtain ⟨e, he, hname⟩ := hmem
      show Kind.acceptEncoding (some "utf-8") = .ok "utf-8"
      rw [← hname]
      exact Kind.acceptEncoding_registry he
  | codeMigrations | callbacks | resolvers =>
      intro i hi
      cases hi
  | _ => trivial

end MigrationConfig
