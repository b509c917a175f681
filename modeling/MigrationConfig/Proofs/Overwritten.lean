/-
# The run of a copy

A copy first puts the descriptor of its source in the place of the connection
settings, then takes over the other settings one by one, and last writes the URL,
the user and the password of the source over.

What the settings of a configuration hold has passed their own checks
(`checked_invariant`), so the checks of the destination let it through.  The one thing
that can go wrong is that the destination gives up a file of its own that cannot be
closed (`Situation.releasing`).  Short of that a copy from another configuration returns,
and where it ends can be computed (`copyFrom_other_run`).  `Overwrites` says what is found
there.  The driver is not among what comes along.
-/
import MigrationConfig.Proofs.Change
import MigrationConfig.Proofs.Checked
import MigrationConfig.Proofs.Invariant

namespace MigrationConfig

namespace Config

/-! ## What configurations hold -/

/-- Every setting holds what passes its own check. -/
def Checked (c : Config) : Prop := ∀ s : Setting, s.kind.Checked (c.get s)

theorem checked_of_connection {s : Setting} (hs : s ∈ connectionSettings) (v : s.Value) :
    s.kind.Checked v := by
  simp only [connectionSettings, List.mem_cons, List.not_mem_nil, or_false] at hs
  rcases hs with rfl | rfl | rfl | rfl <;> trivial

theorem checked_invariant : Invariant Checked where
  initial _ _ := Setting.initial_checked
  preserved k c c' h h' hc hr := by
    intro s
    by_cases hs : s ∈ connectionSettings
    · exact checked_of_connection hs _
    cases perform_cases hr with
    | @assigned _ t a v _ hv =>
        by_cases hts : t = s
        · subst hts
          rw [assigned_get_same]
          exact Kind.accept_checked (accept_of_takes hv).2
        · rw [assigned_get_of_ne c v hts]
          exact hc s
    | described d =>
        rw [withDescriptor_get_of_ne c d hs]
        exact hc s
    | connected url user password =>
        show s.kind.Checked ((c.withIdentity url user password).get s)
        rw [withIdentity_get_of_not_mem _ _ _ _ hs]
        exact hc s
    | derived p => exact hc s
    | identified url user password =>
        rw [withIdentity_get_of_not_mem _ _ _ _ hs]
        exact hc s

/-! ## The parts of a copy -/

/-- What a copy reads from, for a configuration that it is made into. -/
def Source.of (d : Config) : Source → Config
  | itself => d
  | other c => c

theorem Source.read_run (source : Source) (t : Situation) :
    source.read.run t = (.ok (source.of t.config), t) := by
  cases source <;> rfl

/-- After the settings, a copy ends with the URL, the user and the password of the
source as it is by then. -/
theorem copyFrom_run (source : Source) (t : Situation) :
    (copyFrom source).run t =
      match (copySettings source copied).run
          ⟨t.config.withDescriptor (source.of t.config).descriptor, t.host⟩ with
      | (.ok _, t') =>
          let c := source.of t'.config
          (.ok (), ⟨t'.config.withIdentity (c.get .url) (c.get .user) (c.get .password), t'.host⟩)
      | (.error e, t') => (.error e, t') := by
  unfold copyFrom
  rw [Procedure.run_bind_ok (source.read_run t),
    Procedure.run_bind_ok (Procedure.run_change_ok rfl)]
  rcases hr : (copySettings source copied).run
      ⟨t.config.withDescriptor (source.of t.config).descriptor, t.host⟩ with ⟨r, t'⟩
  cases r with
  | error e => exact Procedure.run_bind_error hr
  | ok u =>
      rw [Procedure.run_bind_ok hr, Procedure.run_bind_ok (source.read_run t')]
      rfl

theorem mem_copied {s : Setting} : s ∈ copied ↔ s ∉ connectionSettings := by
  cases s <;> decide

end Config

/-! ## A copy from another configuration -/

section Other

open Config

variable {c : Config}

/-- The situation after a setting was copied from `c`. -/
def Situation.took (c : Config) (t : Situation) (s : Setting) : Situation :=
  if t.config.allows s then
    ⟨t.config.put s (s.kind.carried (c.get s)),
      t.host.closeReplaced (t.config.get .dryRunOutput)
        ((t.config.put s (s.kind.carried (c.get s))).get .dryRunOutput)⟩
  else t

/-- Whether what a setting gives up when it is copied from `c` can be closed. -/
def Situation.releasing (c : Config) (t : Situation) (s : Setting) : Except Error Unit :=
  if t.config.allows s then
    t.host.closing (t.config.get .dryRunOutput)
      ((t.config.put s (s.kind.carried (c.get s))).get .dryRunOutput)
  else .ok ()

/-- The situation that a copy from `c` ends in. -/
def Situation.overwritten (t : Situation) (c : Config) : Situation :=
  let t' := copied.foldl (took c) ⟨t.config.withDescriptor c.descriptor, t.host⟩
  ⟨t'.config.withIdentity (c.get .url) (c.get .user) (c.get .password), t'.host⟩

namespace Config

/-- A setting is copied from whatever its source is at that time. -/
theorem copySetting_run (source : Source) {t : Situation}
    (hc : (source.of t.config).Checked) {s : Setting} (hs : s ∈ copied) :
    (copySetting source s).run t =
      match t.releasing (source.of t.config) s with
      | .ok _ => (.ok (), t.took (source.of t.config) s)
      | .error e => (.error e, ⟨t.config, (t.took (source.of t.config) s).host⟩) := by
  unfold copySetting
  rw [Procedure.run_bind_ok (Procedure.run_config t), Situation.releasing, Situation.took]
  cases hallows : t.config.allows s with
  | false => rfl
  | true =>
      have hkind : (s.kind == .connectionText) = false := by
        rw [beq_eq_false_iff_ne, ne_eq, Setting.kind_eq_connectionText]
        exact mem_copied.1 hs
      have hassigned : t.config.assigned s (s.kind.carried ((source.of t.config).get s)) =
          t.config.put s (s.kind.carried ((source.of t.config).get s)) := by
        rw [assigned, hkind, if_neg Bool.false_ne_true]
      have hassign := t.config.assign_run_steps s (s.kind.offer ((source.of t.config).get s)) t.host
      rw [require_eq_ok.2 hallows, Kind.accept_offer (hc s) s.name t.config.loader t.host]
        at hassign
      dsimp only at hassign
      rw [hassigned] at hassign
      simp only [if_true]
      rw [Procedure.run_bind_ok (source.read_run t), Procedure.run_change, hassign]
      cases t.host.closing (t.config.get .dryRunOutput)
        ((t.config.put s (s.kind.carried ((source.of t.config).get s))).get .dryRunOutput) <;> rfl

/-- Only the output gives something up. -/
theorem releasing_of_ne (c : Config) (t : Situation) {s : Setting} (hs : s ≠ .dryRunOutput) :
    t.releasing c s = .ok () := by
  unfold Situation.releasing
  split
  · exact (t.host.closing_of_givenUp? (t.config.givenUp?_put hs _)).1
  · rfl

/-- A setting that is taken elsewhere leaves to the output what it gives up. -/
theorem releasing_took (c : Config) (t : Situation) {s : Setting} (hs : s ≠ .dryRunOutput) :
    (t.took c s).releasing c .dryRunOutput = t.releasing c .dryRunOutput := by
  have hhost : (t.took c s).host = t.host := by
    unfold Situation.took
    split
    · exact (t.host.closing_of_givenUp? (t.config.givenUp?_put hs _)).2
    · rfl
  have houtput : (t.took c s).config.get .dryRunOutput = t.config.get .dryRunOutput := by
    unfold Situation.took
    split
    · exact get_put_of_ne _ _ hs
    · rfl
  have hallows : (t.took c s).config.allows .dryRunOutput = t.config.allows .dryRunOutput := by
    refine allows_congr ?_ _
    unfold Situation.took
    split <;> rfl
  unfold Situation.releasing
  rw [hhost, houtput, hallows, get_put_same, get_put_same]

theorem copySettings_run (hc : c.Checked) :
    ∀ {ss : List Setting}, ss ⊆ copied → ss.Nodup → ∀ {t : Situation},
      (.dryRunOutput ∈ ss → t.releasing c .dryRunOutput = .ok ()) →
      (copySettings (.other c) ss).run t = (.ok (), ss.foldl (Situation.took c) t) := by
  intro ss
  induction ss with
  | nil =>
      intro _ _ t _
      rfl
  | cons s rest ih =>
      intro hss hnd t hreleasing
      obtain ⟨hnew, hnd⟩ := List.nodup_cons.1 hnd
      have hfirst : t.releasing c s = .ok () := by
        by_cases hs : s = .dryRunOutput
        · subst hs
          exact hreleasing (List.mem_cons_self ..)
        · exact releasing_of_ne c t hs
      have hs := copySetting_run (.other c) (t := t) hc (hss (List.mem_cons_self ..))
      simp only [Source.of, hfirst] at hs
      rw [List.foldl_cons, ← ih (fun x hx => hss (List.mem_cons_of_mem _ hx)) hnd]
      · exact Procedure.run_bind_ok hs
      · intro hmem
        have hne : s ≠ .dryRunOutput := fun he => hnew (he ▸ hmem)
        rw [releasing_took c t hne]
        exact hreleasing (List.mem_cons_of_mem _ hmem)

theorem copySettings_error (hc : c.Checked) {e : Error} :
    ∀ {ss : List Setting}, ss ⊆ copied → .dryRunOutput ∈ ss → ∀ {t : Situation},
      t.releasing c .dryRunOutput = .error e →
      ((copySettings (.other c) ss).run t).1 = .error e := by
  intro ss
  induction ss with
  | nil =>
      intro _ hmem
      cases hmem
  | cons s rest ih =>
      intro hss hmem t hreleasing
      have hs := copySetting_run (.other c) (t := t) hc (hss (List.mem_cons_self ..))
      unfold copySettings
      by_cases hs' : s = .dryRunOutput
      · subst hs'
        simp only [Source.of, hreleasing] at hs
        rw [Procedure.run_bind_error hs]
      · simp only [Source.of, releasing_of_ne c t hs'] at hs
        rw [Procedure.run_bind_ok hs]
        refine ih (fun x hx => hss (List.mem_cons_of_mem _ hx)) ?_ ?_
        · exact (List.mem_cons.1 hmem).resolve_left (Ne.symm hs')
        · rw [releasing_took c t hs']
          exact hreleasing

/-- The descriptor that a copy begins with changes nothing about the output. -/
theorem releasing_withDescriptor (c : Config) (t : Situation) (d : Option Descriptor) :
    Situation.releasing c ⟨t.config.withDescriptor d, t.host⟩ .dryRunOutput =
      t.releasing c .dryRunOutput := by
  have hallows : (t.config.withDescriptor d).allows .dryRunOutput =
      t.config.allows .dryRunOutput := allows_congr rfl _
  unfold Situation.releasing
  rw [get_put_same, get_put_same, withDescriptor_get_of_ne _ _ (by decide), hallows]

/-- A copy from another configuration does not fail, if what is given up can be closed. -/
theorem copyFrom_other_run (hc : c.Checked) {t : Situation}
    (hreleasing : t.releasing c .dryRunOutput = .ok ()) :
    (copyFrom (.other c)).run t = (.ok (), t.overwritten c) := by
  rw [copyFrom_run]
  simp only [Source.of]
  rw [copySettings_run hc (List.Subset.refl _) (by decide) fun _ =>
    (releasing_withDescriptor c t _).trans hreleasing]
  rfl

theorem copyFrom_other_error (hc : c.Checked) {t : Situation} {e : Error}
    (hreleasing : t.releasing c .dryRunOutput = .error e) :
    ((copyFrom (.other c)).run t).1 = .error e := by
  have hsettings := copySettings_error hc (List.Subset.refl copied) (by decide)
    ((releasing_withDescriptor c t c.descriptor).trans hreleasing)
  rw [copyFrom_run]
  simp only [Source.of]
  rcases hr : (copySettings (.other c) copied).run ⟨t.config.withDescriptor c.descriptor, t.host⟩
    with ⟨r, t'⟩
  rw [hr] at hsettings
  obtain rfl : r = .error e := hsettings
  rfl

/-! ## What is found after a copy -/

theorem took_frame (c : Config) (t : Situation) (s : Setting) :
    (t.took c s).config.edition = t.config.edition ∧
      (t.took c s).config.loader = t.config.loader ∧
        (t.took c s).config.descriptor = t.config.descriptor := by
  unfold Situation.took
  split <;> exact ⟨rfl, rfl, rfl⟩

theorem took_get_same (c : Config) (t : Situation) (s : Setting) :
    (t.took c s).config.get s =
      if t.config.allows s then s.kind.carried (c.get s) else t.config.get s := by
  unfold Situation.took
  split
  · exact get_put_same _ s _
  · rfl

theorem took_get_of_ne (c : Config) (t : Situation) {s u : Setting} (h : s ≠ u) :
    (t.took c s).config.get u = t.config.get u := by
  unfold Situation.took
  split
  · exact get_put_of_ne _ _ h
  · rfl

theorem took_checked {t : Situation} (hc : c.Checked) (ht : t.config.Checked) (s : Setting) :
    (t.took c s).config.Checked := by
  intro u
  by_cases hs : s = u
  · subst hs
    rw [took_get_same]
    split
    · exact Kind.carried_checked (hc s)
    · exact ht s
  · rw [took_get_of_ne c t hs]
    exact ht u

/-- The configuration `d'` is `d` after a copy from `c`. -/
structure Overwrites (c d d' : Config) : Prop where
  edition : d'.edition = d.edition
  loader : d'.loader = d.loader
  descriptor : d'.descriptor = c.descriptor
  driver : d'.get .driver = none
  url : d'.get .url = c.get .url
  user : d'.get .user = c.get .user
  password : d'.get .password = c.get .password
  taken : ∀ s ∉ connectionSettings, d.allows s = true → d'.get s = s.kind.carried (c.get s)
  kept : ∀ s ∉ connectionSettings, d.allows s = false → d'.get s = d.get s

/-- Each setting that is copied is on its own, and those that are not stay. -/
theorem foldl_took (c : Config) :
    ∀ (ss : List Setting) (t : Situation),
      (ss.foldl (Situation.took c) t).config.edition = t.config.edition ∧
      (ss.foldl (Situation.took c) t).config.loader = t.config.loader ∧
      (ss.foldl (Situation.took c) t).config.descriptor = t.config.descriptor ∧
      ∀ s, (ss.foldl (Situation.took c) t).config.get s =
        if s ∈ ss ∧ t.config.allows s = true then s.kind.carried (c.get s)
        else t.config.get s := by
  intro ss
  induction ss with
  | nil =>
      intro t
      exact ⟨rfl, rfl, rfl, fun s => by simp⟩
  | cons x rest ih =>
      intro t
      obtain ⟨hedition, hloader, hdescriptor⟩ := took_frame c t x
      obtain ⟨ihe, ihl, ihd, ihg⟩ := ih (t.took c x)
      refine ⟨ihe.trans hedition, ihl.trans hloader, ihd.trans hdescriptor, fun s => ?_⟩
      rw [List.foldl_cons, ihg s, allows_congr hedition]
      by_cases hx : x = s
      · subst hx
        rw [took_get_same]
        by_cases hallows : t.config.allows x = true <;> simp [hallows]
      · rw [took_get_of_ne c t hx]
        simp [Ne.symm hx]

/-- With the descriptor and the settings of the source, all that is missing is the
URL, the user and the password. -/
theorem withIdentity_overwrites {d d' : Config} (hedition : d'.edition = d.edition)
    (hloader : d'.loader = d.loader) (hdescriptor : d'.descriptor = c.descriptor)
    (hdriver : d'.get .driver = none)
    (hget : ∀ s ∉ connectionSettings, d'.get s =
      if d.allows s = true then s.kind.carried (c.get s) else d.get s) :
    Overwrites c d (d'.withIdentity (c.get .url) (c.get .user) (c.get .password)) where
  edition := hedition
  loader := hloader
  descriptor := hdescriptor
  driver := by rw [withIdentity_driver, hdriver]
  url := withIdentity_url ..
  user := withIdentity_user ..
  password := withIdentity_password ..
  taken s hs ha := by rw [withIdentity_get_of_not_mem _ _ _ _ hs, hget s hs, if_pos ha]
  kept s hs ha := by
    rw [withIdentity_get_of_not_mem _ _ _ _ hs, hget s hs, ha, if_neg Bool.false_ne_true]

theorem overwritten_overwrites (c : Config) (t : Situation) :
    Overwrites c t.config (t.overwritten c).config := by
  obtain ⟨he, hl, hd, hg⟩ :=
    foldl_took c copied ⟨t.config.withDescriptor c.descriptor, t.host⟩
  have hallows : ∀ s, (t.config.withDescriptor c.descriptor).allows s = t.config.allows s :=
    allows_congr rfl
  refine withIdentity_overwrites he hl hd ?_ fun s hs => ?_
  · rw [hg, if_neg fun h => mem_copied.1 h.1 (by decide), withDescriptor_driver]
  · rw [hg, hallows, withDescriptor_get_of_ne _ _ hs]
    simp only [mem_copied.2 hs, true_and]

end Config

end Other

end MigrationConfig
