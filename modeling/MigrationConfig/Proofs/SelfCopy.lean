/-
# A configuration that is copied into itself

What such a copy reads is what it has made of the configuration so far.  Most of its
steps do nothing then: a setting takes the value that it has, and the descriptor comes
back to its place.  Two of them lose something.  The dry-run output goes on without its
path, as in every copy.  And the first step drops the connection settings, which the
last one asks for: the URL, the user and the password come back just when there was
nothing to drop.
-/
import MigrationConfig.Proofs.Copies

namespace MigrationConfig

/-- An output that is carried over keeps its stream in use. -/
theorem Sink.givenUp?_carried (o : Option Sink) :
    Sink.givenUp? o (Kind.carried .output o) = none := by
  rcases o with _ | ⟨stream, _ | path⟩
  · rfl
  · rfl
  · show (if (some stream == some stream) = true then none else some stream) = none
    rw [beq_self_eq_true, if_pos rfl]

namespace Config

/-! ## Values that are put where they are -/

theorem put_get (c : Config) (s : Setting) : c.put s (c.get s) = c :=
  Alike.eq
    { edition := rfl
      descriptor := rfl
      get := fun t => by
        by_cases hst : s = t
        · subst hst
          rw [get_put_same]
        · rw [get_put_of_ne _ _ hst] }
    rfl

theorem withIdentity_get (c : Config) :
    c.withIdentity (c.get .url) (c.get .user) (c.get .password) = c := by
  unfold withIdentity
  rw [put_get, put_get, put_get]

/-! ## The steps of the copy -/

/-- The configuration without the path of its dry-run output. -/
def withoutPath (c : Config) : Config :=
  c.put .dryRunOutput (Kind.carried .output (c.get .dryRunOutput))

theorem withoutPath_output (c : Config) :
    c.withoutPath.get .dryRunOutput = Kind.carried .output (c.get .dryRunOutput) :=
  c.get_put_same .dryRunOutput _

theorem withoutPath_get_of_ne (c : Config) {s : Setting} (hs : s ≠ .dryRunOutput) :
    c.withoutPath.get s = c.get s :=
  c.get_put_of_ne _ hs.symm

theorem withoutPath_withoutPath (c : Config) : c.withoutPath.withoutPath = c.withoutPath := by
  have hcarried : Kind.carried .output (c.withoutPath.get .dryRunOutput) =
      c.withoutPath.get .dryRunOutput := by
    rw [withoutPath_output]
    cases c.get .dryRunOutput <;> rfl
  rw [withoutPath, hcarried, put_get]

theorem LacksUnset.withoutPath {c : Config} (hc : c.LacksUnset) : c.withoutPath.LacksUnset := by
  intro s hs
  have hs : c.allows s = false := hs
  by_cases houtput : s = .dryRunOutput
  · subst houtput
    rw [withoutPath_output, hc _ hs]
    rfl
  · rw [withoutPath_get_of_ne c houtput, hc s hs]

variable {t : Situation}

/-- A setting that is its own source stays, but for the path of an output. -/
theorem took_itself (hl : t.config.LacksUnset) (s : Setting) :
    t.took t.config s =
      if s = .dryRunOutput then ⟨t.config.withoutPath, t.host⟩ else t := by
  unfold Situation.took
  cases hallows : t.config.allows s with
  | true =>
      rw [if_pos rfl]
      split
      · next hs =>
          subst hs
          rw [get_put_same, (t.host.closing_of_givenUp? (Sink.givenUp?_carried _)).2]
          rfl
      · next hs =>
          rw [Kind.carried_of_ne fun hk => hs (Setting.kind_eq_output.1 hk), put_get,
            (t.host.closing_of_givenUp? (Sink.givenUp?_same _)).2]
  | false =>
      rw [if_neg Bool.false_ne_true]
      split
      · next hs =>
          subst hs
          have hcarried : Kind.carried .output (t.config.get .dryRunOutput) =
              t.config.get .dryRunOutput := by
            rw [hl _ hallows]
            rfl
          rw [withoutPath, hcarried, put_get]
      · rfl

/-- It gives nothing up. -/
theorem releasing_itself (t : Situation) (s : Setting) : t.releasing t.config s = .ok () := by
  by_cases hs : s = .dryRunOutput
  · subst hs
    unfold Situation.releasing
    rw [get_put_same]
    split
    · exact (t.host.closing_of_givenUp? (Sink.givenUp?_carried _)).1
    · rfl
  · exact releasing_of_ne t.config t hs

/-- All settings together stay, but for that path. -/
theorem copySettings_itself_run :
    ∀ {ss : List Setting}, ss ⊆ copied → ∀ {t : Situation}, t.config.Checked →
      t.config.LacksUnset → (copySettings .itself ss).run t =
        (.ok (), if .dryRunOutput ∈ ss then ⟨t.config.withoutPath, t.host⟩ else t) := by
  intro ss
  induction ss with
  | nil =>
      intro _ t _ _
      rfl
  | cons s rest ih =>
      intro hss t hc hl
      have hrest : rest ⊆ copied := fun x hx => hss (List.mem_cons_of_mem _ hx)
      have hstep : (copySetting .itself s).run t = (.ok (), t.took t.config s) := by
        rw [copySetting_run .itself hc (hss (List.mem_cons_self ..))]
        simp only [Source.of, releasing_itself]
      have hchecked : (t.took t.config s).config.Checked := took_checked hc hc s
      rw [took_itself hl] at hstep hchecked
      refine (Procedure.run_bind_ok hstep).trans ?_
      by_cases hs : s = .dryRunOutput
      · subst hs
        rw [if_pos rfl] at hchecked
        rw [if_pos rfl, if_pos (List.mem_cons_self ..), ih hrest hchecked hl.withoutPath]
        simp only [withoutPath_withoutPath, ite_self]
      · have hmem : .dryRunOutput ∈ s :: rest ↔ .dryRunOutput ∈ rest := by
          rw [List.mem_cons, or_iff_right (Ne.symm hs)]
        rw [if_neg hs, ih hrest hc hl]
        simp only [hmem]

/-! ## The whole copy -/

/-- What a copy into itself leaves of a configuration. -/
def selfCopied (c : Config) : Config := (c.withDescriptor c.descriptor).withoutPath

theorem copyFrom_itself_run {c : Config} (hc : c.Checked) (hl : c.LacksUnset) (h : Host) :
    (copyFrom .itself).run ⟨c, h⟩ = (.ok (), ⟨c.selfCopied, h⟩) := by
  have hbegun : (c.withDescriptor c.descriptor).Checked :=
    checked_invariant.preserved (.descriptor _) (h := h) hc rfl
  have hlacks : (c.withDescriptor c.descriptor).LacksUnset :=
    lacksUnset_invariant.preserved (.descriptor _) (h := h) hl rfl
  have houtput : Setting.dryRunOutput ∈ copied := by decide
  rw [copyFrom_run]
  simp only [Source.of]
  rw [copySettings_itself_run (List.Subset.refl copied) hbegun hlacks, if_pos houtput]
  -- the last step puts the URL, the user and the password where they are by now
  exact congrArg (fun d => (Except.ok (), Situation.mk d h)) (withIdentity_get _)

variable (c : Config)

theorem selfCopied_get_of_copied {s : Setting} (hs : s ∈ copied) (houtput : s ≠ .dryRunOutput) :
    c.selfCopied.get s = c.get s := by
  rw [selfCopied, withoutPath_get_of_ne _ houtput, withDescriptor_get_of_ne _ _ (mem_copied.1 hs)]

theorem selfCopied_output :
    c.selfCopied.get .dryRunOutput = Kind.carried .output (c.get .dryRunOutput) := by
  rw [selfCopied, withoutPath_output, withDescriptor_get_of_ne _ _ (by decide)]

theorem selfCopied_url : c.selfCopied.get .url = none := by
  rw [selfCopied, withoutPath_get_of_ne _ (by decide), withDescriptor_url]

theorem selfCopied_user : c.selfCopied.get .user = none := by
  rw [selfCopied, withoutPath_get_of_ne _ (by decide), withDescriptor_user]

theorem selfCopied_password : c.selfCopied.get .password = none := by
  rw [selfCopied, withoutPath_get_of_ne _ (by decide), withDescriptor_password]

/-- All that a copy is about can be seen as before just when the URL, the user and the
password are missing. -/
theorem read_selfCopied_iff :
    (∀ x h, x ≠ .setting .driver → x ≠ .outputPath → c.selfCopied.read h x = c.read h x) ↔
      c.get .url = none ∧ c.get .user = none ∧ c.get .password = none := by
  constructor
  · intro hall
    have hurl : Reading.text (c.selfCopied.get .url) = Reading.text (c.get .url) :=
      hall (.setting .url) .bare (by decide) (by decide)
    have huser : Reading.text (c.selfCopied.get .user) = Reading.text (c.get .user) :=
      hall (.setting .user) .bare (by decide) (by decide)
    have hpassword : Reading.text (c.selfCopied.get .password) = Reading.text (c.get .password) :=
      hall (.setting .password) .bare (by decide) (by decide)
    rw [selfCopied_url] at hurl
    rw [selfCopied_user] at huser
    rw [selfCopied_password] at hpassword
    exact ⟨(Reading.text.inj hurl).symm, (Reading.text.inj huser).symm,
      (Reading.text.inj hpassword).symm⟩
  · rintro ⟨hurl, huser, hpassword⟩ x h hdriver hpath
    cases x with
    | edition => rfl
    | descriptor => rfl
    | outputPath => exact absurd rfl hpath
    | setting s =>
        by_cases hcopied : s ∈ copied
        · by_cases houtput : s = .dryRunOutput
          · subst houtput
            simp only [read, selfCopied_output, Reading.ofValue, Kind.carried]
            cases c.get .dryRunOutput <;> rfl
          · simp only [read, selfCopied_get_of_copied c hcopied houtput]
        · have hconnection : s ∈ connectionSettings := by
            rw [mem_copied, not_not] at hcopied
            exact hcopied
          simp only [connectionSettings, List.mem_cons, List.not_mem_nil, or_false] at hconnection
          rcases hconnection with rfl | rfl | rfl | rfl
          · exact absurd rfl hdriver
          · simp only [read, selfCopied_url, hurl]
          · simp only [read, selfCopied_user, huser]
          · simp only [read, selfCopied_password, hpassword]

end Config

/-! ## Sessions -/

namespace Session

open Config

variable {s : Session} {id : String} {c : Config}

theorem selfCopy_run (hc : s.config? id = some c) (hchecked : c.Checked) (hl : c.LacksUnset) :
    s.perform (.copy id id) = (.ok .nothing, s.withSituation id ⟨c.selfCopied, s.host⟩) := by
  simp only [perform, copy, beq_self_eq_true, if_true, runOn, onConfig, hc]
  rw [copyFrom_itself_run hchecked hl]
  rfl

/-- A copy into itself succeeds and does nothing to the host.  It leaves the descriptor
and all settings that are copied one by one as they are, a dry-run output with its
stream; the URL, the user and the password are missing afterwards.  So it leaves all
that it is about as it was just when these three were missing before. -/
theorem Reachable.selfCopy_agrees_iff (hs : s.Reachable) (hc : s.config? id = some c) :
    ∃ d, s.Leaves (.copy id id) id d ∧ (s.perform (.copy id id)).2.host = s.host ∧
      d.edition = c.edition ∧ d.loader = c.loader ∧ d.descriptor = c.descriptor ∧
      (∀ x ∈ copied, x ≠ .dryRunOutput → d.get x = c.get x) ∧
      (d.get .dryRunOutput).map Sink.stream = (c.get .dryRunOutput).map Sink.stream ∧
      d.get .url = none ∧ d.get .user = none ∧ d.get .password = none ∧
      ((∀ x h, x ≠ .setting .driver → x ≠ .outputPath → d.read h x = c.read h x) ↔
        c.get .url = none ∧ c.get .user = none ∧ c.get .password = none) := by
  have hrun := selfCopy_run hc (hs.holds checked_invariant id c hc)
    (hs.holds lacksUnset_invariant id c hc)
  refine ⟨c.selfCopied, ?_, ?_, rfl, rfl, rfl, fun x => c.selfCopied_get_of_copied, ?_,
    c.selfCopied_url, c.selfCopied_user, c.selfCopied_password, c.read_selfCopied_iff⟩
  · rw [Leaves, hrun, config?_withSituation, if_pos rfl]
    exact ⟨rfl, rfl⟩
  · rw [hrun]
    rfl
  · rw [selfCopied_output]
    cases c.get .dryRunOutput <;> rfl

/-- A connection that was handed in and a file that was opened stay. -/
theorem selfCopy_agrees_described :
    let s := ((((Session.new .bare).perform (.create "c" "teams" none)).2.perform
      (.change "c" (.assign .dryRunOutput (.file ⟨"", ["a.sql"]⟩)))).2.perform
        (.change "c" (.descriptor (some ⟨"jdbc:x", none, some "u", none, .empty, none⟩)))).2
    s.Reachable ∧ ∃ c d, s.config? "c" = some c ∧ c.outputPath = some ⟨"", ["a.sql"]⟩ ∧
      s.Leaves (.copy "c" "c") "c" d ∧ d.descriptor.map Descriptor.url = some "jdbc:x" ∧
        (d.get .dryRunOutput).map Sink.stream = some 0 ∧
        ∀ x h, x ≠ .setting .driver → x ≠ .outputPath → d.read h x = c.read h x := by
  intro s
  have hs : s.Reachable := .perform _ (.perform _ (.perform _ (.new _)))
  have hseen : (s.config? "c").map (fun c => (c.descriptor.map Descriptor.url, c.outputPath,
      (c.get .dryRunOutput).map Sink.stream)) =
        some (some "jdbc:x", some ⟨"", ["a.sql"]⟩, some 0) := by
    decide +kernel
  have hidentity : (s.config? "c").map (fun c => ((c.get .url : Option String),
      (c.get .user : Option String), (c.get .password : Option String))) =
        some (none, none, none) := by
    decide +kernel
  obtain ⟨c, hc, hlook⟩ := Option.map_eq_some_iff.1 hseen
  simp only [Prod.mk.injEq] at hlook
  obtain ⟨hdescriptor, hpath, hstream⟩ := hlook
  rw [hc, Option.map_some, Option.some.injEq] at hidentity
  simp only [Prod.mk.injEq] at hidentity
  obtain ⟨d, hleaves, -, -, -, hkept, -, houtput, -, -, -, hiff⟩ := hs.selfCopy_agrees_iff hc
  exact ⟨hs, c, d, hc, hpath, hleaves, (congrArg _ hkept).trans hdescriptor,
    houtput.trans hstream, hiff.2 hidentity⟩

/-- The address and the user of a connection are gone, and its descriptor is not. -/
theorem selfCopy_identity_lost :
    let s := (((Session.new .bare).perform (.create "c" "community" none)).2.perform
      (.change "c" (.connectTo (some "jdbc:x") (some "u") none))).2
    s.Reachable ∧ ∃ c d, s.config? "c" = some c ∧ s.Leaves (.copy "c" "c") "c" d ∧
      c.get .url = some "jdbc:x" ∧ d.get .url = none ∧ c.get .user = some "u" ∧
        d.get .user = none ∧ d.descriptor = c.descriptor ∧
          ¬ ∀ x h, x ≠ .setting .driver → x ≠ .outputPath → d.read h x = c.read h x := by
  intro s
  have hs : s.Reachable := .perform _ (.perform _ (.new _))
  have hseen : (s.config? "c").map (fun c => (c.get .url, c.get .user)) =
      some (some "jdbc:x", some "u") := by
    decide +kernel
  obtain ⟨c, hc, hlook⟩ := Option.map_eq_some_iff.1 hseen
  obtain ⟨hurl, huser⟩ := Prod.mk.inj hlook
  have hrun := selfCopy_run hc (hs.holds checked_invariant "c" c hc)
    (hs.holds lacksUnset_invariant "c" c hc)
  refine ⟨hs, c, c.selfCopied, hc, ?_, hurl, c.selfCopied_url, huser, c.selfCopied_user, rfl, ?_⟩
  · rw [Leaves, hrun, config?_withSituation, if_pos rfl]
    exact ⟨rfl, rfl⟩
  · intro hall
    have hnone := (c.read_selfCopied_iff.1 hall).1
    rw [hurl] at hnone
    cases hnone

end Session

end MigrationConfig
