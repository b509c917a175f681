/-
# Who says that a connection is incomplete

Settings of a connection without a URL have no effect, and two places tell of it: whoever
reads the connection is warned in the log, and a review finds it.  The review looks at
the settings alone.  The reading looks at the descriptor, and takes it that there is one
just when the URL has text.

A setter of a connection setting drops the descriptor, though, and until it is derived
again the connection is *pending*.  No configuration remembers that, so it is kept beside
it (`Traced`).  Where nothing is pending the two places agree, and where something is the
log may ask for a URL that is there.
-/
import MigrationConfig.Proofs.Coherent
import MigrationConfig.Proofs.Configure
import MigrationConfig.Proofs.Derived
import MigrationConfig.Proofs.Lockstep
import MigrationConfig.Proofs.SelfCopy

namespace MigrationConfig

/-- The change drops the descriptor, or finds it dropped and leaves it so. -/
def Change.leavesPending (pending : Bool) : Change → Bool
  | .assign s _ => decide (s ∈ Config.connectionSettings) || pending
  | .target _ | .identity .. => pending
  | .descriptor _ | .connectTo .. | .deriveConnection _ => false

namespace Config

variable {c c' d : Config} {pending : Bool}

/-! ## What the two look at -/

/-- Something of a connection has text besides the URL. -/
def besidesUrl (c : Config) : Bool :=
  Text.hasText (c.get .driver) || Text.hasText (c.get .user) || Text.hasText (c.get .password)

/-- There is a descriptor just when the URL has text, or there is nothing besides. -/
def Settled (c : Config) : Prop :=
  c.descriptor.isSome = Text.hasText (c.get .url) ∨ c.besidesUrl = false

theorem warnsOnRead_iff (c : Config) :
    c.warnsOnRead = true ↔ c.descriptor = none ∧ c.besidesUrl = true := by
  rw [← Option.isNone_iff_eq_none]
  exact Bool.and_eq_true_iff

theorem isIncomplete_iff (c : Config) :
    Findings.isIncomplete c = true ↔
      Text.hasText (c.get .url) = false ∧ c.besidesUrl = true := by
  rw [← Bool.not_eq_true']
  exact Bool.and_eq_true_iff

/-- What the two look at comes to the same just when it is settled. -/
theorem warnsOnRead_agrees_iff (c : Config) :
    (c.warnsOnRead = true ↔ Findings.isIncomplete c = true) ↔ c.Settled := by
  rw [warnsOnRead_iff, isIncomplete_iff, Settled]
  cases c.descriptor <;> cases Text.hasText (c.get .url) <;> cases c.besidesUrl <;> simp

theorem Settled.congr (hc : c.Settled) (hdescriptor : c'.descriptor = c.descriptor)
    (hget : ∀ s ∈ connectionSettings, c'.get s = c.get s) : c'.Settled := by
  rw [Settled, besidesUrl, hdescriptor, hget .driver (by decide), hget .url (by decide),
    hget .user (by decide), hget .password (by decide)]
  exact hc

theorem settled_of_none (hdriver : c.get .driver = none) (huser : c.get .user = none)
    (hpassword : c.get .password = none) : c.Settled := by
  refine .inr ?_
  rw [besidesUrl, hdriver, huser, hpassword]
  rfl

/-- A descriptor that was derived is there just when the URL has text. -/
theorem settled_of_derived {driver url user password : Option String} {properties : PropertyMap}
    {loader : Option ClassLoader} (hurl : c.get .url = url)
    (hd : c.descriptor = Descriptor.ofSettings? driver url user password properties loader) :
    c.Settled := by
  refine .inl ?_
  rw [hd, hurl, Descriptor.ofSettings?_isSome]

/-! ## What is pending -/

/-- A pass with a text for the connection, be it blank, drops the descriptor on its way,
and nothing is pending if it comes as far as to derive another one. -/
def passLeavesPending (m : PropertyMap) (t : Situation) (pending : Bool) : Bool :=
  !derives m t && (namesConnection m || pending)

/-- The configurations that changes, passes and copies lead to when the URL, the user and
the password are never written over alone, each on any host, with whether its connection
is pending.  A copy takes that over with the rest of the connection. -/
inductive Traced : Config → Bool → Prop where
  | new (edition : Edition) (loader : ClassLoader) : Traced (.new edition loader) false
  | change {c : Config} {pending : Bool} (k : Change) (h : Host) : k.writesIdentity = false →
      Traced c pending →
      Traced ((Procedure.change fun c => k.perform c).run ⟨c, h⟩).2.config
        (k.leavesPending pending)
  | pass {c : Config} {pending : Bool} (m : PropertyMap) (root : String) (h : Host) :
      Traced c pending →
      Traced ((apply m root).run ⟨c, h⟩).2.config (passLeavesPending m ⟨c, h⟩ pending)
  | copy {c d : Config} {pending pending' : Bool} (h : Host) : Traced c pending →
      Traced d pending' → Traced ((copyFrom (.other c)).run ⟨d, h⟩).2.config pending
  | selfCopy {c : Config} {pending : Bool} (h : Host) : Traced c pending →
      Traced ((copyFrom .itself).run ⟨c, h⟩).2.config false

/-- What a configuration is like while its connection is pending, or is not. -/
def Stands (c : Config) : Bool → Prop
  | true => c.descriptor = none
  | false => c.Settled

theorem Stands.congr (hc : c.Stands pending) (hdescriptor : c'.descriptor = c.descriptor)
    (hget : ∀ s ∈ connectionSettings, c'.get s = c.get s) : c'.Stands pending := by
  cases pending with
  | true => exact hdescriptor.trans hc
  | false => exact Settled.congr hc hdescriptor hget

/-! ### Changes -/

theorem Stands.assigned (hc : c.Stands pending) (s : Setting) (v : s.Value) :
    (c.assigned s v).Stands (decide (s ∈ connectionSettings) || pending) := by
  by_cases hs : s ∈ connectionSettings
  · rw [decide_eq_true hs]
    exact c.assigned_descriptor_of_mem hs v
  · obtain ⟨hdescriptor, hget⟩ := c.assigned_of_not_mem hs v
    rw [decide_eq_false hs]
    exact hc.congr hdescriptor hget

theorem Stands.assign (hc : c.Stands pending) (s : Setting) (a : s.Argument) (h : Host) :
    ((Procedure.change fun c => c.assign s a).run ⟨c, h⟩).2.config.Stands
      (decide (s ∈ connectionSettings) || pending) := by
  obtain ⟨h', hrun, -⟩ := c.assign_run s a h
  cases hv : c.takes h s a with
  | ok v =>
      rw [hv] at hrun
      rw [Procedure.run_change_ok hrun]
      exact hc.assigned s v
  | error e =>
      -- a setting of the connection takes any argument, so this is another one
      have hs : s ∉ connectionSettings := by
        intro hs
        obtain ⟨v, hv'⟩ := takes_connection (c := c) (h := h) hs a
        rw [hv] at hv'
        cases hv'
      rw [hv] at hrun
      rw [Procedure.run_change_error hrun, decide_eq_false hs]
      exact hc

theorem Stands.changed (hc : c.Stands pending) {k : Change} (hk : k.writesIdentity = false)
    (h : Host) :
    ((Procedure.change fun c => k.perform c).run ⟨c, h⟩).2.config.Stands
      (k.leavesPending pending) := by
  cases k with
  | assign s a => exact hc.assign s a h
  | target v => exact hc.assign .target (.given (v.getD .latest)) h
  | descriptor d =>
      exact settled_of_none (c.withDescriptor_driver d) (c.withDescriptor_user d)
        (c.withDescriptor_password d)
  | connectTo url user password =>
      rw [Procedure.run_change_ok (c.connectTo_run url user password h)]
      exact settled_of_derived (c.withIdentity_url url user password) rfl
  | deriveConnection p =>
      rw [Procedure.run_change_ok (c.deriveConnection_run p h)]
      exact settled_of_derived rfl rfl
  | identity url user password => cases hk

/-! ### Passes -/

section Pass

variable {m : PropertyMap} {h : Host} {ss : List Setting}

/-- A pass comes past the connection settings in any case, for these are its first ones
and take any text. -/
theorem applySettings_connection (m : PropertyMap) (c : Config) (h : Host) :
    ∃ ss, (∀ s ∈ connectionSettings, s ∈ ss) ∧
      c.TookOutcomes h m ss ((applySettings m Setting.applied).run ⟨c, h⟩).2.config := by
  cases hf : c.firstRefused h m with
  | none =>
      obtain ⟨c', h', hr, ht, -⟩ :=
        applySettings_ok m Setting.nodup_applied (firstRefused_eq_none.1 hf)
      rw [hr]
      exact ⟨Setting.applied, by decide, ht⟩
  | some f =>
      obtain ⟨e, t, hr, he, ht⟩ := applySettings_refused hf
      -- what is refused comes behind the settings of the connection
      have hconnection : f ∉ connectionSettings := by
        intro hs
        obtain ⟨v, hv⟩ := outcome_connection (c := c) (h := h) (m := m) hs
        rw [he] at hv
        cases hv
      have hbefore : ∀ f ∈ Setting.applied, f ∉ connectionSettings →
          ∀ s ∈ connectionSettings, s ∈ appliedBefore f := by
        decide
      rw [hr]
      exact ⟨appliedBefore f, hbefore f (List.mem_of_find?_eq_some hf) hconnection, ht⟩

theorem TookOutcomes.connection_kept (ht : c.TookOutcomes h m ss c')
    (hm : namesConnection m = false) {s : Setting} (hs : s ∈ connectionSettings) :
    c'.get s = c.get s := by
  refine ht.unchanged (.inr ?_)
  have hnone := List.any_eq_false.1 hm s hs
  rwa [Bool.not_eq_true, Option.isSome_eq_false_iff, Option.isNone_iff_eq_none] at hnone

/-- The settings of a pass leave the connection pending if they have a text for it. -/
theorem Stands.settings (hc : c.Stands pending) (ht : c.TookOutcomes h m ss c')
    (hss : ∀ s ∈ connectionSettings, s ∈ ss) : c'.Stands (namesConnection m || pending) := by
  have hdescriptor := ht.descriptor_of_connection hss
  cases hm : namesConnection m with
  | true =>
      rw [hm, if_pos rfl] at hdescriptor
      exact hdescriptor
  | false =>
      rw [hm, if_neg Bool.false_ne_true] at hdescriptor
      exact hc.congr hdescriptor fun s hs => ht.connection_kept hm hs

theorem Stands.concluded (hc : c.Stands pending) (m : PropertyMap) :
    (c.concluded m).Stands (!touchesConnection m && pending) := by
  cases hm : touchesConnection m with
  | true =>
      have hd : (c.concluded m).descriptor = c.descriptorWith (c.driverPropertiesWith m) :=
        if_pos hm
      exact settled_of_derived (concluded_connection c m (by decide)) hd
  | false =>
      refine hc.congr ?_ fun s hs => concluded_connection c m hs
      rw [Config.concluded, hm]
      rfl

theorem Stands.passed (hc : c.Stands pending) (m : PropertyMap) (root : String) (h : Host) :
    ((apply m root).run ⟨c, h⟩).2.config.Stands (passLeavesPending m ⟨c, h⟩ pending) := by
  obtain ⟨ss, hss, ht⟩ := applySettings_connection m c h
  have hsettings := hc.settings ht hss
  rw [apply_run, passLeavesPending, derives]
  rcases hr : (applySettings m Setting.applied).run ⟨c, h⟩ with ⟨r, t⟩
  rw [hr] at hsettings
  cases r with
  | ok u => exact hsettings.concluded m
  | error e => exact hsettings

end Pass

/-! ### Copies -/

/-- A copy takes the connection over, or it has failed and has the descriptor alone. -/
theorem Stands.copied (hc : c.Stands pending) (t : Situation) :
    ((copyFrom (.other c)).run t).2.config.Stands pending := by
  obtain ⟨t', hbegun, hend | hend⟩ := copyFrom_ends (.other c) t
  · rw [hend]
    cases pending with
    | true => exact hbegun.descriptor.trans hc
    | false => exact settled_of_none hbegun.driver hbegun.user hbegun.password
  · rw [hend]
    cases pending with
    | true => exact hbegun.descriptor.trans hc
    | false =>
        rcases hc with hurl | hbesides
        · refine .inl ?_
          rw [withIdentity_url]
          exact (congrArg Option.isSome hbegun.descriptor).trans hurl
        · refine .inr ?_
          simp only [besidesUrl, Bool.or_eq_false_iff] at hbesides
          rw [besidesUrl, withIdentity_driver, withIdentity_user, withIdentity_password,
            hbegun.driver]
          simp only [Source.of, hbesides.1.2, hbesides.2]
          rfl

/-- Of the connection, a copy into itself leaves the descriptor alone. -/
theorem selfCopied_settled (c : Config) : c.selfCopied.Settled := by
  refine settled_of_none ?_ c.selfCopied_user c.selfCopied_password
  rw [selfCopied, withoutPath_get_of_ne _ (by decide), withDescriptor_driver]

/-! ### Any number of steps -/

theorem Traced.holds {P : Config → Prop} (hP : Invariant P) (hc : c.Traced pending) : P c := by
  induction hc with
  | new edition loader => exact hP.initial edition loader
  | change k h _ _ ih => exact hP.lasting.change k trivial _ ih
  | pass m root h _ ih => exact hP.lasting.pass m root _ ih
  | copy h _ _ ihc ihd => exact hP.lasting.copy _ ihc _ ihd
  | selfCopy h _ ih => exact hP.lasting.selfCopy _ ih

theorem Traced.stands (hc : c.Traced pending) : c.Stands pending := by
  induction hc with
  | new edition loader => exact .inl rfl
  | change k h hk _ ih => exact ih.changed hk h
  | pass m root h _ ih => exact ih.passed m root h
  | copy h _ _ ih _ => exact ih.copied _
  | selfCopy h hc ih =>
      rw [copyFrom_itself_run (hc.holds checked_invariant) (hc.holds lacksUnset_invariant)]
      exact selfCopied_settled _

theorem Traced.settled_iff (hc : c.Traced pending) :
    c.Settled ↔
      ¬ (pending = true ∧ Text.hasText (c.get .url) = true ∧ c.besidesUrl = true) := by
  have hstands := hc.stands
  cases pending with
  | false => exact ⟨fun _ h => Bool.false_ne_true h.1, fun _ => hstands⟩
  | true =>
      have hnone : c.descriptor = none := hstands
      rw [Settled, hnone]
      cases Text.hasText (c.get .url) <;> cases c.besidesUrl <;> simp

/-- Whoever reads the connection is never told less than a review finds. -/
theorem Traced.warnsOnRead (hc : c.Traced pending) (hi : Findings.isIncomplete c = true) :
    c.warnsOnRead = true := by
  obtain ⟨hurl, hbesides⟩ := (isIncomplete_iff c).1 hi
  have hsettled : c.Settled := by
    rw [hc.settled_iff, hurl]
    exact fun h => Bool.false_ne_true h.2.1
  exact (warnsOnRead_agrees_iff c).2 hsettled |>.2 hi

theorem traced_lasting :
    Lasting (fun k => k.writesIdentity = false) fun c => ∃ pending, c.Traced pending where
  initial edition loader := ⟨_, .new edition loader⟩
  change k hk t := fun ⟨_, hc⟩ => ⟨_, .change k t.host hk hc⟩
  pass m root t := fun ⟨_, hc⟩ => ⟨_, .pass m root t.host hc⟩
  copy c hc t ht := by
    obtain ⟨pending, hc⟩ := hc
    obtain ⟨pending', ht⟩ := ht
    exact ⟨_, .copy t.host hc ht⟩
  selfCopy t := fun ⟨_, hc⟩ => ⟨_, .selfCopy t.host hc⟩

end Config

/-! ## Sessions -/

theorem Findings.mem_given {α : Type} {b : Bool} {a x : α} :
    x ∈ given b a ↔ b = true ∧ x = a := by
  cases b <;> simp [given]

namespace Session

open Config

/-- A command logs an event. -/
def Logs (s : Session) (k : Command) (e : Event) : Prop :=
  ∃ es, (s.perform k).2.host.log = s.host.log ++ es ∧ e ∈ es

/-- A review of a configuration finds something to warn of. -/
def Finds (s : Session) (id : String) (w : Warning) : Prop :=
  ∃ f : Findings, (s.perform (.review id)).1 = .ok (.findings f) ∧ w ∈ f.warnings

variable {s : Session} {id : String} {c : Config}

theorem logs_incomplete_iff (hc : s.config? id = some c) :
    s.Logs (.connection id) .incompleteConnection ↔ c.warnsOnRead = true := by
  have hlog : (s.perform (.connection id)).2.host.log =
      s.host.log ++ if c.warnsOnRead then [.incompleteConnection] else [] := by
    simp only [perform, onConfig, hc, onHost, c.connection_run]
    rfl
  simp only [Logs, hlog, List.append_cancel_left_eq, exists_eq_left']
  cases c.warnsOnRead <;> simp

theorem finds_incomplete_iff (hc : s.config? id = some c) :
    s.Finds id .incompleteConnection ↔ Findings.isIncomplete c = true := by
  have hreview : (s.perform (.review id)).1 = .ok (.findings (.of c)) := by
    simp only [perform, onConfig, hc]
  simp only [Finds, hreview, Except.ok.injEq, Answer.findings.injEq, exists_eq_left', Findings.of,
    List.mem_append, Findings.mem_given, reduceCtorEq, and_false, false_or, or_false, and_true]

/-- Of a configuration of any session, the log and a review say the same just when its
descriptor is there exactly if the URL has text, or nothing else of the connection has.

As long as the URL, the user and the password are not written over alone, all that a
review finds is logged as well.  The log says more just when the URL has text, something
else has, and the connection is pending: a setting of it was given, by itself or in a
pass, and no descriptor was derived or handed in since. -/
theorem incomplete_agrees_iff (hc : s.config? id = some c) :
    ((s.Logs (.connection id) .incompleteConnection ↔ s.Finds id .incompleteConnection) ↔
      (c.descriptor.isSome = Text.hasText (c.get .url) ∨ c.besidesUrl = false)) ∧
    ((s.ReachableBy fun k => k.writesIdentity = false) →
      (s.Finds id .incompleteConnection → s.Logs (.connection id) .incompleteConnection) ∧
      (∃ pending, c.Traced pending) ∧
      ∀ pending, c.Traced pending →
        ((s.Logs (.connection id) .incompleteConnection ↔ s.Finds id .incompleteConnection) ↔
          ¬ (pending = true ∧ Text.hasText (c.get .url) = true ∧ c.besidesUrl = true))) := by
  rw [logs_incomplete_iff hc, finds_incomplete_iff hc, warnsOnRead_agrees_iff]
  refine ⟨Iff.rfl, fun hs => ?_⟩
  obtain ⟨pending, ht⟩ := hs.holds traced_lasting id c hc
  exact ⟨ht.warnsOnRead, ⟨pending, ht⟩, fun _ ht => ht.settled_iff⟩

/-- With a user alone, a review finds what the log says. -/
theorem incomplete_agrees_user :
    let s := (((Session.new .bare).perform (.create "c" "community" none)).2.perform
      (.change "c" (.assign .user (some "u")))).2
    (s.ReachableBy fun k => k.writesIdentity = false) ∧ ∃ c, s.config? "c" = some c ∧
      s.Finds "c" .incompleteConnection ∧ s.Logs (.connection "c") .incompleteConnection ∧
        (s.Logs (.connection "c") .incompleteConnection ↔
          s.Finds "c" .incompleteConnection) := by
  intro s
  have hs : s.ReachableBy fun k => k.writesIdentity = false :=
    .perform _ rfl (.perform _ trivial (.new _))
  have hseen : (s.config? "c").map (fun c => (Findings.isIncomplete c, Text.hasText (c.get .url)))
      = some (true, false) := by
    decide +kernel
  obtain ⟨c, hc, hlook⟩ := Option.map_eq_some_iff.1 hseen
  obtain ⟨hincomplete, hurl⟩ := Prod.mk.inj hlook
  have hfinds := (finds_incomplete_iff hc).2 hincomplete
  obtain ⟨hlogged, ⟨pending, ht⟩, hall⟩ := (incomplete_agrees_iff hc).2 hs
  refine ⟨hs, c, hc, hfinds, hlogged hfinds, (hall pending ht).2 fun h => ?_⟩
  rw [hurl] at h
  exact Bool.false_ne_true h.2.1

/-- After the URL and the user were given one by one, the log asks for the URL, and a
review finds nothing. -/
theorem incomplete_logged_with_url :
    let s := ((((Session.new .bare).perform (.create "c" "community" none)).2.perform
      (.change "c" (.assign .url (some "jdbc:x")))).2.perform
        (.change "c" (.assign .user (some "u")))).2
    s.Reachable ∧ ∃ c, s.config? "c" = some c ∧ c.get .url = some "jdbc:x" ∧
      s.Logs (.connection "c") .incompleteConnection ∧
        ¬ (s.Logs (.connection "c") .incompleteConnection ↔
          s.Finds "c" .incompleteConnection) := by
  intro s
  have hs : s.Reachable := .perform _ (.perform _ (.perform _ (.new _)))
  have hseen : (s.config? "c").map (fun c =>
      (c.get .url, c.warnsOnRead, Findings.isIncomplete c)) =
        some (some "jdbc:x", true, false) := by
    decide +kernel
  obtain ⟨c, hc, hlook⟩ := Option.map_eq_some_iff.1 hseen
  simp only [Prod.mk.injEq] at hlook
  obtain ⟨hurl, hwarns, hincomplete⟩ := hlook
  have hlogs := (logs_incomplete_iff hc).2 hwarns
  refine ⟨hs, c, hc, hurl, hlogs, fun h => ?_⟩
  rw [(finds_incomplete_iff hc), hincomplete] at h
  exact Bool.false_ne_true (h.1 hlogs)

end Session

end MigrationConfig
