/-
# What a copy takes over

A copy leaves nothing of what the destination was: every setting is taken over or has a
feature that the edition lacks, and then it is initial on any history
(`lacksUnset_invariant`).  So what a copy leaves depends on the source and on the edition
of the destination alone.  It fails only where the destination gives up a file that is
stuck (`copy_cases`), and a new configuration has none.

A copy into a new configuration of the same edition shows all that the source shows,
with two exceptions: it has no driver, and no path of a dry-run output, which stands
for a file that it did not open itself.
-/
import MigrationConfig.Proofs.Gated
import MigrationConfig.Proofs.History

namespace MigrationConfig

namespace Config

/-- Two configurations hold the same, their loaders aside. -/
structure Alike (c d : Config) : Prop where
  edition : c.edition = d.edition
  descriptor : c.descriptor = d.descriptor
  get : ∀ s, c.get s = d.get s

theorem Alike.read_eq {c d : Config} (hcd : Alike c d) (x : Accessor) (h : Host) :
    c.read h x = d.read h x := by
  cases x with
  | edition => simp only [read, hcd.edition]
  | descriptor => simp only [read, hcd.descriptor]
  | outputPath => simp only [read, outputPath, hcd.get]
  | setting s => simp only [read, hcd.get]

theorem Alike.eq {c d : Config} (hcd : Alike c d) (hloader : c.loader = d.loader) : c = d := by
  obtain ⟨edition, loader, descriptor, values⟩ := c
  obtain ⟨hedition, hdescriptor, hget⟩ := hcd
  cases hedition
  cases hdescriptor
  cases hloader
  exact congrArg (Config.mk _ _ _) (funext hget)

variable {c d d' e e' : Config}

/-! ## Copies into configurations of one edition -/

/-- Whatever two destinations were, after a copy they hold the same. -/
theorem Overwrites.alike (hd : Overwrites c d d') (he : Overwrites c e e')
    (hedition : d.edition = e.edition) (hdu : d.LacksUnset) (heu : e.LacksUnset) :
    Alike d' e' where
  edition := by rw [hd.edition, he.edition, hedition]
  descriptor := by rw [hd.descriptor, he.descriptor]
  get s := by
    by_cases hs : s ∈ connectionSettings
    · simp only [connectionSettings, List.mem_cons, List.not_mem_nil, or_false] at hs
      rcases hs with rfl | rfl | rfl | rfl
      · rw [hd.driver, he.driver]
      · rw [hd.url, he.url]
      · rw [hd.user, he.user]
      · rw [hd.password, he.password]
    · have hallows : d.allows s = e.allows s := allows_congr hedition s
      cases ha : d.allows s with
      | true => rw [hd.taken s hs ha, he.taken s hs (hallows.symm.trans ha)]
      | false =>
          have ha' := hallows.symm.trans ha
          rw [hd.kept s hs ha, he.kept s hs ha', hdu s ha, heu s ha']

/-- No configuration owns a file after a copy. -/
theorem Overwrites.not_owns (hd : Overwrites c d d') (hdu : d.LacksUnset) {n : StreamId}
    {p : Path} : ¬ d'.Owns n p := by
  intro hn
  cases ha : d.allows .dryRunOutput with
  | true =>
      have hget : d'.get .dryRunOutput = Kind.carried .output (c.get .dryRunOutput) :=
        hd.taken .dryRunOutput (by decide) ha
      rw [Owns, hget] at hn
      obtain ⟨sink, -, hsink⟩ := Option.map_eq_some_iff.1 hn
      cases hsink
  | false =>
      have hget : d'.get .dryRunOutput = none :=
        (hd.kept .dryRunOutput (by decide) ha).trans (hdu _ ha)
      cases hget.symm.trans hn

/-! ## Copies into new configurations -/

/-- A setting of a copy holds what is carried over, whether or not the edition has
its feature. -/
theorem Overwrites.get_clone (hd : Overwrites c (new c.edition c.loader) d)
    (hc : c.LacksUnset) {s : Setting} (hs : s ∉ connectionSettings) :
    d.get s = s.kind.carried (c.get s) := by
  cases ha : c.allows s with
  | true => exact hd.taken s hs ha
  | false =>
      have hinitial : s.kind.carried s.initial = s.initial := by
        cases s <;> rfl
      rw [hd.kept s hs ha, hc s ha, hinitial]
      rfl

theorem Overwrites.get_clone_eq (hd : Overwrites c (new c.edition c.loader) d)
    (hc : c.LacksUnset) {s : Setting} (hdriver : s ≠ .driver) (houtput : s ≠ .dryRunOutput) :
    d.get s = c.get s := by
  by_cases hs : s ∈ connectionSettings
  · simp only [connectionSettings, List.mem_cons, List.not_mem_nil, or_false] at hs
    rcases hs with rfl | rfl | rfl | rfl
    · exact absurd rfl hdriver
    · exact hd.url
    · exact hd.user
    · exact hd.password
  · rw [hd.get_clone hc hs, Kind.carried_of_ne fun hk => houtput (Setting.kind_eq_output.1 hk)]

theorem Overwrites.output_clone (hd : Overwrites c (new c.edition c.loader) d)
    (hc : c.LacksUnset) :
    d.get .dryRunOutput = (c.get .dryRunOutput).map fun sink => ⟨sink.stream, none⟩ :=
  hd.get_clone hc (s := .dryRunOutput) (by decide)

theorem Overwrites.outputPath_clone (hd : Overwrites c (new c.edition c.loader) d)
    (hc : c.LacksUnset) : d.outputPath = none := by
  rw [outputPath, hd.output_clone hc]
  cases c.get .dryRunOutput <;> rfl

theorem Overwrites.read_clone (hd : Overwrites c (new c.edition c.loader) d) (hc : c.LacksUnset)
    {x : Accessor} (hdriver : x ≠ .setting .driver) (hpath : x ≠ .outputPath) (h : Host) :
    d.read h x = c.read h x := by
  cases x with
  | edition => simp only [read, hd.edition, new]
  | descriptor => simp only [read, hd.descriptor]
  | outputPath => exact absurd rfl hpath
  | setting s =>
      by_cases hs : s = .dryRunOutput
      · subst hs
        simp only [read, hd.output_clone hc, Reading.ofValue]
        cases c.get .dryRunOutput <;> rfl
      · have hne : s ≠ .driver := fun h => hdriver (congrArg Accessor.setting h)
        simp only [read, hd.get_clone_eq hc hne hs]

/-- The two exceptions are all that keeps a copy from showing what its source
shows. -/
theorem Overwrites.read_clone_iff (hd : Overwrites c (new c.edition c.loader) d)
    (hc : c.LacksUnset) :
    (∀ x h, d.read h x = c.read h x) ↔ c.get .driver = none ∧ c.outputPath = none := by
  constructor
  · intro hall
    have hdriver : Reading.text (d.get .driver) = Reading.text (c.get .driver) :=
      hall (.setting .driver) .bare
    have hpath : Reading.path d.outputPath = Reading.path c.outputPath := hall .outputPath .bare
    rw [hd.driver] at hdriver
    rw [hd.outputPath_clone hc] at hpath
    exact ⟨(Reading.text.inj hdriver).symm, (Reading.path.inj hpath).symm⟩
  · rintro ⟨hdriver, hpath⟩ x h
    by_cases hx : x = .setting .driver
    · subst hx
      simp only [read, hd.driver, hdriver]
    by_cases hx' : x = .outputPath
    · subst hx'
      simp only [read, hd.outputPath_clone hc, hpath]
    exact hd.read_clone hc hx hx' h

/-! ## Files that are given up -/

/-- A copy cannot give up a file of the destination just when that is stuck, unless the
source goes on with the same stream. -/
theorem releasing_eq_error_iff {t : Situation} {e : Error} :
    t.releasing c .dryRunOutput = .error e ↔ t.config.allows .dryRunOutput = true ∧
      ∃ n f, t.config.OwnsStuck t.host n f ∧ ¬ c.Exposes n ∧ e = .stream f := by
  have hcarried : (Kind.carried .output (c.get .dryRunOutput)).map Sink.stream =
      (c.get .dryRunOutput).map Sink.stream := by
    cases c.get .dryRunOutput <;> rfl
  unfold Situation.releasing
  rw [get_put_same]
  cases t.config.allows .dryRunOutput with
  | false => exact iff_of_false (fun h => by cases h) fun h => by cases h.1
  | true =>
      rw [if_pos rfl, Host.closing_eq_error_iff, and_iff_right rfl]
      constructor
      · rintro ⟨hne, f, hf, he⟩
        cases houtput : t.config.get .dryRunOutput with
        | none =>
            rw [houtput] at hf
            cases hf
        | some sink =>
            obtain ⟨n, _ | p⟩ := sink
            · rw [houtput] at hf
              cases hf
            · rw [houtput] at hf hne
              exact ⟨n, f, ⟨⟨p, houtput⟩, hf⟩, fun hexposed => hne (hcarried.trans hexposed), he⟩
      · rintro ⟨n, f, ⟨⟨p, hn⟩, hf⟩, hexposed, he⟩
        have houtput : t.config.get .dryRunOutput = some ⟨n, some p⟩ := hn
        rw [houtput]
        exact ⟨fun hsame => hexposed (hcarried.symm.trans hsame), f, hf, he⟩

/-- A new configuration gives nothing up. -/
theorem releasing_new (c : Config) (edition : Edition) (loader : ClassLoader) (h : Host) :
    Situation.releasing c ⟨.new edition loader, h⟩ .dryRunOutput = .ok () := by
  cases hr : Situation.releasing c ⟨.new edition loader, h⟩ .dryRunOutput with
  | ok u => rfl
  | error e =>
      obtain ⟨-, n, f, ⟨⟨p, hn⟩, -⟩, -⟩ := releasing_eq_error_iff.1 hr
      cases hn

end Config

/-! ## Sessions -/

namespace Session

open Config

/-- A command succeeds and leaves a configuration under a name. -/
def Leaves (s : Session) (k : Command) (id : String) (d : Config) : Prop :=
  (s.perform k).1 = .ok .nothing ∧ (s.perform k).2.config? id = some d

variable {s : Session} {id source : String} {c d : Config}

/-- The session with a configuration and its host as a procedure left them. -/
def withSituation (s : Session) (id : String) (t : Situation) : Session :=
  { s.withConfig id t.config with host := t.host }

theorem config?_withSituation (s : Session) (id id' : String) (t : Situation) :
    (s.withSituation id t).config? id' = if id = id' then some t.config else s.config? id' := by
  show Entries.get? id' (Entries.put id t.config s.configs) = _
  rw [Entries.get?_put]
  simp only [beq_iff_eq]
  rfl

theorem clone_run (hc : s.config? source = some c) (hchecked : c.Checked) (id : String) :
    s.perform (.clone id source) =
      (.ok .nothing,
        s.withSituation id (Situation.overwritten ⟨.new c.edition c.loader, s.host⟩ c)) := by
  simp only [perform, hc, clone, Config.clone]
  rw [copyFrom_other_run hchecked (releasing_new c c.edition c.loader s.host)]
  rfl

theorem copy_run (hc : s.config? source = some c) (hd : s.config? id = some d)
    (hid : id ≠ source) (hchecked : c.Checked)
    (hreleasing : Situation.releasing c ⟨d, s.host⟩ .dryRunOutput = .ok ()) :
    s.perform (.copy id source) =
      (.ok .nothing, s.withSituation id (Situation.overwritten ⟨d, s.host⟩ c)) := by
  simp only [perform, copy, beq_eq_false_iff_ne.2 hid, Bool.false_eq_true, if_false, hc, runOn,
    onConfig, hd]
  rw [copyFrom_other_run hchecked hreleasing]
  rfl

theorem copy_error (hc : s.config? source = some c) (hd : s.config? id = some d)
    (hid : id ≠ source) (hchecked : c.Checked) {e : Error}
    (hreleasing : Situation.releasing c ⟨d, s.host⟩ .dryRunOutput = .error e) :
    (s.perform (.copy id source)).1 = .error e := by
  have hr := copyFrom_other_error hchecked hreleasing
  simp only [perform, copy, beq_eq_false_iff_ne.2 hid, Bool.false_eq_true, if_false, hc, runOn,
    onConfig, hd]
  rcases hcopy : (copyFrom (.other c)).run ⟨d, s.host⟩ with ⟨r, t⟩
  rw [hcopy] at hr
  obtain rfl : r = .error e := hr
  rfl

/-- A copy into a new configuration succeeds. -/
theorem clone_leaves (hc : s.config? source = some c) (hchecked : c.Checked) (id : String) :
    ∃ d, s.Leaves (.clone id source) id d ∧ Overwrites c (.new c.edition c.loader) d := by
  refine ⟨_, ?_, overwritten_overwrites c ⟨.new c.edition c.loader, s.host⟩⟩
  rw [Leaves, clone_run hc hchecked id, config?_withSituation, if_pos rfl]
  exact ⟨rfl, rfl⟩

/-- The file of a configuration cannot be closed when another one is copied into it. -/
def Jammed (s : Session) (c d : Config) (e : Error) : Prop :=
  ∃ n f, d.OwnsStuck s.host n f ∧ ¬ c.Exposes n ∧ e = .stream f

/-- A copy into another configuration succeeds, and its source stays; or the file that it
gives up cannot be closed. -/
theorem copy_cases (hc : s.config? source = some c) (hd : s.config? id = some d)
    (hid : id ≠ source) (hchecked : c.Checked) :
    (∃ d', s.Leaves (.copy id source) id d' ∧ Overwrites c d d' ∧
      (s.perform (.copy id source)).2.config? source = some c) ∨
      ∃ e, (s.perform (.copy id source)).1 = .error e ∧ s.Jammed c d e := by
  cases hreleasing : Situation.releasing c ⟨d, s.host⟩ .dryRunOutput with
  | ok u =>
      refine .inl ⟨_, ?_, overwritten_overwrites c ⟨d, s.host⟩, ?_⟩
      · rw [Leaves, copy_run hc hd hid hchecked hreleasing, config?_withSituation, if_pos rfl]
        exact ⟨rfl, rfl⟩
      · rw [copy_run hc hd hid hchecked hreleasing, config?_withSituation, if_neg hid, hc]
  | error e =>
      have hjammed := (releasing_eq_error_iff.1 hreleasing).2
      exact .inr ⟨e, copy_error hc hd hid hchecked hreleasing, hjammed⟩

theorem copy_returns (hc : s.config? source = some c) (hd : s.config? id = some d)
    (hid : id ≠ source) (hchecked : c.Checked) :
    (∃ d', s.Leaves (.copy id source) id d') ∨
      ∃ e, (s.perform (.copy id source)).1 = .error e ∧ s.Jammed c d e := by
  rcases copy_cases hc hd hid hchecked with ⟨d', hleaves, -⟩ | hjammed
  · exact .inl ⟨d', hleaves⟩
  · exact .inr hjammed

/-- Nothing is in the way of a copy if the files of the library have been left alone. -/
theorem History.not_jammed (H : History s) (hH : H.LeftAlone) (hd : s.config? id = some d)
    {e : Error} : ¬ s.Jammed c d e := by
  rintro ⟨n, f, hstuck, -⟩
  exact H.not_ownsStuck hH hd hstuck

/-- A copy that returns has overwritten the destination. -/
theorem Leaves.overwrites {d' : Config} (hd' : s.Leaves (.copy id source) id d')
    (hc : s.config? source = some c) (hd : s.config? id = some d) (hid : id ≠ source)
    (hchecked : c.Checked) :
    Overwrites c d d' ∧ (s.perform (.copy id source)).2.config? source = some c := by
  rcases copy_cases hc hd hid hchecked with ⟨d'', hleaves, hover, hkept⟩ | ⟨e, he, -⟩
  · obtain rfl : d' = d'' := Option.some.inj (hd'.2.symm.trans hleaves.2)
    exact ⟨hover, hkept⟩
  · cases he.symm.trans hd'.1

/-! ### Copies into new configurations -/

/-- A copy into a new configuration shows all that its source shows just when the
source has neither a driver nor an output that it opened itself.  It never has these
two, and nothing else is missing. -/
theorem Reachable.clone_agrees_iff (hs : s.Reachable) (hc : s.config? source = some c)
    (id : String) :
    ∃ d, s.Leaves (.clone id source) id d ∧
      d.edition = c.edition ∧ d.loader = c.loader ∧ d.descriptor = c.descriptor ∧
      (∀ x, x ≠ .driver → x ≠ .dryRunOutput → d.get x = c.get x) ∧
      (d.get .dryRunOutput).map Sink.stream = (c.get .dryRunOutput).map Sink.stream ∧
      d.get .driver = none ∧ d.outputPath = none ∧
      ((∀ x h, d.read h x = c.read h x) ↔ c.get .driver = none ∧ c.outputPath = none) := by
  have hunset := hs.holds lacksUnset_invariant source c hc
  obtain ⟨d, hleaves, hover⟩ := clone_leaves hc (hs.holds checked_invariant source c hc) id
  refine ⟨d, hleaves, hover.edition, hover.loader, hover.descriptor,
    fun x => hover.get_clone_eq hunset, ?_, hover.driver, hover.outputPath_clone hunset,
    hover.read_clone_iff hunset⟩
  rw [hover.output_clone hunset, Option.map_map]
  rfl

/-- A connection from an address comes along whole. -/
theorem clone_agrees_connected :
    let s := (((Session.new .bare).perform (.create "c" "teams" none)).2.perform
      (.change "c" (.connectTo (some "jdbc:x") (some "u") none))).2
    s.Reachable ∧ ∃ c d, s.config? "c" = some c ∧ c.get .user = some "u" ∧
      s.Leaves (.clone "d" "c") "d" d ∧ ∀ x h, d.read h x = c.read h x := by
  intro s
  have hs : s.Reachable := .perform _ (.perform _ (.new _))
  have hseen : (s.config? "c").map (fun c =>
      (c.get .user, c.get .driver, c.outputPath)) = some (some "u", none, none) := by
    decide +kernel
  obtain ⟨c, hc, hlook⟩ := Option.map_eq_some_iff.1 hseen
  obtain ⟨huser, hrest⟩ := Prod.mk.inj hlook
  obtain ⟨d, hleaves, -, -, -, -, -, -, -, hiff⟩ := hs.clone_agrees_iff hc "d"
  exact ⟨hs, c, d, hc, huser, hleaves, hiff.2 (Prod.mk.inj hrest)⟩

/-- The driver does not come along. -/
theorem clone_driver_lost :
    let s := (((Session.new .bare).perform (.create "c" "community" none)).2.perform
      (.change "c" (.assign .driver (some "d")))).2
    s.Reachable ∧ ∃ c d, s.config? "c" = some c ∧ s.Leaves (.clone "e" "c") "e" d ∧
      c.get .driver = some "d" ∧ d.get .driver = none ∧
        ¬ ∀ x h, d.read h x = c.read h x := by
  intro s
  have hs : s.Reachable := .perform _ (.perform _ (.new _))
  have hseen : (s.config? "c").map (fun c => c.get .driver) = some (some "d") := by
    decide +kernel
  obtain ⟨c, hc, hdriver⟩ := Option.map_eq_some_iff.1 hseen
  obtain ⟨d, hleaves, hover⟩ := clone_leaves hc (hs.holds checked_invariant "c" c hc) "e"
  refine ⟨hs, c, d, hc, hleaves, hdriver, hover.driver, fun hall => ?_⟩
  have hread : Reading.text (d.get .driver) = Reading.text (c.get .driver) :=
    hall (.setting .driver) .bare
  rw [hover.driver, hdriver] at hread
  cases hread

/-! ### Copies into other configurations -/

/-- Two configurations of one edition are the same after a copy from one source, in
whatever sessions and whatever was done with them, and a second copy from it changes
nothing.  A copy returns unless it gives up a file that cannot be closed, and there is none
after a run of calls of the library or any other that gets no file of the library stuck. -/
theorem Reachable.copies_agree {s' : Session} {id' source' : String} {e : Config}
    (hs : s.Reachable) (hs' : s'.Reachable)
    (hc : s.config? source = some c) (hc' : s'.config? source' = some c)
    (hd : s.config? id = some d) (he : s'.config? id' = some e)
    (hid : id ≠ source) (hid' : id' ≠ source') (hedition : d.edition = e.edition) :
    (∀ d' e', s.Leaves (.copy id source) id d' → s'.Leaves (.copy id' source') id' e' →
      Alike d' e' ∧ (∀ x h, d'.read h x = e'.read h x) ∧
        (s.perform (.copy id source)).2.Leaves (.copy id source) id d') ∧
      ((∃ d', s.Leaves (.copy id source) id d') ∨
        ∃ error, (s.perform (.copy id source)).1 = .error error ∧ s.Jammed c d error) ∧
      ∀ H : History s, H.LeftAlone → ∃ d', s.Leaves (.copy id source) id d' := by
  have hchecked := hs.holds checked_invariant source c hc
  have hunset := hs.holds lacksUnset_invariant id d hd
  have hreturns := copy_returns hc hd hid hchecked
  refine ⟨fun d' e' hleaves hleaves' => ?_, hreturns, fun H hH => ?_⟩
  · obtain ⟨hover, hkept⟩ := hleaves.overwrites hc hd hid hchecked
    obtain ⟨hover', -⟩ := hleaves'.overwrites hc' he hid' hchecked
    have halike := hover.alike hover' hedition hunset (hs'.holds lacksUnset_invariant id' e he)
    refine ⟨halike, halike.read_eq, ?_⟩
    rcases copy_cases hkept hleaves.2 hid hchecked with ⟨d'', hleaves'', hover'', -⟩ |
      ⟨-, -, n, f, ⟨⟨p, hn⟩, -⟩, -⟩
    · have hagain : (s.perform (.copy id source)).2.Reachable := hs.perform _
      have halike' := hover''.alike hover hover.edition
        (hagain.holds lacksUnset_invariant id d' hleaves.2) hunset
      rw [halike'.eq hover''.loader] at hleaves''
      exact hleaves''
    · exact absurd hn (hover.not_owns hunset)
  · exact hreturns.resolve_right fun ⟨_, _, hjammed⟩ => H.not_jammed hH hd hjammed

/-- One that is as new and one that has a connection, after a copy from a third. -/
theorem copies_agree_connected :
    let s₁ := (((Session.new .bare).perform (.create "c" "community" none)).2.perform
      (.change "c" (.connectTo (some "jdbc:x") (some "u") none))).2
    let s₂ := (s₁.perform (.create "d" "teams" none)).2
    let s₃ := ((s₂.perform (.create "e" "teams" none)).2.perform
      (.change "e" (.assign .stream true))).2
    let s := (s₃.perform (.change "e" (.connectTo (some "jdbc:y") none (some "p")))).2
    let s' := (s.perform (.copy "d" "c")).2
    s.Reachable ∧ ∃ d' e', s.Leaves (.copy "d" "c") "d" d' ∧ s'.Leaves (.copy "e" "c") "e" e' ∧
      d'.get .url = some "jdbc:x" ∧ Alike d' e' := by
  intro s₁ s₂ s₃ s s'
  have hs : s.Reachable :=
    .perform _ (.perform _ (.perform _ (.perform _ (.perform _ (.perform _ (.new _))))))
  have hseen : (s.config? "c").map (fun c => c.get .url) = some (some "jdbc:x") ∧
      (s.config? "d").map (fun d => (d.edition, d.outputPath)) = some (.teams, none) ∧
        (s'.config? "e").map (fun e => (e.edition, e.outputPath)) = some (.teams, none) := by
    decide +kernel
  obtain ⟨c, hc, hurl⟩ := Option.map_eq_some_iff.1 hseen.1
  obtain ⟨d, hd, hdlook⟩ := Option.map_eq_some_iff.1 hseen.2.1
  obtain ⟨e, he, helook⟩ := Option.map_eq_some_iff.1 hseen.2.2
  obtain ⟨hdedition, hdpath⟩ := Prod.mk.inj hdlook
  obtain ⟨heedition, hepath⟩ := Prod.mk.inj helook
  have hchecked := hs.holds checked_invariant "c" c hc
  obtain ⟨d', hd', hover, hc'⟩ := (copy_cases hc hd (by decide) hchecked).resolve_right
    fun ⟨_, _, n, f, ⟨⟨p, hn⟩, _⟩, _⟩ => by cases hn.outputPath.symm.trans hdpath
  obtain ⟨e', he', -⟩ := (copy_cases hc' he (by decide) hchecked).resolve_right
    fun ⟨_, _, n, f, ⟨⟨p, hn⟩, _⟩, _⟩ => by cases hn.outputPath.symm.trans hepath
  obtain ⟨hall, -⟩ := hs.copies_agree (hs.perform _) hc hc' hd he (by decide) (by decide)
    (hdedition.trans heedition.symm)
  exact ⟨hs, d', e', hd', he', hover.url.trans hurl, (hall d' e' hd' he').1⟩

end Session

end MigrationConfig
