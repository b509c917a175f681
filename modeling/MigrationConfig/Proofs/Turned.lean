/-
# What a command does to the streams of a session

A command runs on one configuration or makes a new one, and all others stay as they
are.  So of the streams that configurations expose, a command can close one at most:
the file that the configuration it runs on owns (`Turned.closes`).  A stream comes to
be exposed in three ways only, namely from another configuration, from the caller, or
because the library opens it (`Turned.exposes`).

Loaders read files and write to the log, which touches no stream, until they run a
pass on a configuration of their own.  If that fails the configuration is lost, but
not the file that it may have opened.
-/
import MigrationConfig.Proofs.Rerouted

namespace MigrationConfig

open Situation

/-! ## Actions that have nothing to do with streams -/

/-- An action that leaves the streams as they are, whatever else it does. -/
def HostM.KeepsStreams {α : Type} (x : HostM α) : Prop :=
  ∀ h, (x.run h).2.streams = h.streams

namespace HostM.KeepsStreams

variable {α β : Type}

theorem pure (a : α) : KeepsStreams (Pure.pure a : HostM α) := by
  intro h
  rfl

theorem throw (e : Error) : KeepsStreams (throw e : HostM α) := by
  intro h
  rfl

theorem get : KeepsStreams (get : HostM Host) := by
  intro h
  rfl

theorem log (e : Event) : KeepsStreams (HostM.log e) := by
  intro h
  rfl

theorem newLoader (package : Option String) : KeepsStreams (HostM.newLoader package) := by
  intro h
  rfl

theorem bind {x : HostM α} {f : α → HostM β} (hx : KeepsStreams x)
    (hf : ∀ a, KeepsStreams (f a)) : KeepsStreams (x >>= f) := by
  intro h
  have hx := hx h
  rcases hr : x.run h with ⟨r, h'⟩
  rw [hr] at hx
  cases r with
  | ok a =>
      rw [run_bind_ok hr]
      exact (hf a h').trans hx
  | error e =>
      rw [run_bind_error hr]
      exact hx

theorem ite {p : Prop} [Decidable p] {x y : HostM α} (hx : KeepsStreams x)
    (hy : KeepsStreams y) : KeepsStreams (if p then x else y) := by
  split
  · exact hx
  · exact hy

theorem forM {f : α → HostM PUnit} (hf : ∀ a, KeepsStreams (f a)) :
    ∀ xs : List α, KeepsStreams (xs.forM f) := by
  intro xs
  induction xs with
  | nil => exact pure _
  | cons x rest ih => exact bind (hf x) fun _ => ih

end HostM.KeepsStreams

theorem Config.connection_keepsStreams (c : Config) : HostM.KeepsStreams c.connection := by
  unfold connection
  exact .ite (.bind (.log _) fun _ => .pure _) (.pure _)

theorem SettingsFile.loadAll_keepsStreams (encoding : String) (areRequired : Bool) :
    ∀ (files : List Path) (loaded : PropertyMap),
      HostM.KeepsStreams (loadAll encoding areRequired loaded files) := by
  intro files
  induction files with
  | nil =>
      intro loaded
      exact .pure _
  | cons p rest ih =>
      intro loaded
      unfold loadAll
      refine .bind .get fun h => ?_
      cases h.files.obstacle? p with
      | some e => exact .throw _
      | none =>
          refine .ite (.ite (.throw _) (ih loaded)) ?_
          cases load h.decoders h.files p encoding with
          | ok m => exact .bind (.log _) fun _ => ih _
          | error e => exact .ite (.throw _) (.bind (.log _) fun _ => ih _)

theorem Loader.report_keepsStreams (f : Findings) : HostM.KeepsStreams (Loader.report f) := by
  have rest : HostM.KeepsStreams (do
      if !f.recommendations.isEmpty then
        HostM.log (.recommendations (f.recommendations.map Recommendation.message))) :=
    .ite (.log _) (.pure _)
  unfold report
  exact .bind (.log _) fun _ => .ite (.bind (.log _) fun _ => rest) rest

/-! ## Runs of a loader -/

namespace LoaderM

/-- A run that leaves the streams as they are. -/
def KeepsStreams {α : Type} (x : LoaderM α) : Prop :=
  ∀ l h, (x.run l h).2.streams = h.streams

/-- A run that makes a configuration without an output and does with it what a pass
may do. -/
def Reroutes (offered : StreamId → Prop) (x : LoaderM Config) : Prop :=
  ∀ l h, ∃ c t, c.get .dryRunOutput = none ∧ Rerouted offered ⟨c, h⟩ t ∧
    (x.run l h).2.streams = t.host.streams ∧ ∀ d, (x.run l h).1.1 = .ok d → d = t.config

variable {α β : Type} {offered : StreamId → Prop}

theorem KeepsStreams.onHost {x : HostM α} (hx : HostM.KeepsStreams x) :
    KeepsStreams (LoaderM.onHost x) := by
  intro l h
  rw [run_onHost]
  exact hx h

theorem KeepsStreams.remember (f : Loader → Loader) : KeepsStreams (LoaderM.remember f) := by
  intro l h
  rfl

theorem KeepsStreams.recall : KeepsStreams (getThe Loader : LoaderM Loader) := by
  intro l h
  rfl

theorem KeepsStreams.pure (a : α) : KeepsStreams (Pure.pure a : LoaderM α) := by
  intro l h
  rfl

theorem KeepsStreams.bind {x : LoaderM β} {f : β → LoaderM α} (hx : KeepsStreams x)
    (hf : ∀ b, KeepsStreams (f b)) : KeepsStreams (x >>= f) := by
  intro l h
  have hx := hx l h
  rw [run_bind]
  rcases hr : x.run l h with ⟨⟨r, l'⟩, h'⟩
  rw [hr] at hx
  cases r with
  | ok b => exact (hf b l' h').trans hx
  | error e => exact hx

/-- What leaves the streams alone may come before. -/
theorem Reroutes.after {x : LoaderM β} {f : β → LoaderM Config} (hx : KeepsStreams x)
    (hf : ∀ b, Reroutes offered (f b)) : Reroutes offered (x >>= f) := by
  intro l h
  have hx := hx l h
  rw [run_bind]
  rcases hr : x.run l h with ⟨⟨r, l'⟩, h'⟩
  rw [hr] at hx
  cases r with
  | ok b =>
      obtain ⟨c, t, hc, ht, hstreams, hmade⟩ := hf b l' h'
      exact ⟨c, t, hc, ht.between ⟨rfl, hx⟩ (.refl t), hstreams, hmade⟩
  | error e =>
      refine ⟨.new .community ⟨0, none⟩, ⟨_, h'⟩, rfl, .of_same ⟨rfl, hx⟩, rfl, ?_⟩
      intro d hd
      cases hd

/-- So may what comes after and yields the configuration that was made. -/
theorem Reroutes.before {x : LoaderM Config} {f : Config → LoaderM Config}
    (hx : Reroutes offered x) (hf : ∀ c, KeepsStreams (f c))
    (hyields : ∀ c, Yields (· = c) (f c)) : Reroutes offered (x >>= f) := by
  intro l h
  obtain ⟨c, t, hc, ht, hstreams, hmade⟩ := hx l h
  rw [run_bind]
  rcases hr : x.run l h with ⟨⟨r, l'⟩, h'⟩
  rw [hr] at hstreams hmade
  cases r with
  | ok b =>
      refine ⟨c, t, hc, ht, (hf b l' h').trans hstreams, fun d hd => ?_⟩
      exact (hyields b l' h' d hd).trans (hmade b rfl)
  | error e =>
      refine ⟨c, t, hc, ht, hstreams, fun d hd => ?_⟩
      cases hd

end LoaderM

namespace Loader

theorem collect_keepsStreams (overrides : PropertyMap) (environment : Option Variables) :
    LoaderM.KeepsStreams (collect overrides environment) := by
  unfold collect
  refine .bind .recall fun l => .bind (.onHost .get) fun h => ?_
  refine .bind (.onHost (.forM .log _)) fun _ => .bind (.remember _) fun _ => ?_
  refine .bind (.remember _) fun _ => ?_
  exact .bind (.onHost (SettingsFile.loadAll_keepsStreams _ _ _ _)) fun _ => .pure _

/-- A loader begins with a new configuration, and all that it does to streams is done
by the pass over that. -/
theorem load_reroutes (offered : StreamId → Prop) (overrides : PropertyMap)
    (environment : Option Variables) :
    LoaderM.Reroutes offered (load overrides environment) := by
  have hmake : ∀ (c : Config) (m : PropertyMap), c.get .dryRunOutput = none →
      LoaderM.Reroutes offered (LoaderM.onHost (configured c (Config.configure m))) := by
    intro c m hc l h
    have hpass : Rerouted offered ⟨c, h⟩ ((Config.configure m).run ⟨c, h⟩).2 :=
      Config.apply_rerouted m propertyRoot _
    rw [LoaderM.run_onHost, configured_run]
    rcases hr : (Config.configure m).run ⟨c, h⟩ with ⟨r, t⟩
    rw [hr] at hpass
    refine ⟨c, t, hc, hpass, rfl, fun d hd => ?_⟩
    cases r with
    | ok u => exact (Except.ok.inj hd).symm
    | error e => cases hd
  unfold load
  refine .after (collect_keepsStreams overrides environment) fun m => .after .recall fun l => ?_
  have hrest : ∀ classes, LoaderM.Reroutes offered (do
      let c ← LoaderM.onHost (configured (.new l.edition classes) (Config.configure m))
      let findings := Findings.of c
      LoaderM.remember fun l => { l with findings }
      LoaderM.onHost (report findings)
      return c) := by
    intro classes
    refine .before (hmake _ m rfl) (fun c => ?_) fun c => .after fun _ => .after fun _ => .pure rfl
    exact .bind (.remember _) fun _ => .bind (.onHost (report_keepsStreams _)) fun _ => .pure c
  cases l.classes with
  | some k => exact .after (.pure k) hrest
  | none => exact .after (.onHost (.newLoader none)) hrest

end Loader

/-! ## Sessions -/

/-- The stream that a command hands in from its caller. -/
def Command.HandsIn : Command → StreamId → Prop
  | .change _ k, n => k.output? = some (.stream (some n))
  | _, _ => False

namespace Session

/-- What can become of the streams and of those who expose them, where some are handed
in. -/
structure Turned (handed : StreamId → Prop) (s s' : Session) : Prop where
  origin : ∀ {n o}, s.host.origin? n = some o → s'.host.origin? n = some o
  stays : ∀ {n}, s.host.isClosed n = true → s'.host.isClosed n = true
  stuck : ∀ {n}, s.host.stuck? n = none → s'.host.stuck? n = none
  /-- a stream that is closed was owned by one who gives it up unless it was stuck, and all
  others stay as they are -/
  closes : ∀ {n}, s'.host.isClosed n = true → s.host.isClosed n = true ∨
    ∃ id c d p, s.config? id = some c ∧ c.Owns n p ∧ s'.config? id = some d ∧
      (d.Exposes n ↔ s.host.stuck? n ≠ none) ∧
      ∀ id', id' ≠ id → s'.config? id' = s.config? id'
  /-- a stream that is exposed was so before, or is handed in, or was not there -/
  exposes : ∀ {id d n}, s'.config? id = some d → d.Exposes n →
    (∃ id c, s.config? id = some c ∧ c.Exposes n) ∨ handed n ∨ s.host.origin? n = none
  /-- a file is owned by who opened it -/
  owns : ∀ {id d n p}, s'.config? id = some d → d.Owns n p →
    (∃ c, s.config? id = some c ∧ c.Owns n p) ∨ s'.host.origin? n = some (.opened p)

/-- The streams that come from outside of a configuration: from the caller, or from
another configuration. -/
def Offers (s : Session) (handed : StreamId → Prop) (n : StreamId) : Prop :=
  handed n ∨ ∃ id c, s.config? id = some c ∧ c.Exposes n

section Turned

variable {handed : StreamId → Prop} {s s' : Session} {c : Config} {t : Situation} {id : String}

/-- Nothing happens to the configurations, and a new one that was rerouted is lost. -/
theorem Turned.lost (hc : c.get .dryRunOutput = none)
    (ht : Rerouted (s.Offers handed) ⟨c, s.host⟩ t) (hconfigs : s'.configs = s.configs)
    (hstreams : s'.host.streams = t.host.streams) : s.Turned handed s' := by
  have hconfig : ∀ id, s'.config? id = s.config? id := fun id => by rw [config?, hconfigs]; rfl
  have hhost : SameOutput t ⟨t.config, s'.host⟩ := ⟨rfl, hstreams⟩
  exact
    { origin := fun ho => (hhost.origin? _).trans (ht.origin ho)
      stays := fun hn => (hhost.isClosed _).trans (ht.stays hn)
      stuck := fun hn => (hhost.stuck? _).trans (ht.stuck hn)
      closes := fun {n} hn => by
        rcases ht.closes ((hhost.isClosed n).symm.trans hn) with hn | ⟨⟨p, hp⟩, -⟩
        · exact .inl hn
        · exact absurd (Config.Owns.exposes hp) (Config.not_exposes_of_none hc)
      exposes := fun hd hn => .inl ⟨_, _, (hconfig _).symm.trans hd, hn⟩
      owns := fun hd hn => .inl ⟨_, (hconfig _).symm.trans hd, hn⟩ }

theorem Turned.idle (hconfigs : s'.configs = s.configs)
    (hstreams : s'.host.streams = s.host.streams) : s.Turned handed s' :=
  .lost (c := .new .community ⟨0, none⟩) (t := ⟨_, s.host⟩) rfl (.of_same (.refl _)) hconfigs
    hstreams

/-- A configuration is rerouted, or a new one is, and has the name from then on. -/
theorem Turned.ran (hc : s.config? id = some c ∨ c.get .dryRunOutput = none)
    (ht : Rerouted (s.Offers handed) ⟨c, s.host⟩ t)
    (hconfigs : s'.configs = Entries.put id t.config s.configs)
    (hstreams : s'.host.streams = t.host.streams) : s.Turned handed s' := by
  have hconfig : ∀ id', s'.config? id' = if id = id' then some t.config else s.config? id' := by
    intro id'
    rw [config?, hconfigs, Entries.get?_put]
    simp only [beq_iff_eq]
    rfl
  have hhost : SameOutput t ⟨t.config, s'.host⟩ := ⟨rfl, hstreams⟩
  refine
    { origin := fun ho => (hhost.origin? _).trans (ht.origin ho)
      stays := fun hn => (hhost.isClosed _).trans (ht.stays hn)
      stuck := fun hn => (hhost.stuck? _).trans (ht.stuck hn)
      closes := fun {n} hn => ?_
      exposes := fun {id' d n} hd hn => ?_
      owns := fun {id' d n p} hd hn => ?_ }
  · rcases ht.closes ((hhost.isClosed n).symm.trans hn) with hn | ⟨⟨p, hp⟩, hgiven⟩
    · exact .inl hn
    · have hid : s.config? id = some c :=
        hc.resolve_right fun hnone => Config.not_exposes_of_none hnone hp.exposes
      refine .inr ⟨id, c, t.config, p, hid, hp, ?_, hgiven, fun id' hne => ?_⟩
      · rw [hconfig, if_pos rfl]
      · rw [hconfig, if_neg hne.symm]
  · by_cases hid : id = id'
    · rw [hconfig, if_pos hid] at hd
      obtain rfl := Option.some.inj hd
      rcases ht.exposes hn with (hn | hn) | hn | hn
      · exact .inr (.inl hn)
      · exact .inl hn
      · have hc' := hc.resolve_right fun hnone => Config.not_exposes_of_none hnone hn
        exact .inl ⟨id, c, hc', hn⟩
      · exact .inr (.inr hn)
    · rw [hconfig, if_neg hid] at hd
      exact .inl ⟨id', d, hd, hn⟩
  · by_cases hid : id = id'
    · subst hid
      rw [hconfig, if_pos rfl] at hd
      obtain rfl := Option.some.inj hd
      rcases ht.owns hn with hn | hn
      · have hc' := hc.resolve_right fun hnone => Config.not_exposes_of_none hnone hn.exposes
        exact .inl ⟨c, hc', hn⟩
      · exact .inr ((hhost.origin? n).trans hn)
    · rw [hconfig, if_neg hid] at hd
      exact .inl ⟨d, hd, hn⟩

end Turned

/-! ### Commands -/

section Commands

variable {handed : StreamId → Prop} {α : Type}

theorem onHost_turned (s : Session) {x : HostM α} (hx : HostM.KeepsStreams x) :
    s.Turned handed (s.onHost x).2 := by
  refine .idle (s.onHost_configs x) ?_
  unfold onHost
  have hx := hx s.host
  rcases hr : x.run s.host with ⟨r, h⟩
  rw [hr] at hx
  exact hx

/-- A procedure runs on the configuration of a name. -/
theorem runOn_turned (s : Session) (id : String) {p : Procedure Unit}
    (hp : ∀ t : Situation, s.config? id = some t.config →
      Rerouted (s.Offers handed) t (p.run t).2) :
    s.Turned handed (s.runOn id p).2 := by
  unfold runOn onConfig
  cases hc : s.config? id with
  | none => exact .idle rfl rfl
  | some c =>
      have hrun := hp ⟨c, s.host⟩ hc
      simp only
      rcases hr : p.run ⟨c, s.host⟩ with ⟨r, t⟩
      rw [hr] at hrun
      exact .ran (.inl hc) hrun rfl rfl

theorem clone_turned (s : Session) (id : String) {source : String} {c : Config}
    (hc : s.config? source = some c) : s.Turned handed (s.clone id c).2 := by
  have hcopy : Rerouted (s.Offers handed) ⟨.new c.edition c.loader, s.host⟩ _ :=
    Config.copyFrom_rerouted (.other c) (fun _ _ hn => .inl (.inr ⟨source, c, hc, hn⟩)) _
  unfold Session.clone Config.clone
  rcases hr : (Config.copyFrom (.other c)).run ⟨.new c.edition c.loader, s.host⟩ with ⟨r, t⟩
  rw [hr] at hcopy
  cases r with
  | ok u => exact .ran (.inr rfl) hcopy rfl rfl
  | error e => exact .lost rfl hcopy rfl rfl

theorem copy_turned (s : Session) (id source : String) :
    s.Turned handed (s.copy id source).2 := by
  unfold Session.copy
  split
  · exact s.runOn_turned id fun t _ =>
      Config.copyFrom_rerouted .itself (fun _ _ hn => .inr hn) t
  · split
    · next c hc =>
        exact s.runOn_turned id fun t _ => Config.copyFrom_rerouted (.other c)
          (fun _ _ hn => .inl (.inr ⟨source, c, hc, hn⟩)) t
    · exact .idle rfl rfl

theorem create_turned (s : Session) (id edition : String) (package : Option String) :
    s.Turned handed (s.create id edition package).2 := by
  unfold Session.create
  split
  · exact .idle rfl rfl
  · next edition _ =>
      have hrun : s.onHost (HostM.newLoader package) =
          (.ok ⟨s.host.nextLoader, package⟩,
            { s with host := { s.host with nextLoader := s.host.nextLoader + 1 } }) := rfl
      rw [hrun]
      exact .ran (c := .new edition ⟨s.host.nextLoader, package⟩) (t := ⟨_, s.host⟩)
        (.inr rfl) (.of_same (.refl _)) rfl rfl

theorem load_turned (s : Session) (name id : String) (l : Loader) (overrides : PropertyMap)
    (environment : Option Variables) :
    s.Turned handed (Session.andThen (s.runLoader name l (Loader.load overrides environment))
      fun c s => (.ok .nothing, s.withConfig id c) : Outcome Answer).2 := by
  obtain ⟨c, t, hc, ht, hstreams, hmade⟩ :=
    Loader.load_reroutes (s.Offers handed) overrides environment l s.host
  unfold runLoader
  rcases hr : (Loader.load overrides environment).run l s.host with ⟨⟨r, l'⟩, h'⟩
  rw [hr] at hstreams hmade
  cases r with
  | ok d =>
      obtain rfl := hmade d rfl
      exact .ran (.inr hc) ht rfl hstreams
  | error e => exact .lost hc ht rfl hstreams

theorem makeLoader_turned (s : Session) (name : String) (settings : Option Arguments)
    (edition : String) (package : Option String) :
    s.Turned handed (s.makeLoader name settings edition package).2 := by
  unfold makeLoader
  simp only
  split
  · exact .idle rfl rfl
  · exact .idle rfl rfl
  · cases package <;> exact .idle rfl rfl

/-- The environment is logged, and then applied as any other map. -/
theorem environment_rerouted {offered : StreamId → Prop} (environment : Variables)
    (t : Situation) : Rerouted offered t ((Environment.apply environment).run t).2 := by
  have hrun : (Environment.apply environment).run t =
      (Config.configure (Environment.read false environment).1).run
        ⟨t.config, t.host.logged (Environment.read false environment).2⟩ :=
    Procedure.run_bind_ok (Procedure.run_forM_log _ t)
  have hsame : SameOutput t ⟨t.config, t.host.logged (Environment.read false environment).2⟩ :=
    ⟨rfl, rfl⟩
  rw [hrun]
  exact (Config.apply_rerouted _ _ _).between hsame (.refl _)

/-- What any command does to the streams. -/
theorem perform_turned (s : Session) (k : Command) : s.Turned k.HandsIn (s.perform k).2 := by
  cases k with
  | create id edition package => exact s.create_turned id edition package
  | clone id source =>
      unfold Session.perform
      simp only
      split
      · next c hc => exact s.clone_turned id hc
      · exact .idle rfl rfl
  | copy id source => exact s.copy_turned id source
  | configure id m root => exact s.runOn_turned id fun t _ => Config.apply_rerouted m root t
  | readEnvironment id environment =>
      exact s.runOn_turned id fun t _ => environment_rerouted _ t
  | change id k =>
      exact s.runOn_turned id fun t _ => Config.change_rerouted t fun n hn => .inl hn
  | connection id =>
      unfold Session.perform onConfig
      simp only
      split
      · next c _ =>
          have hhost : s.Turned (Command.connection id).HandsIn (s.onHost c.connection).2 :=
            s.onHost_turned c.connection_keepsStreams
          rcases hr : s.onHost c.connection with ⟨r, s'⟩
          rw [hr] at hhost
          cases r <;> exact hhost
      · exact .idle rfl rfl
  | sharesLoader id other =>
      unfold Session.perform onConfig
      simp only
      split
      · split <;> exact .idle rfl rfl
      · exact .idle rfl rfl
  | readings id | properties id | review id =>
      unfold Session.perform onConfig
      simp only
      split <;> exact .idle rfl rfl
  | format id name file =>
      unfold Session.perform onConfig Session.format
      simp only
      split
      · split
        · exact .idle rfl rfl
        · split <;> exact .idle rfl rfl
      · exact .idle rfl rfl
  | loader name settings edition package => exact s.makeLoader_turned name settings edition package
  | collect name overrides environment =>
      unfold Session.perform onLoader
      simp only
      split
      · next l _ =>
          have hkept := Loader.collect_keepsStreams overrides environment l s.host
          unfold runLoader
          rcases hr : (Loader.collect overrides environment).run l s.host with ⟨⟨r, l'⟩, h'⟩
          rw [hr] at hkept
          cases r <;> exact .idle rfl hkept
      · exact .idle rfl rfl
  | load name id overrides environment =>
      unfold Session.perform onLoader
      simp only
      split
      · next l _ => exact s.load_turned name id l overrides environment
      · exact .idle rfl rfl
  | summary name =>
      unfold Session.perform onLoader
      simp only
      split <;> exact .idle rfl rfl

end Commands

end Session

end MigrationConfig
