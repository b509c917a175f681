/-
# Invariants of configurations

Whatever is done with a configuration is made of single changes: a pass and a copy
are sequences of them, and a loader runs a pass on a new configuration.  So a
property that new configurations have, and that no single change takes away, is
never lost.  It holds of every configuration of a session at any time, also where
a command has failed halfway.

The argument is made once here, for any such property.  Some properties are weaker:
one sort of change would take them away, yet it is not done alone, or a copy makes
up for it.  `Lasting` is what is really needed of a property, and sessions may be
restricted to the changes that are allowed (`ReachableBy`).
-/
import MigrationConfig.Proofs.Conclusion
import MigrationConfig.Session

namespace MigrationConfig

/-- A property that new configurations have and single changes preserve. -/
structure Config.Invariant (P : Config → Prop) : Prop where
  initial : ∀ edition loader, P (.new edition loader)
  preserved : ∀ (k : Change) {c c' : Config} {h h' : Host}, P c →
    (k.perform c).run h = (.ok c', h') → P c'

/-! ## Procedures -/

/-- A procedure that takes a property away from no configuration, whether it returns
or fails. -/
def Procedure.Keeps {α : Type} (P : Config → Prop) (x : Procedure α) : Prop :=
  ∀ t, P t.config → P (x.run t).2.config

namespace Procedure.Keeps

variable {α β : Type} {P : Config → Prop}

theorem pure (a : α) : Keeps P (Pure.pure a : Procedure α) := by
  intro t ht
  exact ht

theorem throw (e : Error) : Keeps P (throw e : Procedure α) := by
  intro t ht
  exact ht

theorem config : Keeps P Procedure.config := by
  intro t ht
  exact ht

theorem log (e : Event) : Keeps P (Procedure.log e) := by
  intro t ht
  exact ht

theorem ofExcept (x : Except Error α) : Keeps P (Procedure.ofExcept x) := by
  intro t ht
  rw [run_ofExcept]
  exact ht

theorem bind {x : Procedure α} {f : α → Procedure β} (hx : Keeps P x)
    (hf : ∀ a, Keeps P (f a)) : Keeps P (x >>= f) := by
  intro t ht
  have hx := hx t ht
  rcases hr : x.run t with ⟨r, t'⟩
  rw [hr] at hx
  cases r with
  | ok a =>
      rw [run_bind_ok hr]
      exact hf a t' hx
  | error e =>
      rw [run_bind_error hr]
      exact hx

theorem ite {p : Prop} [Decidable p] {x y : Procedure α} (hx : Keeps P x) (hy : Keeps P y) :
    Keeps P (if p then x else y) := by
  split
  · exact hx
  · exact hy

theorem forM {f : α → Procedure PUnit} (hf : ∀ a, Keeps P (f a)) :
    ∀ xs : List α, Keeps P (xs.forM f) := by
  intro xs
  induction xs with
  | nil => exact pure _
  | cons x rest ih => exact bind (hf x) fun _ => ih

end Procedure.Keeps

namespace Config

variable {P : Config → Prop}

/-- A change that fails leaves the configuration as it is. -/
theorem keeps_change {k : Change}
    (hk : ∀ {c c' : Config} {h h' : Host}, P c → (k.perform c).run h = (.ok c', h') → P c') :
    Procedure.Keeps P (Procedure.change fun c => k.perform c) := by
  intro t ht
  rw [Procedure.run_change]
  rcases hr : (k.perform t.config).run t.host with ⟨r, h'⟩
  cases r with
  | ok c' => exact hk ht hr
  | error e => exact ht

/-- Assignments take a property away from no configuration. -/
def KeptByAssignments (P : Config → Prop) : Prop :=
  ∀ (s : Setting) (a : s.Argument), Procedure.Keeps P (Procedure.change fun c => c.assign s a)

/-- Deriving the connection takes a property away from no configuration. -/
def KeptByDerivations (P : Config → Prop) : Prop :=
  ∀ p : Option PropertyMap, Procedure.Keeps P (Procedure.change fun c => c.deriveConnection p)

/-! ## Passes -/

theorem KeptByAssignments.applySetting (hP : KeptByAssignments P) (m : PropertyMap)
    (s : Setting) : Procedure.Keeps P (Config.applySetting m s) := by
  unfold Config.applySetting
  split
  · exact .pure _
  · refine .bind (.ofExcept _) fun o => ?_
    cases o with
    | some a => exact hP s a
    | none => exact .pure _

theorem KeptByAssignments.applySettings (hP : KeptByAssignments P) (m : PropertyMap) :
    ∀ ss : List Setting, Procedure.Keeps P (Config.applySettings m ss) := by
  intro ss
  induction ss with
  | nil => exact .pure _
  | cons s rest ih => exact .bind (hP.applySetting m s) fun _ => ih

theorem KeptByDerivations.conclude (hP : KeptByDerivations P) (m : PropertyMap) (root : String)
    (driverProperties : PropertyMap) :
    Procedure.Keeps P (Config.conclude m root driverProperties) := by
  have report : ∀ (b : Bool) (keys : List String) (n : Nat),
      Procedure.Keeps P (do
        if b then throw (.unrecognized keys)
        Procedure.log (.propertiesApplied n)) := by
    intro b keys n
    exact .ite (.bind (.throw _) fun _ => .log _) (.log _)
  unfold Config.conclude
  exact .ite (.bind (hP (some driverProperties)) fun _ => report _ _ _) (report _ _ _)

/-- A pass assigns, and derives the connection. -/
theorem KeptByAssignments.apply (ha : KeptByAssignments P) (hd : KeptByDerivations P)
    (m : PropertyMap) (root : String) : Procedure.Keeps P (Config.apply m root) := by
  unfold Config.apply
  refine .bind (ha.applySettings m _) fun _ => .bind .config fun c => ?_
  refine .bind (ha .placeholders _) fun _ => .bind .config fun c => ?_
  refine .bind .config fun d => .ite ?_ (hd.conclude m root _)
  exact .bind (ha .jdbcProperties _) fun _ => hd.conclude m root _

/-! ## Copies -/

theorem Source.read_keeps (source : Source) : Procedure.Keeps P source.read := by
  cases source with
  | itself => exact .config
  | other c => exact .pure c

theorem copySetting_keeps (source : Source) {s : Setting}
    (hs : ∀ a : s.Argument, Procedure.Keeps P (Procedure.change fun c => c.assign s a)) :
    Procedure.Keeps P (copySetting source s) := by
  refine .bind .config fun c => .ite ?_ (.pure _)
  exact .bind source.read_keeps fun d => hs _

/-- A copy of some settings assigns these only. -/
theorem copySettings_keeps (source : Source) :
    ∀ {ss : List Setting}, (∀ s ∈ ss, ∀ a : s.Argument,
      Procedure.Keeps P (Procedure.change fun c => c.assign s a)) →
        Procedure.Keeps P (copySettings source ss) := by
  intro ss
  induction ss with
  | nil => exact fun _ => .pure _
  | cons s rest ih =>
      intro hss
      refine .bind (copySetting_keeps source (hss s (List.mem_cons_self ..))) fun _ => ?_
      exact ih fun x hx => hss x (List.mem_cons_of_mem _ hx)

/-! ## What lasts -/

/-- A property that new configurations have, and that is taken away by no pass, by
no copy from a configuration that has it, and by no single change of a sort. -/
structure Lasting (allowed : Change → Prop) (P : Config → Prop) : Prop where
  initial : ∀ edition loader, P (.new edition loader)
  change : ∀ k, allowed k → Procedure.Keeps P (Procedure.change fun c => k.perform c)
  pass : ∀ m root, Procedure.Keeps P (apply m root)
  copy : ∀ c, P c → Procedure.Keeps P (copyFrom (.other c))
  selfCopy : Procedure.Keeps P (copyFrom .itself)

/-- Passes and copies are made of changes. -/
theorem Invariant.lasting (hP : Invariant P) : Lasting (fun _ => True) P := by
  have hchange : ∀ k : Change, Procedure.Keeps P (Procedure.change fun c => k.perform c) :=
    fun k => keeps_change (hP.preserved k)
  have hassign : KeptByAssignments P := fun s a => hchange (.assign s a)
  have hcopy : ∀ source, Procedure.Keeps P (copyFrom source) := by
    intro source
    refine .bind source.read_keeps fun c => .bind (hchange (.descriptor c.descriptor)) fun _ => ?_
    refine .bind (copySettings_keeps source fun s _ => hassign s) fun _ => ?_
    refine .bind source.read_keeps fun d => ?_
    exact hchange (.identity (d.get .url) (d.get .user) (d.get .password))
  exact
    { initial := hP.initial
      change := fun k _ => hchange k
      pass := hassign.apply fun p => hchange (.deriveConnection p)
      copy := fun c _ => hcopy (.other c)
      selfCopy := hcopy .itself }

variable {allowed : Change → Prop}

/-- The properties of an environment are applied as any others. -/
theorem Lasting.applyEnvironment (hP : Lasting allowed P) (environment : Variables) :
    Procedure.Keeps P (Environment.apply environment) :=
  .bind (.forM .log _) fun _ => hP.pass _ propertyRoot

theorem Lasting.clone (hP : Lasting allowed P) {c : Config} (hc : P c) (h : Host) :
    P (Config.clone c h).2.config :=
  hP.copy c hc _ (hP.initial c.edition c.loader)

end Config

/-! ## Loaders -/

namespace LoaderM

variable {α β : Type}

theorem run_bind (x : LoaderM β) (f : β → LoaderM α) (l : Loader) (h : Host) :
    (x >>= f).run l h =
      match x.run l h with
      | ((.ok b, l'), h') => (f b).run l' h'
      | ((.error e, l'), h') => ((.error e, l'), h') := by
  show (StateT.bind x.run (ExceptT.bindCont f)) l h = _
  show (ExceptT.bindCont f (x.run l h).1.1) (x.run l h).1.2 (x.run l h).2 = _
  rcases x.run l h with ⟨⟨r, l'⟩, h'⟩
  cases r <;> rfl

theorem run_onHost (x : HostM α) (l : Loader) (h : Host) :
    (onHost x).run l h = (((x.run h).1, l), (x.run h).2) := by
  unfold onHost
  rfl

end LoaderM

/-- The configuration that a procedure has left is yielded, unless the procedure fails. -/
theorem Loader.configured_run (c : Config) (p : Procedure Unit) (h : Host) :
    (Loader.configured c p).run h =
      ((p.run ⟨c, h⟩).1.map fun _ => (p.run ⟨c, h⟩).2.config, (p.run ⟨c, h⟩).2.host) := by
  unfold Loader.configured
  rcases hr : p.run ⟨c, h⟩ with ⟨r, t⟩
  cases r with
  | ok u =>
      simp only [ExceptT.run_mk, hr]
      rfl
  | error e =>
      simp only [ExceptT.run_mk, hr]
      rfl

/-- A run of a loader yields only what has a property. -/
def LoaderM.Yields {α : Type} (Q : α → Prop) (x : LoaderM α) : Prop :=
  ∀ l h a, (x.run l h).1.1 = .ok a → Q a

namespace LoaderM.Yields

variable {α β : Type} {Q : α → Prop}

theorem pure {a : α} (ha : Q a) : Yields Q (Pure.pure a : LoaderM α) := by
  intro l h b hb
  cases hb
  exact ha

/-- Of a sequence, the last run yields the result. -/
theorem bind {R : β → Prop} {x : LoaderM β} {f : β → LoaderM α} (hx : Yields R x)
    (hf : ∀ b, R b → Yields Q (f b)) : Yields Q (x >>= f) := by
  intro l h a ha
  have hx := hx l h
  rw [run_bind] at ha
  rcases hr : x.run l h with ⟨⟨r, l'⟩, h'⟩
  rw [hr] at hx ha
  cases r with
  | ok b => exact hf b (hx b rfl) l' h' a ha
  | error e => cases ha

/-- What is done before the result does not matter. -/
theorem after {x : LoaderM β} {f : β → LoaderM α} (hf : ∀ b, Yields Q (f b)) :
    Yields Q (x >>= f) :=
  bind (R := fun _ => True) (fun _ _ _ _ => trivial) fun b _ => hf b

theorem onHost {x : HostM α} (hx : ∀ h a h', x.run h = (.ok a, h') → Q a) :
    Yields Q (LoaderM.onHost x) := by
  intro l h a ha
  rw [run_onHost] at ha
  exact hx h a (x.run h).2 (Prod.ext ha rfl)

end LoaderM.Yields

namespace Config

variable {P : Config → Prop}

variable {allowed : Change → Prop}

theorem Lasting.configured (hP : Lasting allowed P) (edition : Edition) (loader : ClassLoader)
    (m : PropertyMap) {c : Config} {h h' : Host}
    (hr : (Loader.configured (.new edition loader) (configure m)).run h = (.ok c, h')) : P c := by
  have hkeep := hP.pass m propertyRoot ⟨.new edition loader, h⟩ (hP.initial edition loader)
  rcases hrun : (configure m).run ⟨.new edition loader, h⟩ with ⟨r, t⟩
  rw [show (Config.apply m propertyRoot).run _ = _ from hrun] at hkeep
  rw [Loader.configured_run, hrun] at hr
  cases r with
  | ok u =>
      cases hr
      exact hkeep
  | error e => cases hr

theorem Lasting.load (hP : Lasting allowed P) (overrides : PropertyMap)
    (environment : Option Variables) : LoaderM.Yields P (Loader.load overrides environment) := by
  unfold Loader.load
  refine .after fun properties => .after fun l => ?_
  have hrest : ∀ classes, LoaderM.Yields P (do
      let c ← LoaderM.onHost (Loader.configured (.new l.edition classes) (configure properties))
      let findings := Findings.of c
      LoaderM.remember fun l => { l with findings }
      LoaderM.onHost (Loader.report findings)
      return c) := by
    intro classes
    refine .bind (.onHost fun h c h' hr => hP.configured l.edition classes properties hr) ?_
    intro c hc
    exact .after fun _ => .after fun _ => .pure hc
  cases l.classes with
  | some k => exact .after hrest
  | none => exact .after hrest

end Config

/-! ## Sessions -/

/-- The direct changes of configurations that a command makes are of some sort. -/
def Command.Makes (allowed : Change → Prop) : Command → Prop
  | .change _ c => allowed c
  | _ => True

namespace Session

/-- Every configuration of a session has a property. -/
def Holds (P : Config → Prop) (s : Session) : Prop := ∀ id c, s.config? id = some c → P c

/-- The sessions that commands lead to, with anything in between that leaves the
configurations alone: the host changes, a loader is used elsewhere, something is
looked at. -/
inductive Reachable : Session → Prop where
  | new (h : Host) : Reachable (.new h)
  | perform {s : Session} (k : Command) : Reachable s → Reachable (s.perform k).2
  | meanwhile {s s' : Session} : Reachable s → s'.configs = s.configs → Reachable s'

/-- The sessions that commands lead to which make only some sort of direct
changes. -/
inductive ReachableBy (allowed : Change → Prop) : Session → Prop where
  | new (h : Host) : ReachableBy allowed (.new h)
  | perform {s : Session} (k : Command) : k.Makes allowed → ReachableBy allowed s →
      ReachableBy allowed (s.perform k).2
  | meanwhile {s s' : Session} : ReachableBy allowed s → s'.configs = s.configs →
      ReachableBy allowed s'

theorem Reachable.reachableBy {s : Session} (hs : s.Reachable) {allowed : Change → Prop}
    (hall : ∀ k, allowed k) : s.ReachableBy allowed := by
  induction hs with
  | new h => exact .new h
  | perform k _ ih =>
      refine .perform k ?_ ih
      cases k with
      | change id c => exact hall c
      | _ => trivial
  | meanwhile _ hconfigs ih => exact .meanwhile ih hconfigs

variable {α β : Type} {P : Config → Prop} {allowed : Change → Prop} {s s' : Session}

theorem Holds.of_configs (hs : s.Holds P) (h : s'.configs = s.configs) : s'.Holds P := by
  intro id c hc
  rw [config?, h] at hc
  exact hs id c hc

theorem Holds.withConfig (hs : s.Holds P) (id : String) {c : Config} (hc : P c) :
    (s.withConfig id c).Holds P := by
  intro id' c' hc'
  rw [config?, Session.withConfig, Entries.get?_put] at hc'
  split at hc'
  · cases hc'
    exact hc
  · exact hs id' c' hc'

theorem onHost_configs (s : Session) (x : HostM α) : (s.onHost x).2.configs = s.configs := by
  unfold onHost
  rcases x.run s.host with ⟨r, h⟩
  rfl

theorem runLoader_configs (s : Session) (name : String) (l : Loader) (x : LoaderM α) :
    (s.runLoader name l x).2.configs = s.configs := by
  unfold runLoader
  rcases x.run l s.host with ⟨⟨r, l'⟩, h⟩
  rfl

theorem runLoader_result (s : Session) (name : String) (l : Loader) (x : LoaderM α) :
    (s.runLoader name l x).1 = (x.run l s.host).1.1 := by
  unfold runLoader
  rcases x.run l s.host with ⟨⟨r, l'⟩, h⟩
  rfl

theorem Holds.andThen {o : Outcome α} {f : α → Session → Outcome β} (ho : o.2.Holds P)
    (hf : ∀ a, o.1 = .ok a → (f a o.2).2.Holds P) : (Session.andThen o f).2.Holds P := by
  rcases o with ⟨r, s⟩
  cases r with
  | ok a => exact hf a rfl
  | error e => exact ho

theorem Holds.onConfig (hs : s.Holds P) (id : String) {f : Config → Outcome Answer}
    (hf : ∀ c, P c → (f c).2.Holds P) : (s.onConfig id f).2.Holds P := by
  unfold Session.onConfig
  cases hc : s.config? id with
  | some c => exact hf c (hs id c hc)
  | none => exact hs

theorem Holds.onLoader (hs : s.Holds P) (name : String) {f : Loader → Outcome Answer}
    (hf : ∀ l, (f l).2.Holds P) : (s.onLoader name f).2.Holds P := by
  unfold Session.onLoader
  split
  · exact hf _
  · exact hs

/-- A procedure may fail, but what it leaves still has the property. -/
theorem Holds.runOn (hs : s.Holds P) (id : String) {p : Procedure Unit}
    (hp : Procedure.Keeps P p) : (s.runOn id p).2.Holds P := by
  refine hs.onConfig id fun c hc => ?_
  have hkeep := hp ⟨c, s.host⟩ hc
  rcases hr : p.run ⟨c, s.host⟩ with ⟨r, t⟩
  rw [hr] at hkeep
  exact (hs.withConfig id hkeep).of_configs rfl

theorem Holds.create (hs : s.Holds P) (hP : Config.Lasting allowed P) (id edition : String)
    (package : Option String) : (s.create id edition package).2.Holds P := by
  unfold Session.create
  split
  · exact hs
  · next edition _ =>
      have hhost := hs.of_configs (s.onHost_configs (HostM.newLoader package))
      exact hhost.andThen fun loader _ => hhost.withConfig id (hP.initial edition loader)

theorem Holds.clone (hs : s.Holds P) (hP : Config.Lasting allowed P) (id : String)
    {source : Config} (hsource : P source) : (s.clone id source).2.Holds P := by
  have hclone := hP.clone hsource s.host
  unfold Session.clone
  rcases hr : Config.clone source s.host with ⟨r, t⟩
  rw [hr] at hclone
  cases r with
  | ok u => exact (hs.withConfig id hclone).of_configs rfl
  | error e => exact hs.of_configs rfl

theorem Holds.copy (hs : s.Holds P) (hP : Config.Lasting allowed P) (id source : String) :
    (s.copy id source).2.Holds P := by
  unfold Session.copy
  split
  · exact hs.runOn id hP.selfCopy
  · split
    · next c hc => exact hs.runOn id (hP.copy c (hs source c hc))
    · exact hs

theorem Holds.format (hs : s.Holds P) (c : Config) (name : String) (file : Option Path) :
    (s.format c name file).2.Holds P := by
  unfold Session.format
  split
  · exact hs
  · split
    · exact hs
    · exact hs.of_configs rfl

theorem Holds.makeLoader (hs : s.Holds P) (name : String) (settings : Option Arguments)
    (edition : String) (package : Option String) :
    (s.makeLoader name settings edition package).2.Holds P := by
  unfold Session.makeLoader
  simp only
  split
  · exact hs
  · exact hs
  · cases package with
    | none => exact hs.of_configs rfl
    | some p =>
        have hhost := hs.of_configs (s.onHost_configs (HostM.newLoader (some p)))
        exact hhost.andThen fun k _ => hhost.of_configs rfl

theorem Holds.load (hs : s.Holds P) (hP : Config.Lasting allowed P) (name id : String) (l : Loader)
    (overrides : PropertyMap) (environment : Option Variables) :
    (Session.andThen (s.runLoader name l (Loader.load overrides environment)) fun c s =>
      (.ok .nothing, s.withConfig id c) : Outcome Answer).2.Holds P := by
  have hrun := hs.of_configs (s.runLoader_configs name l (Loader.load overrides environment))
  refine hrun.andThen fun c hc => hrun.withConfig id ?_
  rw [runLoader_result] at hc
  exact hP.load overrides environment l s.host c hc

/-- A command takes a lasting property away from no configuration. -/
theorem Holds.perform (hs : s.Holds P) (hP : Config.Lasting allowed P) {k : Command}
    (hk : k.Makes allowed) : (s.perform k).2.Holds P := by
  cases k with
  | create id edition package => exact hs.create hP id edition package
  | clone id source =>
      unfold Session.perform
      simp only
      split
      · next c hc => exact hs.clone hP id (hs source c hc)
      · exact hs
  | copy id source => exact hs.copy hP id source
  | configure id properties root => exact hs.runOn id (hP.pass properties root)
  | readEnvironment id environment => exact hs.runOn id (hP.applyEnvironment _)
  | change id c => exact hs.runOn id (hP.change c hk)
  | connection id =>
      refine hs.onConfig id fun c _ => ?_
      have hhost := hs.of_configs (s.onHost_configs c.connection)
      exact hhost.andThen fun _ _ => hhost
  | sharesLoader id other => exact hs.onConfig id fun _ _ => hs.onConfig other fun _ _ => hs
  | readings id | properties id => exact hs.onConfig id fun _ _ => hs
  | format id name file => exact hs.onConfig id fun c _ => hs.format c name file
  | review id => exact hs.onConfig id fun _ _ => hs.of_configs rfl
  | loader name settings edition package => exact hs.makeLoader name settings edition package
  | collect name overrides environment =>
      refine hs.onLoader name fun l => ?_
      have hrun := hs.of_configs
        (s.runLoader_configs name l (Loader.collect overrides environment))
      exact hrun.andThen fun _ _ => hrun
  | load name id overrides environment =>
      exact hs.onLoader name fun l => hs.load hP name id l overrides environment
  | summary name => exact hs.onLoader name fun _ => hs

/-- A lasting property holds of every configuration, however a session has come
about. -/
theorem ReachableBy.holds (hr : s.ReachableBy allowed) (hP : Config.Lasting allowed P) :
    s.Holds P := by
  induction hr with
  | new h =>
      intro id c hc
      cases hc
  | perform k hk _ ih => exact ih.perform hP hk
  | meanwhile _ hconfigs ih => exact ih.of_configs hconfigs

/-- So does an invariant, without any restriction. -/
theorem Reachable.holds (hr : s.Reachable) (hP : Config.Invariant P) : s.Holds P :=
  (hr.reachableBy fun _ => trivial).holds hP.lasting

end Session

end MigrationConfig
