/-
# Changes write by write

A change was said to yield a configuration or none.  What really happens is that one
configuration is written to: a setting at a time, with other work in between that may
fail, such as a list of which a later item is not accepted, a class that cannot be
loaded, or a file that cannot be opened or closed.  The changes are taken apart here into
their writes, in the order in which they happen (`Change.steps`), and then put together
again (`steps_run`): no write comes before anything that can fail.  So a change that fails
has written nothing.  Nor has it closed anything, unless what failed is just the closing of
the file that was to be replaced (`Config.Jams`), and then it has closed that one; otherwise
all that can be seen of the configuration is as it was.
-/
import MigrationConfig.Proofs.Copies
import MigrationConfig.Proofs.Lockstep

namespace MigrationConfig

/-! ## Writes -/

namespace Procedure

/-- Writes to the configuration at hand. -/
def write (f : Config → Config) : Procedure Unit :=
  modify fun t => { t with config := f t.config }

/-- Acts on the host with an eye on the configuration; what an action did to the host
stays. -/
def act {α : Type} (x : Config → HostM α) : Procedure α :=
  ExceptT.mk fun t => (((x t.config).run t.host).1, ⟨t.config, ((x t.config).run t.host).2⟩)

variable {α : Type}

@[simp] theorem run_write (f : Config → Config) (t : Situation) :
    (write f).run t = (.ok (), ⟨f t.config, t.host⟩) := rfl

theorem run_act {x : Config → HostM α} {c : Config} {h h' : Host} {r : Except Error α}
    (hx : (x c).run h = (r, h')) : (act x).run ⟨c, h⟩ = (r, ⟨c, h'⟩) := by
  show (((x c).run h).1, Situation.mk c ((x c).run h).2) = _
  rw [hx]

end Procedure

namespace Config

def withoutDescriptor (c : Config) : Config := { c with descriptor := none }

/-- An assignment: the edition is asked first, the descriptor goes if it depends on the
setting, the argument is accepted, a file that is replaced is closed, which may fail, and
then the setting is written. -/
def assignSteps (s : Setting) (a : s.Argument) : Procedure Unit := do
  let c ← Procedure.config
  Procedure.ofExcept (c.require s)
  if s.kind == .connectionText then Procedure.write withoutDescriptor
  let v ← Procedure.act fun c => s.kind.accept s.name c.loader a
  Procedure.act fun c =>
    HostM.closeReplaced (c.get .dryRunOutput) ((c.put s v).get .dryRunOutput)
  Procedure.write fun c => c.put s v

/-- The three settings that tell who connects to what. -/
def identitySteps (url user password : Option String) : Procedure Unit := do
  Procedure.write fun c => c.put .url url
  Procedure.write fun c => c.put .user user
  Procedure.write fun c => c.put .password password

end Config

/-- The writes of a change, in the order in which they happen. -/
def Change.steps : Change → Procedure Unit
  | .assign s a => Config.assignSteps s a
  | .target v => Config.assignSteps .target (.given (v.getD .latest))
  | .descriptor d => do
      Procedure.write fun c => c.put .driver none
      Config.identitySteps none none none
      Procedure.write fun c => { c with descriptor := d }
  | .connectTo url user password => do
      Config.identitySteps url user password
      let d ← Procedure.act fun c =>
        Descriptor.derive none url user password (c.get .jdbcProperties) (some c.loader)
      Procedure.write fun c => { c with descriptor := d }
  | .deriveConnection properties => do
      let d ← Procedure.act fun c =>
        Descriptor.derive (c.get .driver) (c.get .url) (c.get .user) (c.get .password)
          (properties.getD (c.get .jdbcProperties)) (some c.loader)
      Procedure.write fun c => { c with descriptor := d }
  | .identity url user password => Config.identitySteps url user password

namespace Config

/-! ## The writes put together -/

/-- Whatever a connection setting is given is accepted. -/
theorem accept_connectionText_run {k : Kind} (hk : k = .connectionText) (field : String)
    (loader : ClassLoader) (a : k.Argument) (h : Host) :
    ∃ v, (k.accept field loader a).run h = (.ok v, h) := by
  subst hk
  exact ⟨a, rfl⟩

theorem assignSteps_run (s : Setting) (a : s.Argument) (c : Config) (h : Host) :
    (assignSteps s a).run ⟨c, h⟩ = (Procedure.change fun c => c.assign s a).run ⟨c, h⟩ := by
  have hwhole := c.assign_run_steps s a h
  unfold assignSteps
  rw [Procedure.run_bind_ok (Procedure.run_config _)]
  cases hreq : c.require s with
  | error e =>
      rw [hreq] at hwhole
      rw [Procedure.run_bind_error (Procedure.run_ofExcept _ _), Procedure.run_change_error hwhole]
  | ok u =>
      rw [hreq] at hwhole
      rw [Procedure.run_bind_ok (Procedure.run_ofExcept _ _)]
      by_cases hk : s.kind = .connectionText
      · -- the descriptor has gone, and nothing can fail any more
        obtain ⟨v, hv⟩ := accept_connectionText_run hk s.name c.loader a h
        have hs : s ≠ .dryRunOutput := by
          rintro rfl
          cases hk
        obtain ⟨hclosing, hclosed⟩ := h.closing_of_givenUp? (c.givenUp?_put hs v)
        have hclose := HostM.run_closeReplaced (c.get .dryRunOutput)
          ((c.put s v).get .dryRunOutput) h
        rw [hclosing, hclosed] at hclose
        rw [hv] at hwhole
        simp only [hclosing, hclosed, Except.map] at hwhole
        rw [if_pos (beq_iff_eq.2 hk), Procedure.run_bind_ok (Procedure.run_write _ _),
          Procedure.run_bind_ok (Procedure.run_act hv),
          Procedure.run_bind_ok (Procedure.run_act hclose), Procedure.run_write,
          Procedure.run_change_ok hwhole, assigned, if_pos (beq_iff_eq.2 hk)]
        rfl
      · rw [if_neg (fun hc => hk (beq_iff_eq.1 hc))]
        rcases ha : (s.kind.accept s.name c.loader a).run h with ⟨r, h'⟩
        rw [ha] at hwhole
        cases r with
        | error e =>
            rw [Procedure.run_change_error hwhole]
            exact Procedure.run_bind_error (Procedure.run_act ha)
        | ok v =>
            have hclose := HostM.run_closeReplaced (c.get .dryRunOutput)
              ((c.put s v).get .dryRunOutput) h'
            refine (Procedure.run_bind_ok (Procedure.run_act ha)).trans ?_
            dsimp only at hwhole
            cases hclosing : h'.closing (c.get .dryRunOutput) ((c.put s v).get .dryRunOutput) with
            | error e =>
                rw [hclosing] at hwhole hclose
                rw [Procedure.run_change_error hwhole]
                exact Procedure.run_bind_error (Procedure.run_act hclose)
            | ok u =>
                rw [hclosing] at hwhole hclose
                rw [Procedure.run_change_ok hwhole, assigned,
                  if_neg (fun hc => hk (beq_iff_eq.1 hc))]
                exact Procedure.run_bind_ok (Procedure.run_act hclose)

theorem identitySteps_run (url user password : Option String) (c : Config) (h : Host) :
    (identitySteps url user password).run ⟨c, h⟩ =
      (.ok (), ⟨c.withIdentity url user password, h⟩) := rfl

/-- Write by write, a change comes to what it was said to come to. -/
theorem steps_run (k : Change) (c : Config) (h : Host) :
    k.steps.run ⟨c, h⟩ = (Procedure.change fun c => k.perform c).run ⟨c, h⟩ := by
  cases k with
  | assign s a => exact assignSteps_run s a c h
  | target v => exact assignSteps_run .target _ c h
  | descriptor d => rfl
  | connectTo url user password =>
      rw [Procedure.run_change_ok (c.connectTo_run url user password h)]
      have hproperties : (c.withIdentity url user password).get .jdbcProperties =
          c.get .jdbcProperties :=
        c.withIdentity_get_of_not_mem url user password (by decide)
      refine (Procedure.run_bind_ok (identitySteps_run url user password c h)).trans ?_
      refine (Procedure.run_bind_ok (Procedure.run_act (Descriptor.derive_run ..))).trans ?_
      rw [Procedure.run_write, hproperties]
      rfl
  | deriveConnection p =>
      rw [Procedure.run_change_ok (c.deriveConnection_run p h)]
      exact Procedure.run_bind_ok (Procedure.run_act (Descriptor.derive_run ..))
  | identity url user password => rfl

end Config

/-! ## What is seen of a host -/

mutual

/-- A provider is seen by the streams in it that are closed. -/
theorem Look.ofProvider_congr {h h' : Host} (hclosed : h'.isClosed = h.isClosed) :
    ∀ p : Provider, Look.ofProvider h' p = Look.ofProvider h p
  | .list items => by rw [ofProvider, ofProvider, Look.ofProviders_congr hclosed items]
  | .stream n => by rw [ofProvider, ofProvider, hclosed]
  | .scalar _ | .table _ | .path _ | .version _ | .pattern _ | .override _ | .descriptor _
  | .object _ => by rw [ofProvider, ofProvider]

theorem Look.ofProviders_congr {h h' : Host} (hclosed : h'.isClosed = h.isClosed) :
    ∀ ps : List Provider, Look.ofProviders h' ps = Look.ofProviders h ps
  | [] => rfl
  | p :: ps => by
      rw [ofProviders, ofProviders, Look.ofProvider_congr hclosed p,
        Look.ofProviders_congr hclosed ps]

end

namespace Config

/-- Of the host, a reading shows which streams are closed. -/
theorem read_congr (c : Config) {h h' : Host} (hstreams : h'.streams = h.streams)
    (x : Accessor) : c.read h' x = c.read h x := by
  have hclosed : h'.isClosed = h.isClosed := by
    funext n
    rw [Host.isClosed, Host.isClosed, hstreams]
  have hvalue : ∀ (k : Kind) (v : k.Value), Reading.ofValue h' k v = Reading.ofValue h k v := by
    intro k v
    cases k with
    | provider => exact congrArg Reading.provider (Look.ofProvider_congr hclosed v)
    | output =>
        simp only [Reading.ofValue, hclosed]
    | _ => rfl
  cases x with
  | setting s => exact hvalue s.kind (c.get s)
  | edition | descriptor | outputPath => rfl

end Config

/-- The streams are the same, and no accessor of any configuration tells the hosts apart. -/
structure Host.SeenAlike (h h' : Host) : Prop where
  streams : h'.streams = h.streams
  readings : ∀ (d : Config) (x : Accessor), d.read h' x = d.read h x

theorem Host.seenAlike_of_streams {h h' : Host} (hs : h'.streams = h.streams) :
    h.SeenAlike h' :=
  ⟨hs, fun d => d.read_congr hs⟩

namespace Config

/-! ## Changes that fail -/

variable {c : Config} {h h' : Host} {k : Change} {e : Error}

/-- A change that fails opens no stream and closes none, unless it fails because a file
could not be closed. -/
theorem perform_error_streams (hr : (k.perform c).run h = (.error e, h')) :
    h'.streams = h.streams ∨ c.Jams h h' e := by
  cases ho : k.output? with
  | none =>
      have hsame := change_sameOutput ho ⟨c, h⟩
      rw [Procedure.run_change_error hr] at hsame
      exact .inl hsame.streams
  | some a =>
      rw [Change.eq_assign_of_output? ho] at hr
      exact assign_output_error hr

/-- Of a change that fails, no write is done. -/
theorem steps_error (hr : (k.perform c).run h = (.error e, h')) :
    k.steps.run ⟨c, h⟩ = (.error e, ⟨c, h'⟩) := by
  rw [steps_run, Procedure.run_change_error hr]

end Config

namespace Session

variable {s : Session} {id : String} {c : Config} {k : Change}

theorem change_run (hc : s.config? id = some c) (k : Change) :
    s.perform (.change id k) =
      (((Procedure.change fun c => k.perform c).run ⟨c, s.host⟩).1.map fun _ => .nothing,
        s.withSituation id ((Procedure.change fun c => k.perform c).run ⟨c, s.host⟩).2) := by
  simp only [perform, runOn, onConfig, hc]
  rfl

end Session

end MigrationConfig
