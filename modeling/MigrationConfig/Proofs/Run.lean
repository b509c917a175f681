/-
# How actions and procedures run

An action on the host and a procedure on a situation are both a function from a
state to an outcome and the state it leaves.  The lemmas here say what that
function is for each way of building one, so that no later proof opens the
monads: a sequence stops at its first failure, and what was done before stays.
-/
import MigrationConfig.Config.Situation

namespace MigrationConfig

/-- A host with nothing on it: no files, no streams, no modules, no further decoders. -/
def Host.bare : Host := ⟨.empty, [], [], .absent, [], ⟨"", []⟩, 0, []⟩

/-! ## Actions on the host -/

namespace HostM

variable {α β : Type}

@[simp] theorem run_pure (a : α) (h : Host) : (pure a : HostM α).run h = (.ok a, h) := rfl

@[simp] theorem run_throw (e : Error) (h : Host) :
    (throw e : HostM α).run h = (.error e, h) := rfl

theorem run_bind (x : HostM α) (f : α → HostM β) (h : Host) :
    (x >>= f).run h =
      match x.run h with
      | (.ok a, h') => (f a).run h'
      | (.error e, h') => (.error e, h') := by
  show (ExceptT.bindCont f (x.run h).1) (x.run h).2 = _
  rcases x.run h with ⟨r, h'⟩
  cases r with
  | ok a => rfl
  | error e => rfl

@[simp] theorem run_ofExcept (x : Except Error α) (h : Host) :
    (ofExcept x).run h = (x, h) := by
  cases x with
  | ok a => rfl
  | error e => rfl

@[simp] theorem run_get (h : Host) : (get : HostM Host).run h = (.ok h, h) := rfl

@[simp] theorem run_set (h h' : Host) : (set h' : HostM PUnit).run h = (.ok ⟨⟩, h') := rfl

@[simp] theorem run_log (e : Event) (h : Host) : (log e).run h = (.ok (), h.record e) := rfl

/-- An action that succeeds hands its result on. -/
theorem run_bind_ok {x : HostM α} {f : α → HostM β} {h h' : Host} {a : α}
    (hx : x.run h = (.ok a, h')) : (x >>= f).run h = (f a).run h' := by
  rw [run_bind, hx]

/-- An action that fails ends the sequence. -/
theorem run_bind_error {x : HostM α} {f : α → HostM β} {h h' : Host} {e : Error}
    (hx : x.run h = (.error e, h')) : (x >>= f).run h = (.error e, h') := by
  rw [run_bind, hx]

/-- A sequence succeeds only if its parts do. -/
theorem bind_eq_ok {x : HostM α} {f : α → HostM β} {h : Host} {b : β}
    (hb : ((x >>= f).run h).1 = .ok b) :
    ∃ a h', x.run h = (.ok a, h') ∧ ((f a).run h').1 = .ok b := by
  rcases hx : x.run h with ⟨r, h'⟩
  cases r with
  | ok a =>
      rw [run_bind_ok hx] at hb
      exact ⟨a, h', rfl, hb⟩
  | error e =>
      rw [run_bind_error hx] at hb
      cases hb

end HostM

/-! ## Procedures -/

namespace Procedure

variable {α β : Type}

@[simp] theorem run_pure (a : α) (t : Situation) : (pure a : Procedure α).run t = (.ok a, t) := rfl

@[simp] theorem run_throw (e : Error) (t : Situation) :
    (throw e : Procedure α).run t = (.error e, t) := rfl

theorem run_bind (x : Procedure α) (f : α → Procedure β) (t : Situation) :
    (x >>= f).run t =
      match x.run t with
      | (.ok a, t') => (f a).run t'
      | (.error e, t') => (.error e, t') := by
  show (ExceptT.bindCont f (x.run t).1) (x.run t).2 = _
  rcases x.run t with ⟨r, t'⟩
  cases r with
  | ok a => rfl
  | error e => rfl

@[simp] theorem run_config (t : Situation) : config.run t = (.ok t.config, t) := rfl

@[simp] theorem run_log (e : Event) (t : Situation) :
    (log e).run t = (.ok (), { t with host := t.host.record e }) := rfl

@[simp] theorem run_ofExcept (x : Except Error α) (t : Situation) :
    (ofExcept x).run t = (x, t) := by
  cases x with
  | ok a => rfl
  | error e => rfl

theorem run_change (f : Config → HostM Config) (t : Situation) :
    (change f).run t =
      match (f t.config).run t.host with
      | (.ok c, h) => (.ok (), ⟨c, h⟩)
      | (.error e, h) => (.error e, ⟨t.config, h⟩) := rfl

/-- A change that succeeds puts its result in the place of the configuration. -/
theorem run_change_ok {f : Config → HostM Config} {c c' : Config} {h h' : Host}
    (hf : (f c).run h = (.ok c', h')) : (change f).run ⟨c, h⟩ = (.ok (), ⟨c', h'⟩) := by
  rw [run_change, hf]

/-- A change that fails leaves the configuration as it is. -/
theorem run_change_error {f : Config → HostM Config} {c : Config} {h h' : Host} {e : Error}
    (hf : (f c).run h = (.error e, h')) : (change f).run ⟨c, h⟩ = (.error e, ⟨c, h'⟩) := by
  rw [run_change, hf]

theorem run_bind_ok {x : Procedure α} {f : α → Procedure β} {t t' : Situation} {a : α}
    (hx : x.run t = (.ok a, t')) : (x >>= f).run t = (f a).run t' := by
  rw [run_bind, hx]

theorem run_bind_error {x : Procedure α} {f : α → Procedure β} {t t' : Situation} {e : Error}
    (hx : x.run t = (.error e, t')) : (x >>= f).run t = (.error e, t') := by
  rw [run_bind, hx]

/-- A procedure that does not fail returns in the situation it leaves. -/
theorem run_eq_of_isOk {x : Procedure Unit} {t : Situation} (hx : (x.run t).1.isOk = true) :
    x.run t = (.ok (), (x.run t).2) := by
  rcases hr : x.run t with ⟨r, t'⟩
  rw [hr] at hx
  cases r with
  | ok u => rfl
  | error e => cases hx

end Procedure

end MigrationConfig
