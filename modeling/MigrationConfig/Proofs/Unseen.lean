/-
# What never looks at the environment

The variables of the process are read once, when a loader settles its sources.  All
that is done to the host afterwards runs as it would in another process: the outcome
is the same, and so is the host that is left, but for the variables (`HostM.Blind`).

A process is told apart by its variables only, so the second host is written as the
first one with other variables.
-/
import MigrationConfig.Proofs.Loading

namespace MigrationConfig

/-- The host in a process with other variables. -/
def Host.withEnvironment (h : Host) (environment : Variables) : Host := { h with environment }

namespace Host

variable (h : Host) (environment : Variables)

theorem withEnvironment_logged (es : List Event) :
    (h.withEnvironment environment).logged es = (h.logged es).withEnvironment environment := rfl

theorem withEnvironment_closeReplaced (old next : Option Sink) :
    (h.withEnvironment environment).closeReplaced old next =
      (h.closeReplaced old next).withEnvironment environment := by
  unfold closeReplaced
  split <;> rfl

theorem withEnvironment_closing (old next : Option Sink) :
    (h.withEnvironment environment).closing old next = h.closing old next := rfl

end Host

/-- The action runs alike whatever the variables of the process are. -/
def HostM.Blind {α : Type} (x : HostM α) : Prop :=
  ∀ (h : Host) (environment : Variables), x.run (h.withEnvironment environment) =
    ((x.run h).1, (x.run h).2.withEnvironment environment)

namespace HostM.Blind

variable {α β : Type}

theorem ofExcept (x : Except Error α) : Blind (HostM.ofExcept x) := by
  intro h environment
  rw [run_ofExcept, run_ofExcept]

theorem pure (a : α) : Blind (Pure.pure a : HostM α) := ofExcept (.ok a)

theorem log (e : Event) : Blind (HostM.log e) := fun _ _ => rfl

theorem bind {x : HostM α} {f : α → HostM β} (hx : Blind x) (hf : ∀ a, Blind (f a)) :
    Blind (x >>= f) := by
  intro h environment
  have hx' := hx h environment
  rcases hr : x.run h with ⟨r, h'⟩
  rw [hr] at hx'
  cases r with
  | ok a => rw [run_bind_ok hx', run_bind_ok hr, hf a h' environment]
  | error e => rw [run_bind_error hx', run_bind_error hr]

/-- An action may look at the rest of the host. -/
theorem look {f : Host → HostM α} (hf : ∀ h, Blind (f h))
    (hrest : ∀ h environment, f (h.withEnvironment environment) = f h) :
    Blind ((get : HostM Host) >>= f) := by
  intro h environment
  rw [run_bind_ok (run_get _), run_bind_ok (run_get _), hrest, hf h h environment]

end HostM.Blind

/-! ## Extensions and outputs -/

namespace ClassLoader

theorem instantiate_blind (l : ClassLoader) (role : Option Interface) (name : String) :
    HostM.Blind (l.instantiate role name) := by
  refine .look (fun h => ?_) fun _ _ => rfl
  exact .bind (.ofExcept _) fun i => .bind (.log _) fun _ => .pure i

theorem instantiateAll_blind (l : ClassLoader) (role : Option Interface) (names : List String) :
    HostM.Blind (l.instantiateAll role names) := by
  induction names with
  | nil => exact .pure []
  | cons name rest ih =>
      exact .bind (l.instantiate_blind role name) fun i => .bind ih fun is => .pure (i :: is)

end ClassLoader

namespace Kind

theorem openOutput_blind (p : Path) : HostM.Blind (openOutput p) := by
  intro h environment
  have hfiles : (h.withEnvironment environment).files = h.files := rfl
  rw [openOutput_run, openOutput_run, hfiles]
  cases h.files.obstacle? p with
  | some e => rfl
  | none =>
      cases h.files.isDirectory p with
      | true => rfl
      | false =>
          rcases h.files.create p with ⟨files, failure⟩
          cases failure <;> rfl

/-- No setting asks for the variables when it is given an argument. -/
theorem accept_blind (field : String) (loader : ClassLoader) (k : Kind) (a : k.Argument) :
    HostM.Blind (accept field loader k a) := by
  cases k with
  | flag | text | optionalText | nonEmptyText | connectionText | table | provider =>
      exact .pure _
  | counter | requiredText | encoding | version | texts => exact .ofExcept _
  | patterns | overrides => exact .bind (.ofExcept _) fun _ => .ofExcept _
  | instances role =>
      cases a with
      | given xs => exact .bind (.ofExcept _) fun _ => .ofExcept _
      | named names =>
          exact .bind (.ofExcept _) fun ns => loader.instantiateAll_blind (some role) ns
  | output =>
      cases a with
      | stream s => exact .pure _
      | file p => exact .bind (openOutput_blind p) fun sink => .pure (some sink)

end Kind

/-! ## Files -/

/-- The files are read alike. -/
theorem SettingsFile.loadAll_blind (encoding : String) (areRequired : Bool) (files : List Path)
    (loaded : PropertyMap) : HostM.Blind (loadAll encoding areRequired loaded files) := by
  induction files generalizing loaded with
  | nil => exact .pure loaded
  | cons p rest ih =>
      intro h environment
      have hfiles : (h.withEnvironment environment).files = h.files := rfl
      have hdecoders : (h.withEnvironment environment).decoders = h.decoders := rfl
      rw [loadAll_cons_run, loadAll_cons_run, hfiles, hdecoders]
      cases fetch h.decoders h.files encoding areRequired p with
      | error e => rfl
      | ok found => exact ih _ (h.logged found.2) environment

namespace Loader

theorem Sources.loadFiles_blind (src : Sources) : HostM.Blind src.loadFiles :=
  SettingsFile.loadAll_blind src.encoding src.areRequired src.files .empty

theorem classesOn_withEnvironment (l : Loader) (h : Host) (environment : Variables) :
    l.classesOn (h.withEnvironment environment) =
      ((l.classesOn h).1, (l.classesOn h).2.withEnvironment environment) := by
  unfold classesOn
  cases l.classes <;> rfl

end Loader

end MigrationConfig
