/-
# What an acceptance asks of the host

Whether an argument is accepted, and as which value, depends on little of the
host: on the modules, and for the dry-run output on the files and the streams.  An
acceptance leaves the modules as they are, and only that of a dry-run output touches
files or streams; all others add events to the log.

So the settings of a pass can be looked at one by one, each on the host that the
pass began with.
-/
import Mathlib.Tactic.Choose
import MigrationConfig.Proofs.Run

namespace MigrationConfig

/-! ## Making instances -/

/-- The host with more events in its log. -/
def Host.logged (h : Host) (es : List Event) : Host := { h with log := h.log ++ es }

theorem Host.logged_nil (h : Host) : h.logged [] = h := by
  simp [logged]

theorem Host.logged_logged (h : Host) (es fs : List Event) :
    (h.logged es).logged fs = h.logged (es ++ fs) := by
  simp [logged]

/-- Events that are logged one by one. -/
theorem HostM.run_forM_log (es : List Event) (h : Host) :
    (es.forM HostM.log).run h = (.ok (), h.logged es) := by
  induction es generalizing h with
  | nil =>
      rw [Host.logged_nil]
      rfl
  | cons e rest ih =>
      have hstep : ((e :: rest).forM HostM.log).run h = (rest.forM HostM.log).run (h.record e) :=
        run_bind_ok (run_log e h)
      rw [hstep, ih]
      exact congrArg _ (h.logged_logged [e] rest)

/-- The same on the host that a procedure acts on. -/
theorem Procedure.run_forM_log :
    ∀ (es : List Event) (t : Situation),
      (es.forM log).run t = (.ok (), ⟨t.config, t.host.logged es⟩) := by
  intro es
  induction es with
  | nil =>
      intro t
      rw [Host.logged_nil]
      rfl
  | cons e rest ih =>
      intro t
      refine (run_bind_ok (run_log e t)).trans ((ih _).trans ?_)
      exact congrArg (fun h => (Except.ok (), Situation.mk t.config h))
        (t.host.logged_logged [e] rest)

/-- The outcome of an action depends on the modules only, and the log is all
that the action changes. -/
def HostM.LogsOnly {α : Type} (x : HostM α) : Prop :=
  ∃ r : Modules → Except Error α, ∀ h : Host, ∃ es, x.run h = (r h.modules, h.logged es)

namespace HostM.LogsOnly

variable {α β : Type}

theorem ofExcept (x : Except Error α) : LogsOnly (HostM.ofExcept x) :=
  ⟨fun _ => x, fun h => ⟨[], by rw [run_ofExcept, Host.logged_nil]⟩⟩

theorem pure (a : α) : LogsOnly (Pure.pure a : HostM α) := ofExcept (.ok a)

theorem bind {x : HostM α} {f : α → HostM β} (hx : LogsOnly x) (hf : ∀ a, LogsOnly (f a)) :
    LogsOnly (x >>= f) := by
  obtain ⟨r, hr⟩ := hx
  choose q hq using hf
  refine ⟨fun ms => (r ms).bind fun a => q a ms, fun h => ?_⟩
  obtain ⟨es, hes⟩ := hr h
  show ∃ fs, (x >>= f).run h = ((r h.modules).bind fun a => q a h.modules, h.logged fs)
  cases hm : r h.modules with
  | error e =>
      rw [hm] at hes
      exact ⟨es, run_bind_error hes⟩
  | ok a =>
      rw [hm] at hes
      obtain ⟨fs, hfs⟩ := hq a (h.logged es)
      refine ⟨es ++ fs, ?_⟩
      rw [run_bind_ok hes, hfs, Host.logged_logged]
      rfl

end HostM.LogsOnly

namespace ClassLoader

theorem instantiate_run (l : ClassLoader) (role : Option Interface) (name : String) (h : Host) :
    ∃ es, (l.instantiate role name).run h = (l.prepare h.modules role name, h.logged es) := by
  unfold instantiate
  rw [HostM.run_bind_ok (HostM.run_get h)]
  cases hp : l.prepare h.modules role name with
  | error e =>
      refine ⟨[], ?_⟩
      rw [Host.logged_nil]
      exact HostM.run_bind_error (HostM.run_ofExcept _ h)
  | ok i =>
      refine ⟨[.instantiated name], ?_⟩
      rw [HostM.run_bind_ok (HostM.run_ofExcept _ h), HostM.run_bind_ok (HostM.run_log _ h)]
      rfl

/-- Instances of several names are made one by one, up to the first name that
fails, and the log is all that changes. -/
theorem instantiateAll_run (l : ClassLoader) (role : Option Interface) :
    ∀ (names : List String) (h : Host),
      ∃ es, (l.instantiateAll role names).run h
        = (resolveAll (l.prepare h.modules role) names, h.logged es) := by
  intro names
  induction names with
  | nil =>
      intro h
      exact ⟨[], by rw [Host.logged_nil]; rfl⟩
  | cons name rest ih =>
      intro h
      obtain ⟨es, hes⟩ := l.instantiate_run role name h
      unfold instantiateAll resolveAll
      cases hp : l.prepare h.modules role name with
      | error e =>
          rw [hp] at hes
          exact ⟨es, HostM.run_bind_error hes⟩
      | ok i =>
          rw [hp] at hes
          obtain ⟨fs, hfs⟩ := ih (h.logged es)
          refine ⟨es ++ fs, ?_⟩
          rw [HostM.run_bind_ok hes, ← Host.logged_logged]
          have hm : (h.logged es).modules = h.modules := rfl
          rw [hm] at hfs
          cases hr : resolveAll (l.prepare h.modules role) rest with
          | error e => rw [hr] at hfs; exact HostM.run_bind_error hfs
          | ok is => rw [hr] at hfs; rw [HostM.run_bind_ok hfs]; rfl

end ClassLoader

/-- A file can be opened for an output: the system answers for the path, there is no
directory, and the file can be made. -/
structure FileTree.Opens (t : FileTree) (p : Path) : Prop where
  answered : t.obstacle? p = none
  notDirectory : t.isDirectory p = false
  made : (t.create p).2 = none

namespace Kind

theorem acceptInstances_logsOnly (field : String) (role : Interface) (loader : ClassLoader)
    (a : InstancesArgument) : HostM.LogsOnly (acceptInstances field role loader a) := by
  cases a with
  | given xs => exact .bind (.ofExcept _) fun _ => .ofExcept _
  | named names =>
      refine .bind (.ofExcept _) fun ns => ?_
      exact ⟨fun ms => resolveAll (loader.prepare ms (some role)) ns,
        fun h => loader.instantiateAll_run (some role) ns h⟩

/-! ## Opening an output -/

theorem openOutput_run (p : Path) (h : Host) :
    (openOutput p).run h =
      match h.files.obstacle? p with
      | some e => (.error (.file ⟨e, p⟩), h)
      | none =>
          if h.files.isDirectory p then (.error (.invalid (.outputIsDirectory p)), h)
          else
            match h.files.create p with
            | (files, some f) =>
                (.error (HostM.fileError (fun fault => .invalid (.outputNotOpened p fault)) f),
                  { h with files })
            | (files, none) =>
                (.ok ⟨h.streams.length, some p⟩,
                  (({ h with files }.record (.outputOpened p)).addStream (.opened p)).1) := by
  unfold openOutput
  rw [HostM.run_bind_ok (HostM.run_get h)]
  cases h.files.obstacle? p with
  | some e => rfl
  | none =>
      cases h.files.isDirectory p with
      | true => rfl
      | false =>
          rcases h.files.create p with ⟨files, failure⟩
          cases failure with
          | some f => rfl
          | none => rfl

/-- A file is opened as the last of the streams, or it is not and the streams are left
alone. -/
theorem openOutput_cases (p : Path) (h : Host) :
    (¬ h.files.Opens p ∧ ∃ e h', (openOutput p).run h = (.error e, h') ∧ h'.streams = h.streams) ∨
      (h.files.Opens p ∧ ∃ h', (openOutput p).run h = (.ok ⟨h.streams.length, some p⟩, h') ∧
        h'.streams = h.streams ++ [⟨.opened p, false, none⟩]) := by
  rw [openOutput_run]
  cases hobstacle : h.files.obstacle? p with
  | some e =>
      refine .inl ⟨fun ho => ?_, _, _, rfl, rfl⟩
      cases hobstacle.symm.trans ho.answered
  | none =>
      cases hdirectory : h.files.isDirectory p with
      | true =>
          refine .inl ⟨fun ho => ?_, _, _, rfl, rfl⟩
          cases hdirectory.symm.trans ho.notDirectory
      | false =>
          rcases hcreate : h.files.create p with ⟨files, _ | f⟩
          · exact .inr ⟨⟨hobstacle, hdirectory, by rw [hcreate]⟩, _, rfl, rfl⟩
          · refine .inl ⟨fun ho => ?_, _, _, rfl, rfl⟩
            have hmade := ho.made
            rw [hcreate] at hmade
            cases hmade

/-- To open a file takes the files and the streams of a host, and no more. -/
theorem openOutput_congr {p : Path} {h h' : Host} (hf : h'.files = h.files)
    (hs : h'.streams = h.streams) :
    ((openOutput p).run h').1 = ((openOutput p).run h).1 ∧
      ((openOutput p).run h').2.streams = ((openOutput p).run h).2.streams := by
  rw [openOutput_run, openOutput_run, hf, hs]
  split
  · exact ⟨rfl, hs⟩
  · split
    · exact ⟨rfl, hs⟩
    · split <;> exact ⟨rfl, rfl⟩

theorem openOutput_modules (p : Path) (h : Host) :
    ((openOutput p).run h).2.modules = h.modules := by
  rw [openOutput_run]
  split
  · rfl
  · split
    · rfl
    · split <;> rfl

theorem acceptOutput_run_file (p : Path) (h : Host) :
    (acceptOutput (.file p)).run h =
      (((openOutput p).run h).1.map some, ((openOutput p).run h).2) := by
  show (some <$> openOutput p).run h = _
  rcases hr : (openOutput p).run h with ⟨r, h'⟩
  cases r with
  | ok sink => exact HostM.run_bind_ok hr
  | error e => exact HostM.run_bind_error hr

/-! ## All kinds -/

/-- The hosts agree on what an argument of a kind is accepted by. -/
structure Alike (k : Kind) (h h' : Host) : Prop where
  modules : h'.modules = h.modules
  files : k = .output → h'.files = h.files
  streams : k = .output → h'.streams = h.streams

/-- Short of an output, whether an argument is accepted depends on the modules
only, and the log is all that changes. -/
theorem accept_logsOnly (field : String) (loader : ClassLoader) (k : Kind) (hk : k ≠ .output)
    (a : k.Argument) : HostM.LogsOnly (accept field loader k a) := by
  cases k with
  | flag | text | optionalText | nonEmptyText | connectionText | table | provider =>
      exact .pure _
  | counter | requiredText | encoding | version | texts => exact .ofExcept _
  | patterns | overrides => exact .bind (.ofExcept _) fun _ => .ofExcept _
  | instances role => exact acceptInstances_logsOnly field role loader a
  | output => exact absurd rfl hk

/-- On hosts with the same files and the same streams an output comes to the same. -/
theorem acceptOutput_congr (a : OutputArgument) {h h' : Host} (hf : h'.files = h.files)
    (hs : h'.streams = h.streams) :
    ((acceptOutput a).run h').1 = ((acceptOutput a).run h).1 ∧
      ((acceptOutput a).run h').2.streams = ((acceptOutput a).run h).2.streams := by
  cases a with
  | stream s => exact ⟨rfl, hs⟩
  | file p =>
      obtain ⟨hresult, hstreams⟩ := openOutput_congr (p := p) hf hs
      rw [acceptOutput_run_file, acceptOutput_run_file, hresult]
      exact ⟨rfl, hstreams⟩

/-- Hosts that are alike accept alike. -/
theorem accept_alike (field : String) (loader : ClassLoader) (k : Kind) (a : k.Argument)
    {h h' : Host} (hh : k.Alike h h') :
    ((accept field loader k a).run h').1 = ((accept field loader k a).run h).1 := by
  by_cases hk : k = .output
  · subst hk
    exact (acceptOutput_congr a (hh.files rfl) (hh.streams rfl)).1
  · obtain ⟨r, hr⟩ := accept_logsOnly field loader k hk a
    obtain ⟨es, hes⟩ := hr h
    obtain ⟨es', hes'⟩ := hr h'
    rw [hes, hes', hh.modules]

theorem accept_modules (field : String) (loader : ClassLoader) (k : Kind) (a : k.Argument)
    (h : Host) : ((accept field loader k a).run h).2.modules = h.modules := by
  by_cases hk : k = .output
  · subst hk
    cases a with
    | stream s => rfl
    | file p =>
        show ((acceptOutput (.file p)).run h).2.modules = h.modules
        rw [acceptOutput_run_file]
        exact openOutput_modules p h
  · obtain ⟨r, hr⟩ := accept_logsOnly field loader k hk a
    obtain ⟨es, hes⟩ := hr h
    rw [hes]
    rfl

/-- Only the acceptance of an output touches files or streams. -/
theorem accept_frame (field : String) (loader : ClassLoader) (k : Kind) (hk : k ≠ .output)
    (a : k.Argument) (h : Host) :
    ((accept field loader k a).run h).2.files = h.files ∧
      ((accept field loader k a).run h).2.streams = h.streams := by
  obtain ⟨r, hr⟩ := accept_logsOnly field loader k hk a
  obtain ⟨es, hes⟩ := hr h
  rw [hes]
  exact ⟨rfl, rfl⟩

end Kind

end MigrationConfig
