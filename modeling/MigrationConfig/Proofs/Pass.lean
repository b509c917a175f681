/-
# A pass over the settings

A pass gives settings the texts of a map, one after the other.  What comes of one
of them is its *outcome*: the value that it keeps or takes, or the error that it
is refused with.  An outcome is looked at alone, on the configuration and the
host that the pass began with, and this is enough: no other setting has a say in
it (`outcome_congr`), for a setting only moves its own value, and only the
dry-run output moves anything on the host that an acceptance asks for.

So a pass that meets no refusal leaves every setting with its own outcome, and
one that does stops there, with the outcomes before it in place and all else as
it was.
-/
import Mathlib.Data.List.Nodup
import MigrationConfig.Config.Properties
import MigrationConfig.Proofs.Accept

namespace MigrationConfig

/-! ## One assignment -/

theorem Setting.kind_eq_output {s : Setting} : s.kind = .output ↔ s = .dryRunOutput := by
  cases s <;> simp [kind]

/-- A host after some settings were given values.  Only the dry-run output
touches files or streams. -/
structure Host.KeptBy (ss : List Setting) (h h' : Host) : Prop where
  modules : h'.modules = h.modules
  files : .dryRunOutput ∉ ss → h'.files = h.files
  streams : .dryRunOutput ∉ ss → h'.streams = h.streams

namespace Host.KeptBy

theorem refl (ss : List Setting) (h : Host) : KeptBy ss h h :=
  ⟨rfl, fun _ => rfl, fun _ => rfl⟩

theorem trans {ss ts us : List Setting} {h h' h'' : Host} (hs : KeptBy ss h h')
    (ht : KeptBy ts h' h'') (hsu : ss ⊆ us) (htu : ts ⊆ us) : KeptBy us h h'' where
  modules := ht.modules.trans hs.modules
  files hu := (ht.files fun h => hu (htu h)).trans (hs.files fun h => hu (hsu h))
  streams hu := (ht.streams fun h => hu (htu h)).trans (hs.streams fun h => hu (hsu h))

/-- What settings leave of a host is enough for any further setting. -/
theorem alike {ss : List Setting} {h h' : Host} (hk : KeptBy ss h h') {s : Setting}
    (hs : s ∉ ss) : s.kind.Alike h h' where
  modules := hk.modules
  files ho := hk.files (Setting.kind_eq_output.1 ho ▸ hs)
  streams ho := hk.streams (Setting.kind_eq_output.1 ho ▸ hs)

end Host.KeptBy

/-! ### Closing what is given up -/

/-- An output that stays gives nothing up. -/
theorem Sink.givenUp?_same (o : Option Sink) : Sink.givenUp? o o = none := by
  rcases o with _ | ⟨stream, _ | path⟩
  · rfl
  · rfl
  · simp [givenUp?]

theorem Sink.givenUp?_eq_some_iff {old next : Option Sink} {n : StreamId} :
    Sink.givenUp? old next = some n ↔
      (∃ p, old = some ⟨n, some p⟩) ∧ next.map Sink.stream ≠ some n := by
  rcases old with _ | ⟨stream, _ | path⟩
  · simp [givenUp?]
  · simp [givenUp?]
  · simp only [givenUp?, beq_iff_eq]
    by_cases hsame : next.map Sink.stream = some stream
    · rw [if_pos hsame]
      refine iff_of_false (fun h => by cases h) ?_
      rintro ⟨⟨p, hp⟩, hne⟩
      cases hp
      exact hne hsame
    · rw [if_neg hsame]
      constructor
      · intro h
        cases h
        exact ⟨⟨path, rfl⟩, hsame⟩
      · rintro ⟨⟨p, hp⟩, -⟩
        cases hp
        rfl

namespace Host

variable {old next : Option Sink}

/-- Where nothing is given up there is nothing to close. -/
theorem closing_of_givenUp? (hn : Sink.givenUp? old next = none) (h : Host) :
    h.closing old next = .ok () ∧ h.closeReplaced old next = h := by
  rw [closing, closeReplaced, hn]
  exact ⟨rfl, rfl⟩

/-- The fault that comes of closing the file of an output.  A stream that was handed in is
not closed. -/
def fileFault? (h : Host) : Option Sink → Option SystemFault
  | some ⟨stream, some _⟩ => h.stuck? stream
  | _ => none

/-- Closing is a fault just when a file is given up that is stuck. -/
theorem closing_eq_error_iff {h : Host} {e : Error} :
    h.closing old next = .error e ↔
      next.map Sink.stream ≠ old.map Sink.stream ∧
        ∃ f, h.fileFault? old = some f ∧ e = .stream f := by
  rcases old with _ | ⟨stream, _ | path⟩
  · simp [closing, Sink.givenUp?, fileFault?]
  · simp [closing, Sink.givenUp?, fileFault?]
  · by_cases hsame : next.map Sink.stream = some stream
    · simp [closing, Sink.givenUp?, hsame]
    · simp only [closing, Sink.givenUp?, fileFault?, Option.map_some, hsame, beq_iff_eq, ne_eq,
        not_false_eq_true, true_and, if_false, Option.bind_some]
      cases h.stuck? stream with
      | none => simp
      | some f => simp [eq_comm]

/-- A stream that has been opened besides is not stuck, and makes no other one stuck. -/
theorem stuck?_opened {h h' : Host} {p : Path}
    (hs : h'.streams = h.streams ++ [⟨.opened p, false, none⟩]) (n : StreamId) :
    h'.stuck? n = h.stuck? n := by
  rw [stuck?, stuck?, hs]
  rcases Nat.lt_trichotomy n h.streams.length with hn | rfl | hn
  · rw [List.getElem?_append_left hn]
  · simp
  · rw [List.getElem?_eq_none (by simp; omega), List.getElem?_eq_none (by omega)]

theorem fileFault?_congr {h h' : Host} (hs : ∀ n, h'.stuck? n = h.stuck? n) (o : Option Sink) :
    h'.fileFault? o = h.fileFault? o := by
  rcases o with _ | ⟨stream, _ | path⟩
  · rfl
  · rfl
  · exact hs stream

/-- A file that has just been opened takes the place of an output if the old one can be
closed. -/
theorem closing_opened {h h' : Host} {p : Path} {e : Error}
    (hs : h'.streams = h.streams ++ [⟨.opened p, false, none⟩]) :
    h'.closing old (some ⟨h.streams.length, some p⟩) = .error e ↔
      ∃ f, h.fileFault? old = some f ∧ e = .stream f := by
  rw [closing_eq_error_iff, fileFault?_congr (stuck?_opened hs)]
  refine and_iff_right_of_imp ?_
  rintro ⟨f, hf, -⟩ hsame
  -- the stream of the new file is the last one, so that it was not there before
  rcases old with _ | ⟨stream, _ | path⟩
  · cases hf
  · cases hf
  · have hstream : h.streams.length = stream := Option.some.inj hsame
    simp [fileFault?, stuck?, ← hstream] at hf

theorem closeReplaced_frame (h : Host) (old next : Option Sink) :
    (h.closeReplaced old next).modules = h.modules ∧
      (h.closeReplaced old next).files = h.files := by
  unfold closeReplaced
  split <;> exact ⟨rfl, rfl⟩

/-- Closing looks at the streams only. -/
theorem closing_congr {h h' : Host} (hs : h'.streams = h.streams) (old next : Option Sink) :
    h'.closing old next = h.closing old next := by
  have hstuck : h'.stuck? = h.stuck? := by
    funext n
    rw [stuck?, stuck?, hs]
  rw [closing, closing, hstuck]

end Host

theorem HostM.run_closeReplaced (old next : Option Sink) (h : Host) :
    (closeReplaced old next).run h = (h.closing old next, h.closeReplaced old next) := by
  unfold closeReplaced
  rw [run_bind_ok (run_get h), run_bind_ok (run_set h _), run_ofExcept]

namespace Config

/-- The configuration after a setting was given a value that was accepted. -/
def assigned (c : Config) (s : Setting) (v : s.Value) : Config :=
  if s.kind == .connectionText then { c.put s v with descriptor := none } else c.put s v

@[simp] theorem assigned_get_same (c : Config) (s : Setting) (v : s.Value) :
    (c.assigned s v).get s = v := by
  unfold assigned
  split <;> exact get_put_same c s v

theorem assigned_get_of_ne (c : Config) {s t : Setting} (v : s.Value) (h : s ≠ t) :
    (c.assigned s v).get t = c.get t := by
  unfold assigned
  split <;> exact get_put_of_ne c v h

@[simp] theorem assigned_edition (c : Config) (s : Setting) (v : s.Value) :
    (c.assigned s v).edition = c.edition := by
  unfold assigned
  split <;> rfl

@[simp] theorem assigned_loader (c : Config) (s : Setting) (v : s.Value) :
    (c.assigned s v).loader = c.loader := by
  unfold assigned
  split <;> rfl

theorem assigned_descriptor (c : Config) (s : Setting) (v : s.Value) :
    (c.assigned s v).descriptor = if s.kind == .connectionText then none else c.descriptor := by
  unfold assigned
  split <;> rfl

/-- The value that a setting has once it is given an argument, or why it is
refused. -/
def takes (c : Config) (h : Host) (s : Setting) (a : s.Argument) : Except Error s.Value :=
  ((c.assign s a).run h).1.map fun c' => c'.get s

/-- The run of an assignment, step by step. -/
theorem assign_run_steps (c : Config) (s : Setting) (a : s.Argument) (h : Host) :
    (c.assign s a).run h =
      match c.require s with
      | .error e => (.error e, h)
      | .ok _ =>
          match (s.kind.accept s.name c.loader a).run h with
          | (.error e, h') => (.error e, h')
          | (.ok v, h') =>
              ((h'.closing (c.get .dryRunOutput) ((c.put s v).get .dryRunOutput)).map
                  fun _ => c.assigned s v,
                h'.closeReplaced (c.get .dryRunOutput) ((c.put s v).get .dryRunOutput)) := by
  unfold assign
  cases hr : c.require s with
  | error e => exact HostM.run_bind_error (HostM.run_ofExcept _ h)
  | ok u =>
      rw [HostM.run_bind_ok (HostM.run_ofExcept _ h)]
      rcases ha : (s.kind.accept s.name c.loader a).run h with ⟨r, h'⟩
      cases r with
      | error e => exact HostM.run_bind_error ha
      | ok v =>
          have hclose := HostM.run_closeReplaced (c.get .dryRunOutput)
            ((c.put s v).get .dryRunOutput) h'
          rw [HostM.run_bind_ok ha]
          dsimp only
          cases hc : h'.closing (c.get .dryRunOutput) ((c.put s v).get .dryRunOutput) with
          | error e =>
              rw [hc] at hclose
              exact HostM.run_bind_error hclose
          | ok u =>
              rw [hc] at hclose
              exact HostM.run_bind_ok hclose

/-- An assignment elsewhere gives no output up. -/
theorem givenUp?_put (c : Config) {s : Setting} (hs : s ≠ .dryRunOutput) (v : s.Value) :
    Sink.givenUp? (c.get .dryRunOutput) ((c.put s v).get .dryRunOutput) = none := by
  rw [get_put_of_ne c v hs, Sink.givenUp?_same]

/-- An assignment elsewhere closes nothing. -/
theorem assign_run_of_ne (c : Config) {s : Setting} (hs : s ≠ .dryRunOutput) (a : s.Argument)
    (h : Host) :
    (c.assign s a).run h =
      match c.require s with
      | .error e => (.error e, h)
      | .ok _ =>
          (((s.kind.accept s.name c.loader a).run h).1.map (c.assigned s),
            ((s.kind.accept s.name c.loader a).run h).2) := by
  rw [assign_run_steps]
  cases c.require s with
  | error e => rfl
  | ok u =>
      rcases (s.kind.accept s.name c.loader a).run h with ⟨r, h'⟩
      cases r with
      | error e => rfl
      | ok v =>
          obtain ⟨hclosing, hclosed⟩ := h'.closing_of_givenUp? (c.givenUp?_put hs v)
          simp only [hclosing, hclosed]
          rfl

theorem takes_eq_accept (c : Config) (h : Host) {s : Setting} (hs : s ≠ .dryRunOutput)
    (a : s.Argument) :
    c.takes h s a =
      (c.require s).bind fun _ => ((s.kind.accept s.name c.loader a).run h).1 := by
  rw [takes, assign_run_of_ne c hs]
  cases c.require s with
  | error e => rfl
  | ok u =>
      show ((((s.kind.accept s.name c.loader a).run h).1.map (c.assigned s)).map
        fun c' => c'.get s) = ((s.kind.accept s.name c.loader a).run h).1
      cases ((s.kind.accept s.name c.loader a).run h).1 with
      | error e => rfl
      | ok v => exact congrArg Except.ok (c.assigned_get_same s v)

/-- The run of an assignment of the output. -/
theorem assign_output_run (c : Config) (a : OutputArgument) (h : Host) :
    (c.assign .dryRunOutput a).run h =
      match c.require .dryRunOutput with
      | .error e => (.error e, h)
      | .ok _ =>
          match (Kind.acceptOutput a).run h with
          | (.error e, h') => (.error e, h')
          | (.ok v, h') =>
              ((h'.closing (c.get .dryRunOutput) v).map fun _ => c.put .dryRunOutput v,
                h'.closeReplaced (c.get .dryRunOutput) v) := by
  have haccept : (Setting.dryRunOutput.kind.accept Setting.dryRunOutput.name c.loader a).run h =
      (Kind.acceptOutput a).run h := rfl
  rw [assign_run_steps, haccept]
  cases c.require .dryRunOutput with
  | error e => rfl
  | ok u =>
      rcases (Kind.acceptOutput a).run h with ⟨r, h'⟩
      cases r with
      | error e => rfl
      | ok v =>
          have hput : (c.put .dryRunOutput v).get .dryRunOutput = v := c.get_put_same .dryRunOutput v
          dsimp only
          rw [hput]
          rfl

/-- An output is taken when it is accepted and what it replaces can be closed. -/
theorem takes_output (c : Config) (h : Host) (a : OutputArgument) :
    c.takes h .dryRunOutput a =
      (c.require .dryRunOutput).bind fun _ =>
        ((Kind.acceptOutput a).run h).1.bind fun v =>
          (((Kind.acceptOutput a).run h).2.closing (c.get .dryRunOutput) v).map fun _ => v := by
  rw [takes, assign_output_run]
  cases c.require .dryRunOutput with
  | error e => rfl
  | ok u =>
      rcases (Kind.acceptOutput a).run h with ⟨r, h'⟩
      cases r with
      | error e => rfl
      | ok v =>
          dsimp only [Except.bind]
          cases h'.closing (c.get .dryRunOutput) v with
          | error e => rfl
          | ok u => exact congrArg Except.ok (c.get_put_same .dryRunOutput v)

/-- An assignment puts what the setting takes, and leaves of the host what other
settings ask for. -/
theorem assign_run (c : Config) (s : Setting) (a : s.Argument) (h : Host) :
    ∃ h', (c.assign s a).run h = ((c.takes h s a).map (c.assigned s), h') ∧
      Host.KeptBy [s] h h' := by
  have hput : ∀ v : s.Value, c.assigned s ((c.assigned s v).get s) = c.assigned s v := fun v => by
    rw [assigned_get_same]
  refine ⟨((c.assign s a).run h).2, Prod.ext ?_ rfl, ?_⟩
  · unfold takes
    rw [assign_run_steps]
    cases c.require s with
    | error e => rfl
    | ok u =>
        dsimp only
        split
        · rfl
        · next v h' _ =>
            cases h'.closing (c.get .dryRunOutput) ((c.put s v).get .dryRunOutput) with
            | error e => rfl
            | ok u => exact congrArg Except.ok (hput v).symm
  · have hm := Kind.accept_modules s.name c.loader s.kind a h
    have hf : s ≠ .dryRunOutput → _ := fun hs =>
      Kind.accept_frame s.name c.loader s.kind (fun ho => hs (Setting.kind_eq_output.1 ho)) a h
    refine ⟨?_, fun hs => ?_, fun hs => ?_⟩
    · rw [assign_run_steps]
      cases c.require s with
      | error e => rfl
      | ok u =>
          dsimp only
          split
          · next hr => rw [hr] at hm; exact hm
          · next hr =>
              rw [hr] at hm
              exact (Host.closeReplaced_frame ..).1.trans hm
    all_goals
      have hne : s ≠ .dryRunOutput := fun hc => hs (by simp [hc])
      rw [assign_run_of_ne c hne]
      cases c.require s with
      | error e => rfl
      | ok u => first | exact (hf hne).1 | exact (hf hne).2

/-- What an edition has does not change with the configuration. -/
theorem allows_congr {c c' : Config} (he : c'.edition = c.edition) (s : Setting) :
    c'.allows s = c.allows s := by
  simp only [allows, he]

/-- A setting is refused exactly when the edition does not have its feature. -/
theorem require_eq_ok {c : Config} {s : Setting} : c.require s = .ok () ↔ c.allows s = true := by
  unfold allows require
  cases s.feature? with
  | none => simp
  | some f =>
      simp only [Gate.require]
      split <;> simp_all

/-- An argument that is taken without a look at the host leaves it as it is. -/
theorem assign_run_pure {c : Config} {s : Setting} {a : s.Argument} {v : s.Value} {h : Host}
    (hc : c.allows s = true) (ha : (s.kind.accept s.name c.loader a).run h = (.ok v, h))
    (hs : s ≠ .dryRunOutput) : (c.assign s a).run h = (.ok (c.assigned s v), h) := by
  rw [assign_run_of_ne c hs, require_eq_ok.2 hc, ha]
  rfl

/-! ## One setting of a pass -/

theorem textFor?_eq_some {m : PropertyMap} {s : Setting} {key raw : String} :
    textFor? m s = some (key, raw) ↔ s.key? = some key ∧ m.get? key = some raw := by
  unfold textFor?
  cases s.key? with
  | none => simp
  | some k =>
      simp only [Option.map_eq_some_iff, Prod.mk.injEq, Option.some.injEq]
      constructor
      · rintro ⟨raw', hr, rfl, rfl⟩
        exact ⟨rfl, hr⟩
      · rintro ⟨rfl, hr⟩
        exact ⟨raw, hr, rfl, rfl⟩

/-- The argument that a map has for a setting. -/
def argument? (m : PropertyMap) (s : Setting) : Except Error (Option s.Argument) :=
  match textFor? m s with
  | none => .ok none
  | some (key, raw) => s.kind.read key raw

/-- What comes of a setting: it keeps its value if the map has no text for it,
or a blank list of classes; otherwise its own coercion and checks decide. -/
def outcome (c : Config) (h : Host) (m : PropertyMap) (s : Setting) : Except Error s.Value :=
  match argument? m s with
  | .error e => .error e
  | .ok none => .ok (c.get s)
  | .ok (some a) => c.takes h s a

theorem argument?_absent {m : PropertyMap} {s : Setting} (hm : textFor? m s = none) :
    argument? m s = .ok none := by
  rw [argument?, hm]

theorem outcome_absent {c : Config} {h : Host} {m : PropertyMap} {s : Setting}
    (hm : textFor? m s = none) : c.outcome h m s = .ok (c.get s) := by
  rw [outcome, argument?_absent hm]

/-- What a setting takes depends on the edition and the loader, and on what the
acceptance asks of the host; the dry-run output depends on what it replaces besides. -/
theorem takes_congr {c c' : Config} {h h' : Host} {s : Setting} (he : c'.edition = c.edition)
    (hl : c'.loader = c.loader) (hh : s.kind.Alike h h')
    (ho : s = .dryRunOutput → c'.get .dryRunOutput = c.get .dryRunOutput) (a : s.Argument) :
    c'.takes h' s a = c.takes h s a := by
  have hr : c'.require s = c.require s := by simp only [require, he]
  by_cases hs : s = .dryRunOutput
  · subst hs
    obtain ⟨hresult, hstreams⟩ := Kind.acceptOutput_congr a (hh.files rfl) (hh.streams rfl)
    rw [takes_output, takes_output, hr, ho rfl, hresult]
    simp only [Host.closing_congr hstreams]
  · rw [takes_eq_accept c' h' hs, takes_eq_accept c h hs, hr, hl,
      Kind.accept_alike s.name c.loader s.kind a hh]

/-- An outcome depends on the setting's own value besides. -/
theorem outcome_congr {c c' : Config} {h h' : Host} (m : PropertyMap) {s : Setting}
    (hg : c'.get s = c.get s) (he : c'.edition = c.edition) (hl : c'.loader = c.loader)
    (hh : s.kind.Alike h h') : c'.outcome h' m s = c.outcome h m s := by
  have ho : s = .dryRunOutput → c'.get .dryRunOutput = c.get .dryRunOutput := by
    rintro rfl
    exact hg
  unfold outcome
  simp only [hg, takes_congr he hl hh ho]

theorem applySetting_run (m : PropertyMap) (s : Setting) (t : Situation) :
    (applySetting m s).run t =
      match argument? m s with
      | .error e => (.error e, t)
      | .ok none => (.ok (), t)
      | .ok (some a) => (Procedure.change fun c => c.assign s a).run t := by
  unfold applySetting argument?
  cases textFor? m s with
  | none => rfl
  | some e =>
      obtain ⟨key, raw⟩ := e
      cases hr : s.kind.read key raw with
      | error e =>
          simp only [hr]
          exact Procedure.run_bind_error (Procedure.run_ofExcept _ t)
      | ok o =>
          simp only [hr]
          rw [Procedure.run_bind_ok (Procedure.run_ofExcept _ t)]
          cases o <;> rfl

/-- A text of a connection setting drops the descriptor. -/
def dropsDescriptor (m : PropertyMap) (s : Setting) : Bool :=
  s.kind == .connectionText && (textFor? m s).isSome

theorem dropsDescriptor_of_argument {m : PropertyMap} {s : Setting} {a : s.Argument}
    (ha : argument? m s = .ok (some a)) :
    dropsDescriptor m s = (s.kind == .connectionText) := by
  cases hm : textFor? m s with
  | none => rw [argument?_absent hm] at ha; cases ha
  | some e => simp [dropsDescriptor, hm]

/-- Only a blank list of classes is a text without an argument. -/
theorem dropsDescriptor_of_none {m : PropertyMap} {s : Setting}
    (ha : argument? m s = .ok none) : dropsDescriptor m s = false := by
  have kind_ne : ∀ {k : Kind} {key raw : String}, k.read key raw = .ok none →
      k ≠ .connectionText := by
    intro k key raw hr hk
    subst hk
    cases hr
  cases hm : textFor? m s with
  | none => simp [dropsDescriptor, hm]
  | some e =>
      rw [argument?, hm] at ha
      simp [dropsDescriptor, kind_ne ha]

/-- The configuration after settings have taken their outcomes, each of them
looked at on the configuration and the host that the pass began with. -/
structure TookOutcomes (c : Config) (h : Host) (m : PropertyMap) (ss : List Setting)
    (c' : Config) : Prop where
  edition : c'.edition = c.edition
  loader : c'.loader = c.loader
  took : ∀ s ∈ ss, c.outcome h m s = .ok (c'.get s)
  kept : ∀ s, s ∉ ss → c'.get s = c.get s
  descriptor : c'.descriptor = if ss.any (dropsDescriptor m) then none else c.descriptor

/-- A setting with an outcome takes it. -/
theorem applySetting_ok {c : Config} {h : Host} {m : PropertyMap} {s : Setting} {v : s.Value}
    (ho : c.outcome h m s = .ok v) :
    ∃ c' h', (applySetting m s).run ⟨c, h⟩ = (.ok (), ⟨c', h'⟩) ∧
      c.TookOutcomes h m [s] c' ∧ Host.KeptBy [s] h h' := by
  rw [applySetting_run]
  have ho' := ho
  unfold outcome at ho
  cases ha : argument? m s with
  | error e => rw [ha] at ho; cases ho
  | ok o =>
      rw [ha] at ho
      cases o with
      | none =>
          cases ho
          refine ⟨c, h, rfl, ⟨rfl, rfl, fun t ht => ?_, fun _ _ => rfl, ?_⟩, .refl _ h⟩
          · obtain rfl := List.mem_singleton.1 ht
            exact ho'
          · simp [dropsDescriptor_of_none ha]
      | some a =>
          have ho : c.takes h s a = .ok v := ho
          obtain ⟨h', hr, hk⟩ := c.assign_run s a h
          rw [ho] at hr
          refine ⟨c.assigned s v, h', Procedure.run_change_ok hr, ?_, hk⟩
          refine ⟨assigned_edition c s v, assigned_loader c s v, fun t ht => ?_,
            fun t ht => assigned_get_of_ne c v fun hst => ht (by simp [hst]), ?_⟩
          · obtain rfl := List.mem_singleton.1 ht
            rw [assigned_get_same, ho']
          · rw [assigned_descriptor, List.any_cons, List.any_nil, Bool.or_false,
              dropsDescriptor_of_argument ha]

/-- A setting that is refused stays as it is, with the rest of the
configuration. -/
theorem applySetting_error {c : Config} {h : Host} {m : PropertyMap} {s : Setting} {e : Error}
    (ho : c.outcome h m s = .error e) :
    ∃ h', (applySetting m s).run ⟨c, h⟩ = (.error e, ⟨c, h'⟩) ∧ Host.KeptBy [s] h h' := by
  rw [applySetting_run]
  unfold outcome at ho
  cases ha : argument? m s with
  | error e' =>
      rw [ha] at ho
      cases ho
      exact ⟨h, rfl, .refl _ h⟩
  | ok o =>
      rw [ha] at ho
      cases o with
      | none => cases ho
      | some a =>
          have ho : c.takes h s a = .error e := ho
          obtain ⟨h', hr, hk⟩ := c.assign_run s a h
          rw [ho] at hr
          exact ⟨h', Procedure.run_change_error hr, hk⟩

/-! ## All settings of a pass -/

/-- Settings see of a map only the texts that it has for them. -/
theorem applySettings_congr {m m' : PropertyMap} (hm : ∀ s, textFor? m' s = textFor? m s) :
    ∀ ss : List Setting, applySettings m' ss = applySettings m ss := by
  intro ss
  induction ss with
  | nil => rfl
  | cons s rest ih =>
      unfold applySettings applySetting
      rw [hm s, ih]

theorem applySettings_cons_ok {m : PropertyMap} {s : Setting} {rest : List Setting}
    {t t' : Situation} (hs : (applySetting m s).run t = (.ok (), t')) :
    (applySettings m (s :: rest)).run t = (applySettings m rest).run t' :=
  Procedure.run_bind_ok hs

theorem applySettings_append_ok {m : PropertyMap} {rest : List Setting} :
    ∀ {before : List Setting} {t t' : Situation},
      (applySettings m before).run t = (.ok (), t') →
      (applySettings m (before ++ rest)).run t = (applySettings m rest).run t' := by
  intro before
  induction before with
  | nil =>
      intro t t' hb
      cases hb
      rfl
  | cons s before ih =>
      intro t t' hb
      rcases hs : (applySetting m s).run t with ⟨r, t₁⟩
      cases r with
      | error e =>
          rw [show (applySettings m (s :: before)).run t = _ from Procedure.run_bind_error hs] at hb
          cases hb
      | ok u =>
          rw [applySettings_cons_ok hs] at hb
          rw [List.cons_append, applySettings_cons_ok hs]
          exact ih hb

/-- Outcomes that were looked at after one setting are those that the pass began
with. -/
theorem TookOutcomes.outcome_eq {c c' : Config} {h h' : Host} {m : PropertyMap}
    {ss : List Setting} (ht : c.TookOutcomes h m ss c') (hk : Host.KeptBy ss h h') {s : Setting}
    (hs : s ∉ ss) : c'.outcome h' m s = c.outcome h m s :=
  outcome_congr m (ht.kept s hs) ht.edition ht.loader (hk.alike hs)

theorem TookOutcomes.cons {c c₁ c₂ : Config} {h h₁ : Host} {m : PropertyMap} {s : Setting}
    {rest : List Setting} (hs : c.TookOutcomes h m [s] c₁) (hk : Host.KeptBy [s] h h₁)
    (hrest : c₁.TookOutcomes h₁ m rest c₂) (hnew : s ∉ rest) :
    c.TookOutcomes h m (s :: rest) c₂ where
  edition := hrest.edition.trans hs.edition
  loader := hrest.loader.trans hs.loader
  took t ht := by
    by_cases hts : t = s
    · subst hts
      rw [hrest.kept t hnew]
      exact hs.took t (by simp)
    · have ht' : t ∈ rest := (List.mem_cons.1 ht).resolve_left hts
      rw [← hs.outcome_eq hk (by simpa using hts)]
      exact hrest.took t ht'
  kept t ht := by
    rw [List.mem_cons, not_or] at ht
    rw [hrest.kept t ht.2]
    exact hs.kept t (by simpa using ht.1)
  descriptor := by
    rw [hrest.descriptor, hs.descriptor]
    by_cases h₁ : dropsDescriptor m s <;> by_cases h₂ : rest.any (dropsDescriptor m) <;>
      simp [h₁, h₂]

/-- Settings that all have outcomes take them. -/
theorem applySettings_ok (m : PropertyMap) :
    ∀ {ss : List Setting} {c : Config} {h : Host}, ss.Nodup →
      (∀ s ∈ ss, ∃ v, c.outcome h m s = .ok v) →
      ∃ c' h', (applySettings m ss).run ⟨c, h⟩ = (.ok (), ⟨c', h'⟩) ∧
        c.TookOutcomes h m ss c' ∧ Host.KeptBy ss h h' := by
  intro ss
  induction ss with
  | nil =>
      intro c h _ _
      refine ⟨c, h, rfl, ⟨rfl, rfl, ?_, fun _ _ => rfl, rfl⟩, .refl _ h⟩
      intro s hs
      cases hs
  | cons s rest ih =>
      intro c h hnd ho
      obtain ⟨hnew, hrest⟩ := List.nodup_cons.1 hnd
      obtain ⟨v, hv⟩ := ho s (by simp)
      obtain ⟨c₁, h₁, hr₁, ht₁, hk₁⟩ := applySetting_ok hv
      -- the rest has the outcomes on the new situation that it had on the old one
      have ho₁ : ∀ t ∈ rest, ∃ v, c₁.outcome h₁ m t = .ok v := by
        intro t ht
        have hts : t ∉ [s] := by
          intro hc
          obtain rfl := List.mem_singleton.1 hc
          exact hnew ht
        rw [ht₁.outcome_eq hk₁ hts]
        exact ho t (List.mem_cons_of_mem _ ht)
      obtain ⟨c₂, h₂, hr₂, ht₂, hk₂⟩ := ih hrest ho₁
      refine ⟨c₂, h₂, ?_, ht₁.cons hk₁ ht₂ hnew, hk₁.trans hk₂ (by simp) (by simp)⟩
      rw [applySettings_cons_ok hr₁, hr₂]

/-- The first setting that is refused ends the pass; the outcomes before it are
in place. -/
theorem applySettings_error {m : PropertyMap} {before after : List Setting} {f : Setting}
    {c : Config} {h : Host} {e : Error} (hnd : (before ++ f :: after).Nodup)
    (hb : ∀ s ∈ before, ∃ v, c.outcome h m s = .ok v) (hf : c.outcome h m f = .error e) :
    ∃ c' h', (applySettings m (before ++ f :: after)).run ⟨c, h⟩ = (.error e, ⟨c', h'⟩) ∧
      c.TookOutcomes h m before c' ∧ h'.modules = h.modules := by
  have hnew : f ∉ before := fun hb =>
    (List.nodup_cons.1 (List.nodup_middle.1 hnd)).1 (List.mem_append_left _ hb)
  obtain ⟨c₁, h₁, hr₁, ht₁, hk₁⟩ := applySettings_ok m (List.nodup_append.1 hnd).1 hb
  obtain ⟨h₂, hr₂, hk₂⟩ := applySetting_error ((ht₁.outcome_eq hk₁ hnew).trans hf)
  refine ⟨c₁, h₂, ?_, ht₁, hk₂.modules.trans hk₁.modules⟩
  rw [applySettings_append_ok hr₁]
  exact Procedure.run_bind_error hr₂

end Config

end MigrationConfig
