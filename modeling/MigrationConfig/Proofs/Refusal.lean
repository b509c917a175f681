/-
# What a setting is refused with

Whatever a setting is given, a refusal is about that setting: its text or its
value is invalid or cannot be converted, the edition lacks its feature, or the output
that it replaces cannot be closed.  It is never a report of keys without a meaning.  So
such a report can only come from the very end of a pass, after every setting has been
dealt with.

The argument follows the way from a text to a value, function by function; each
of them fails by one of its own errors or by handing on that of a function that
it calls.
-/
import MigrationConfig.Proofs.Pass

namespace MigrationConfig

/-- An error of a single setting, and not of keys or of a record of arguments. -/
def Error.OfSetting : Error → Prop
  | .invalid _ | .upgradeRequired _ _ _ | .value _ | .type _ | .file _ | .stream _ => True
  | .unrecognized _ | .arguments _ => False

/-- If the result is a failure, its error is that of a setting. -/
def RefusesAsSetting {α : Type} (r : Except Error α) : Prop := ∀ e, r = .error e → e.OfSetting

namespace RefusesAsSetting

variable {α β : Type}

theorem ok (a : α) : RefusesAsSetting (.ok a) := by
  intro e h
  cases h

theorem error {e : Error} (he : e.OfSetting) : RefusesAsSetting (.error e : Except Error α) := by
  intro e' h
  cases h
  exact he

theorem map {r : Except Error α} (hr : RefusesAsSetting r) (f : α → β) :
    RefusesAsSetting (r.map f) := by
  cases r with
  | ok a => exact ok _
  | error e => exact error (hr e rfl)

theorem bind {r : Except Error α} {f : α → Except Error β} (hr : RefusesAsSetting r)
    (hf : ∀ a, RefusesAsSetting (f a)) : RefusesAsSetting (r.bind f) := by
  cases r with
  | ok a => exact hf a
  | error e => exact error (hr e rfl)

/-- Items that are resolved one by one fail as the first of them does. -/
theorem resolveAll {resolve : α → Except Error β} (h : ∀ a, RefusesAsSetting (resolve a)) :
    ∀ xs : List α, RefusesAsSetting (MigrationConfig.resolveAll resolve xs) := by
  intro xs
  induction xs with
  | nil => exact ok _
  | cons x rest ih =>
      unfold MigrationConfig.resolveAll
      split
      · next e he => exact error (h x e he)
      · split
        · next e he => exact error (ih e he)
        · exact ok _

end RefusesAsSetting

/-! ## From a text -/

theorem Coercion.flag_refuses (key raw : String) : RefusesAsSetting (flag key raw) := by
  unfold flag
  split
  · exact .ok _
  · exact .error trivial

theorem Coercion.integer_refuses (key raw : String) : RefusesAsSetting (integer key raw) := by
  unfold integer
  split
  · exact .error trivial
  · split
    · exact .error trivial
    · exact .ok _

theorem Version.readParts_refuses : ∀ ps : List (List Char), RefusesAsSetting (readParts ps) := by
  intro ps
  induction ps with
  | nil => exact .ok _
  | cons p rest ih =>
      unfold readParts
      split
      · exact .error trivial
      · split
        · exact .ok _
        · next e he => exact .error (ih e he)

theorem Version.parse_refuses (s : Option String) : RefusesAsSetting (parse s) := by
  cases s with
  | none => exact .ok _
  | some raw =>
      unfold parse
      simp only
      split
      · exact .ok _
      split
      · exact .ok _
      split
      · exact .error trivial
      split
      · exact .error trivial
      split
      · exact .ok _
      · next e he => exact .error (readParts_refuses _ e he)

theorem Pattern.ofText_refuses (s : Option String) : RefusesAsSetting (ofText s) := by
  unfold ofText
  split
  · exact .error trivial
  · split
    · exact .ok _
    · exact .error trivial

theorem ErrorOverride.parse_refuses (text : String) : RefusesAsSetting (parse text) := by
  unfold parse
  simp only
  split
  · exact .error trivial
  split
  · split
    · exact .ok _
    split
    · exact .error trivial
    split
    · exact .error trivial
    · exact .ok _
  · exact .error trivial

/-! ## Loading classes -/

/-- An import fails because a module is not found, or by an error of the name. -/
theorem Modules.importBelow_notFound (ms : Modules) :
    ∀ (parts : List String) (parent : Module) (e : Error),
      ms.importBelow parent parts ≠ .error (.fault e) := by
  have run_notFound : ∀ (m : Module) (e : Error), run m ≠ .error (.fault e) := by
    intro m e
    unfold run
    split <;> simp
  intro parts
  induction parts with
  | nil =>
      intro parent e h
      cases h
  | cons part rest ih =>
      intro parent e
      unfold importBelow
      split
      · exact ih _ e
      · next f hf =>
          rintro ⟨rfl⟩
          unfold importIn at hf
          split at hf
          · cases hf
          · split at hf
            · cases hf
            · exact run_notFound _ e hf

theorem Modules.importNamed_refuses {ms : Modules} {name : String} {e : Error}
    (h : ms.importNamed name = .error (.fault e)) : e.OfSetting := by
  unfold importNamed at h
  split at h
  · cases h
    trivial
  split at h
  · cases h
    trivial
  split at h
  · cases h
    trivial
  split at h
  · cases h
  split at h
  · exact absurd h (importBelow_notFound ms _ _ e)
  · next f hf =>
      cases h
      unfold run at hf
      split at hf <;> cases hf

namespace ClassLoader

theorem load_refuses (l : ClassLoader) (ms : Modules) (name : String) :
    RefusesAsSetting (l.load ms name) := by
  have moduleOf_refuses : RefusesAsSetting (l.moduleOf name) := by
    unfold moduleOf
    simp only
    split
    · split
      · exact .error trivial
      · exact .ok _
    · exact .ok _
  unfold load
  split
  · next e he => exact .error (moduleOf_refuses e he)
  · split
    · exact .error trivial
    · next e he => exact .error (Modules.importNamed_refuses he)
    · simp only
      split
      · exact .ok _
      · exact .error trivial

theorem prepare_refuses (l : ClassLoader) (ms : Modules) (role : Option Interface)
    (name : String) : RefusesAsSetting (l.prepare ms role name) := by
  have construct_refuses : ∀ c : ClassInfo, RefusesAsSetting (construct name c) := by
    intro c
    unfold construct
    split
    · exact .error trivial
    · exact .ok _
  unfold prepare
  split
  · next e he => exact .error (l.load_refuses ms name e he)
  · split
    · split
      · exact construct_refuses _
      · exact .error trivial
    · exact construct_refuses _

end ClassLoader

/-! ## From an argument to a value -/

theorem ListArgument.resolve_refuses {α : Type} (field : String) (ofText : String → α)
    (xs : ListArgument α) : RefusesAsSetting (xs.resolve field ofText) := by
  cases xs with
  | missing => exact .error trivial
  | single s => exact .ok _
  | items xs => exact .ok _

theorem VersionArgument.resolve_refuses (v : VersionArgument) : RefusesAsSetting v.resolve := by
  cases v with
  | given v => exact .ok _
  | text s => exact Version.parse_refuses s

theorem PatternItem.resolve_refuses (p : PatternItem) : RefusesAsSetting p.resolve := by
  cases p with
  | given p => exact .ok _
  | text s => exact Pattern.ofText_refuses s

theorem OverrideItem.resolve_refuses (o : OverrideItem) : RefusesAsSetting o.resolve := by
  cases o with
  | given o => exact .ok _
  | text s => exact ErrorOverride.parse_refuses s

theorem Candidate.check_refuses (field : String) (role : Interface) (x : Candidate) :
    RefusesAsSetting (x.check field role) := by
  unfold check
  split
  · exact .ok _
  · exact .error trivial

/-- An action on the host whose failures are those of a setting. -/
def HostM.FailsAsSetting {α : Type} (x : HostM α) : Prop :=
  ∀ h, RefusesAsSetting (x.run h).1

namespace HostM.FailsAsSetting

variable {α β : Type}

theorem ofExcept {x : Except Error α} (hx : RefusesAsSetting x) :
    FailsAsSetting (HostM.ofExcept x) := by
  intro h
  rw [run_ofExcept]
  exact hx

theorem pure (a : α) : FailsAsSetting (Pure.pure a : HostM α) := ofExcept (.ok a)

theorem bind {x : HostM α} {f : α → HostM β} (hx : FailsAsSetting x)
    (hf : ∀ a, FailsAsSetting (f a)) : FailsAsSetting (x >>= f) := by
  intro h
  have hx := hx h
  rcases hr : x.run h with ⟨r, h'⟩
  rw [hr] at hx
  cases r with
  | ok a =>
      rw [run_bind_ok hr]
      exact hf a h'
  | error e =>
      rw [run_bind_error hr]
      exact .error (hx e rfl)

end HostM.FailsAsSetting

namespace Kind

theorem read_refuses (key raw : String) (k : Kind) :
    RefusesAsSetting (k.read key raw) := by
  cases k with
  | flag => exact (Coercion.flag_refuses key raw).map _
  | counter => exact (Coercion.integer_refuses key raw).map _
  | instances role =>
      unfold read
      split <;> exact .ok _
  | _ => exact .ok _

theorem acceptCounter_refuses (field : String) (d : Document) :
    RefusesAsSetting (acceptCounter field d) := by
  unfold acceptCounter
  split
  · split
    · exact .ok _
    split
    · exact .error trivial
    · exact .error trivial
  · exact .error trivial

theorem acceptRequired_refuses (field : String) (s : Option String) :
    RefusesAsSetting (acceptRequired field s) := by
  unfold acceptRequired
  split
  · exact .ok _
  · exact .error trivial

theorem acceptEncoding_refuses (name : Option String) :
    RefusesAsSetting (acceptEncoding name) := by
  unfold acceptEncoding
  split
  · exact .error trivial
  split
  · exact .error trivial
  split
  · exact .ok _
  · exact .error trivial

theorem openOutput_refuses (p : Path) : HostM.FailsAsSetting (openOutput p) := by
  have fileError_ofSetting : ∀ f : FileFailure,
      (HostM.fileError (fun fault => .invalid (.outputNotOpened p fault)) f).OfSetting := by
    intro f
    cases f <;> trivial
  intro h
  rw [openOutput_run]
  split
  · exact .error trivial
  split
  · exact .error trivial
  · split
    · exact .error (fileError_ofSetting _)
    · exact .ok _

theorem acceptInstances_refuses (field : String) (role : Interface) (loader : ClassLoader)
    (a : InstancesArgument) : HostM.FailsAsSetting (acceptInstances field role loader a) := by
  cases a with
  | given xs =>
      exact .bind (.ofExcept (xs.resolve_refuses _ _)) fun _ =>
        .ofExcept (.resolveAll (Candidate.check_refuses field role) _)
  | named names =>
      refine .bind (.ofExcept (names.resolve_refuses _ _)) fun names h => ?_
      obtain ⟨es, hes⟩ := loader.instantiateAll_run (some role) names h
      rw [hes]
      exact .resolveAll (loader.prepare_refuses h.modules (some role)) names

theorem accept_refuses (field : String) (loader : ClassLoader) (k : Kind) (a : k.Argument) :
    HostM.FailsAsSetting (accept field loader k a) := by
  cases k with
  | flag | text | optionalText | nonEmptyText | connectionText | table | provider =>
      exact .pure _
  | counter => exact .ofExcept (acceptCounter_refuses field a)
  | requiredText => exact .ofExcept (acceptRequired_refuses field a)
  | encoding => exact .ofExcept (acceptEncoding_refuses a)
  | version => exact .ofExcept (VersionArgument.resolve_refuses a)
  | texts => exact .ofExcept (ListArgument.resolve_refuses field id a)
  | patterns =>
      exact .bind (.ofExcept (ListArgument.resolve_refuses _ _ a)) fun _ =>
        .ofExcept (.resolveAll PatternItem.resolve_refuses _)
  | overrides =>
      exact .bind (.ofExcept (ListArgument.resolve_refuses _ _ a)) fun _ =>
        .ofExcept (.resolveAll OverrideItem.resolve_refuses _)
  | instances role => exact acceptInstances_refuses field role loader a
  | output =>
      cases a with
      | stream s => exact .pure _
      | file p => exact .bind (openOutput_refuses p) fun _ => .pure _

end Kind

/-! ## In a pass -/

theorem Host.closing_refuses (h : Host) (old next : Option Sink) :
    RefusesAsSetting (h.closing old next) := by
  unfold closing
  split
  · exact .error trivial
  · exact .ok _

namespace Config

theorem require_refuses (c : Config) (s : Setting) : RefusesAsSetting (c.require s) := by
  unfold require
  split
  · exact .ok _
  · unfold Gate.require
    split
    · exact .ok _
    · exact .error trivial

theorem takes_refuses (c : Config) (h : Host) (s : Setting) (a : s.Argument) :
    RefusesAsSetting (c.takes h s a) := by
  by_cases hs : s = .dryRunOutput
  · subst hs
    rw [takes_output]
    exact .bind (c.require_refuses _) fun _ =>
      .bind (Kind.accept_refuses "" c.loader .output a h) fun v =>
        .map (Host.closing_refuses _ _ _) _
  · rw [takes_eq_accept c h hs]
    exact .bind (c.require_refuses s) fun _ => Kind.accept_refuses s.name c.loader s.kind _ h

/-- A setting of a pass is refused by an error of its own. -/
theorem outcome_refuses (c : Config) (h : Host) (m : PropertyMap) (s : Setting) :
    RefusesAsSetting (c.outcome h m s) := by
  unfold outcome
  split
  · next e he =>
      unfold argument? at he
      split at he
      · cases he
      · next key raw _ => exact .error (Kind.read_refuses key raw s.kind e he)
  · exact .ok _
  · exact c.takes_refuses h s _

theorem applySettings_refuses (m : PropertyMap) :
    ∀ (ss : List Setting) (t : Situation),
      RefusesAsSetting ((applySettings m ss).run t).1 := by
  intro ss
  induction ss with
  | nil =>
      intro t
      exact .ok _
  | cons s rest ih =>
      intro t
      cases ho : t.config.outcome t.host m s with
      | ok v =>
          obtain ⟨c', h', hr, -, -⟩ := applySetting_ok ho
          rw [applySettings_cons_ok hr]
          exact ih ⟨c', h'⟩
      | error e =>
          obtain ⟨h', hr, -⟩ := applySetting_error ho
          unfold applySettings
          rw [Procedure.run_bind_error hr]
          exact .error (outcome_refuses _ _ _ _ e ho)

end Config

end MigrationConfig
