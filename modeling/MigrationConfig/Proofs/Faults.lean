/-
# Texts that a pass breaks on

A pass that fails is meant to fail with an error of the configuration or of the
edition.  There are texts that make it fail otherwise, because what they are handed on
to fails in a way of its own: an integer of too many digits cannot be read, a null
character can be neither in the name of an encoding nor in a path, a module cannot be
imported under an empty or a relative name, a file with too long a name, or in a directory
that may not be searched, cannot even be asked for.

For each kind of setting `Kind.Breaks` says which texts these are, and it says so of
the text, not of the function that reads it.  `Config.Breaks` adds the one case that is no
matter of the text: an output is to be replaced and cannot be closed.  A pass breaks just
when the first setting that is refused has such a text (`configure_expected_iff`).

The equivalence is about texts of characters and about files as `FileTree` has them.  A
text with a lone surrogate in it is no such text; the name of an encoding breaks on that,
too.  Nor does it say anything of a device that is opened for output.
-/
import MigrationConfig.Proofs.Configure
import MigrationConfig.Proofs.Overlong
import MigrationConfig.Proofs.Refusal

namespace MigrationConfig

/-! ## Names of classes -/

/-- A class name asks for a module that cannot be looked for: under the empty name, which
only an empty default package leads to, or under a name that begins with a dot. -/
def ClassLoader.AsksInVain (l : ClassLoader) (name : String) : Prop :=
  ∃ m, l.moduleOf name = .ok m ∧ (m = "" ∨ m.toList.head? = some '.')

namespace Modules

/-- The first part of a name is empty just when there is nothing in front of its first
dot. -/
theorem splitOn_dot (name : String) :
    ∃ top rest, (Text.splitOn ['.'] name.toList).map String.ofList = top :: rest ∧
      (top = "" ↔ name = "" ∨ name.toList.head? = some '.') := by
  rw [Text.splitOn_singleton, ← String.toList_eq_nil_iff (b := name)]
  cases name.toList with
  | nil => exact ⟨"", [], rfl, by simp⟩
  | cons c rest =>
      rw [List.splitOn_cons_eq_if_modifyHead]
      by_cases hc : c = '.'
      · subst hc
        exact ⟨"", _, rfl, by simp⟩
      · rw [if_neg (by simpa using hc)]
        cases hsplit : rest.splitOn '.' with
        | nil => exact absurd hsplit (List.splitOn_ne_nil '.' rest)
        | cons piece pieces =>
            refine ⟨String.ofList (c :: piece), pieces.map String.ofList, rfl, ?_⟩
            simp [hc, ← String.toList_inj]

theorem importNamed_fault (ms : Modules) (name : String) :
    (∃ e, ms.importNamed name = .error (.fault e)) ↔ name = "" ∨ name.toList.head? = some '.' := by
  obtain ⟨top, rest, hsplit, htop⟩ := splitOn_dot name
  rw [← htop]
  constructor
  · rintro ⟨e, he⟩
    by_contra hne
    have hname : name.isEmpty = false := by
      rw [Bool.eq_false_iff]
      intro hname
      exact hne (htop.2 (.inl (String.isEmpty_iff.1 hname)))
    have hempty : top.isEmpty = false := by
      rw [Bool.eq_false_iff]
      intro hempty
      exact hne (String.isEmpty_iff.1 hempty)
    unfold importNamed at he
    rw [hsplit] at he
    simp only [hname, hempty, Bool.false_eq_true, if_false] at he
    split at he
    · cases he
    · split at he
      · exact importBelow_notFound ms _ _ e he
      · next f hf =>
          cases he
          unfold run at hf
          split at hf <;> cases hf
  · intro hempty
    unfold importNamed
    rw [hsplit]
    by_cases hname : name.isEmpty = true
    · exact ⟨.value .emptyModuleName, if_pos hname⟩
    · refine ⟨.type (.relativeModule name), (if_neg hname).trans (if_pos ?_)⟩
      exact String.isEmpty_iff.2 hempty

/-- The fault of an import is none of the configuration. -/
theorem importNamed_isExpected {ms : Modules} {name : String} {e : Error}
    (h : ms.importNamed name = .error (.fault e)) : e.isExpected = false := by
  unfold importNamed at h
  split at h
  · cases h
    rfl
  split at h
  · cases h
    rfl
  split at h
  · cases h
    rfl
  split at h
  · cases h
  split at h
  · exact absurd h (importBelow_notFound ms _ _ e)
  · next f hf =>
      cases h
      unfold run at hf
      split at hf <;> cases hf

end Modules

namespace ClassLoader

theorem load_unexpected {l : ClassLoader} (ms : Modules) {name : String} :
    Unexpected (l.load ms name) ↔ l.AsksInVain name := by
  unfold load AsksInVain
  cases hm : l.moduleOf name with
  | error e =>
      have he : e.isExpected = true := by
        unfold moduleOf at hm
        simp only at hm
        split at hm
        · split at hm <;> cases hm
          rfl
        · cases hm
      simp [he]
  | ok m =>
      have hfault := ms.importNamed_fault m
      simp only [Except.ok.injEq, exists_eq_left', ← hfault]
      cases hi : ms.importNamed m with
      | error f =>
          cases f with
          | notFound reason => exact iff_of_false (by simp; rfl) (by simp)
          | fault e => simp [Modules.importNamed_isExpected hi]
      | ok mod =>
          refine iff_of_false ?_ (by simp)
          simp only
          split
          · exact not_unexpected_ok _
          · exact not_unexpected_error rfl

theorem prepare_unexpected {l : ClassLoader} {ms : Modules} {role : Interface} {name : String} :
    Unexpected (l.prepare ms (some role) name) ↔ l.AsksInVain name := by
  rw [← load_unexpected ms]
  unfold prepare
  cases l.load ms name with
  | error e => exact unexpected_error.trans unexpected_error.symm
  | ok c =>
      refine iff_of_false ?_ (not_unexpected_ok _)
      simp only
      split
      · unfold construct
        split
        · exact not_unexpected_error rfl
        · exact not_unexpected_ok _
      · exact not_unexpected_error rfl

end ClassLoader

/-! ## Paths -/

namespace FileTree

/-- A path that cannot be handed to the system, and no directory on the way to it stands
in front of that with a trouble of its own; or one that the system does not even answer
for, since a name in it is too long or may not be looked up. -/
def BreaksOn (t : FileTree) (p : Path) : Prop :=
  (t.obstacle? p).isSome = true ∨
    hasNull p = true ∧ ∀ f, (t.ensureDirectory p.parent).2 ≠ some (.fault f)

theorem mem_intercalate {c a : Char} (hc : c ≠ a) {ls : List (List Char)} :
    c ∈ List.intercalate [a] ls ↔ ∃ l ∈ ls, c ∈ l := by
  induction ls with
  | nil => simp
  | cons l rest ih =>
      cases rest with
      | nil => simp
      | cons l' rest' =>
          rw [List.intercalate_cons_cons, List.mem_append, List.mem_append, ih]
          simp [hc]

/-- The null character of a path is in its root or in one of its components. -/
theorem hasNull_iff {p : Path} :
    hasNull p = true ↔ '\x00' ∈ p.root.toList ∨ ∃ c ∈ p.parts, '\x00' ∈ c.toList := by
  rw [hasNull, List.contains_iff_mem, Path.toString]
  split
  · next hempty =>
      simp only [Bool.and_eq_true, List.isEmpty_iff, String.isEmpty_iff] at hempty
      simp [hempty.1, hempty.2]
  · rw [String.toList_append, List.mem_append, String.toList_intercalate,
      show "/".toList = ['/'] from rfl, mem_intercalate (by decide)]
    simp

theorem hasNull_above {root last : String} {above : List String}
    (h : hasNull ⟨root, (last :: above).reverse⟩ = false) :
    hasNull ⟨root, above.reverse⟩ = false := by
  rw [Bool.eq_false_iff, ne_eq, hasNull_iff] at h ⊢
  rintro (hroot | ⟨c, hc, hnull⟩)
  · exact h (.inl hroot)
  · exact h (.inr ⟨c, List.mem_reverse.2 (List.mem_cons_of_mem _ (List.mem_reverse.1 hc)), hnull⟩)

theorem ensureOne_failure {t : FileTree} {p : Path} (hp : hasNull p = false) :
    (t.ensureOne p).2 ≠ some .nullInPath := by
  unfold ensureOne
  rw [hp, if_neg Bool.false_ne_true]
  split
  · simp
  · split <;> simp

/-- A directory is made, or refused with a fault of the system, unless there is a null
character in its path. -/
theorem ensureFrom_failure {root : String} :
    ∀ {above : List String} {t : FileTree}, hasNull ⟨root, above.reverse⟩ = false →
      (t.ensureFrom root above).2 ≠ some .nullInPath := by
  intro above
  induction above with
  | nil => exact ensureOne_failure
  | cons last above ih =>
      intro t hp
      unfold ensureFrom
      simp only [hp, Bool.false_eq_true, if_false]
      split
      · simp
      · split
        · have habove := ih (t := t) (hasNull_above hp)
          rcases hr : t.ensureFrom root above with ⟨t', failure⟩
          rw [hr] at habove
          cases failure with
          | none => exact ensureOne_failure hp
          | some f => exact habove
        · split <;> simp

theorem hasNull_parent {p : Path} (hp : hasNull p = false) : hasNull p.parent = false := by
  rw [Bool.eq_false_iff, ne_eq, hasNull_iff] at hp ⊢
  rintro (hroot | ⟨c, hc, hnull⟩)
  · exact hp (.inl hroot)
  · exact hp (.inr ⟨c, (List.dropLast_sublist _).subset hc, hnull⟩)

theorem create_failure {t : FileTree} {p : Path} (hp : hasNull p = false) :
    (t.create p).2 ≠ some .nullInPath := by
  have hparent : (t.ensureDirectory p.parent).2 ≠ some .nullInPath := by
    refine ensureFrom_failure ?_
    rw [List.reverse_reverse]
    exact hasNull_parent hp
  unfold create
  rcases hr : t.ensureDirectory p.parent with ⟨t', failure⟩
  rw [hr] at hparent
  cases failure with
  | some f => exact hparent
  | none =>
      simp only [openForWriting, hp, Bool.false_eq_true, if_false]
      split <;> simp

/-- A path with a null character fails in any case, at the latest when the file is
opened. -/
theorem create_null {t : FileTree} {p : Path} (hp : hasNull p = true) :
    (t.create p).2 = some ((t.ensureDirectory p.parent).2.getD .nullInPath) := by
  unfold create
  rcases t.ensureDirectory p.parent with ⟨t', failure⟩
  cases failure with
  | some f => rfl
  | none => simp [openForWriting, hp]

end FileTree

theorem Kind.openOutput_unexpected {p : Path} {h : Host} :
    Unexpected ((openOutput p).run h).1 ↔ h.files.BreaksOn p := by
  rw [openOutput_run]
  cases hobstacle : h.files.obstacle? p with
  | some e => exact iff_of_true (unexpected_error.2 rfl) (.inl (by rw [hobstacle]; rfl))
  | none =>
      have hbreaks : h.files.BreaksOn p ↔ FileTree.hasNull p = true ∧
          ∀ f, (h.files.ensureDirectory p.parent).2 ≠ some (.fault f) := by
        simp [FileTree.BreaksOn, hobstacle]
      rw [hbreaks]
      dsimp only
      cases hdir : h.files.isDirectory p with
      | true =>
          have hnull : FileTree.hasNull p = false := by
            simp only [FileTree.isDirectory, Bool.and_eq_true, Bool.not_eq_true'] at hdir
            exact hdir.1
          exact iff_of_false (not_unexpected_error rfl) (by simp [hnull])
      | false =>
          rw [if_neg Bool.false_ne_true]
          cases hnull : FileTree.hasNull p with
          | false =>
              have hfailure := FileTree.create_failure (t := h.files) hnull
              refine iff_of_false ?_ (by simp)
              rcases hc : h.files.create p with ⟨files, failure⟩
              rw [hc] at hfailure
              cases failure with
              | none => exact not_unexpected_ok _
              | some f =>
                  cases f with
                  | fault f =>
                      exact not_unexpected_error rfl
                  | nullInPath => exact absurd rfl hfailure
          | true =>
              have hfailure := FileTree.create_null (t := h.files) hnull
              rcases hc : h.files.create p with ⟨files, failure⟩
              rw [hc] at hfailure
              obtain rfl : failure = _ := hfailure
              rcases (h.files.ensureDirectory p.parent).2 with _ | (f | _)
              · exact iff_of_true (unexpected_error.2 rfl) (by simp)
              · exact iff_of_false (not_unexpected_error rfl) (by simp)
              · exact iff_of_true (unexpected_error.2 rfl) (by simp)

/-! ## Settings -/

namespace Kind

/-- A setting of the kind breaks on the text of a property.  Of a list the first item
counts that is not accepted. -/
def Breaks (loader : ClassLoader) (h : Host) (raw : String) : Kind → Prop
  | counter => Coercion.Overlong raw
  | version => Version.Overlong raw
  | encoding => '\x00' ∈ raw.toList
  | overrides => ∃ t, (Text.tokenize raw).find? (fun t => !(ErrorOverride.parse t).isOk) = some t ∧
      ErrorOverride.Overlong t
  | instances role => ∃ name, (Text.tokenize raw).find?
      (fun name => !(loader.prepare h.modules (some role) name).isOk) = some name ∧
      loader.AsksInVain name
  | output => h.files.BreaksOn (Path.ofString raw)
  | _ => False

variable {key raw field : String} {loader : ClassLoader} {h : Host} {k : Kind}

theorem read_unexpected : Unexpected (k.read key raw) ↔ k = .counter ∧ Coercion.Overlong raw := by
  cases k with
  | counter => simp [read, Coercion.integer_unexpected]
  | flag =>
      refine iff_of_false ?_ (by simp)
      rw [read, unexpected_map]
      unfold Coercion.flag
      split
      · exact not_unexpected_ok _
      · exact not_unexpected_error rfl
  | instances role =>
      refine iff_of_false ?_ (by simp)
      unfold read
      split <;> exact not_unexpected_ok _
  | _ => exact iff_of_false (not_unexpected_ok _) (by simp)

/-- A text that is refused as it is read breaks a counter, if anything. -/
theorem breaks_of_read_error {e : Error} (hr : k.read key raw = .error e)
    (hb : k.Breaks loader h raw) : k = .counter := by
  cases k with
  | counter => rfl
  | instances role =>
      by_cases hblank : Text.isBlankText raw = true
      · cases (if_pos hblank).symm.trans hr
      · cases (if_neg hblank).symm.trans hr
  | flag => cases hb
  | _ => cases hr

/-- A text that counts as absent breaks nothing. -/
theorem not_breaks_of_read_none (hr : k.read key raw = .ok none) :
    ¬ k.Breaks loader h raw := by
  cases k with
  | counter =>
      unfold read at hr
      cases hi : Coercion.integer key raw <;> rw [hi] at hr <;> cases hr
  | flag => exact id
  | instances role =>
      by_cases hblank : Text.isBlankText raw = true
      · rintro ⟨name, hfind, -⟩
        rw [Text.tokenize_blank hblank] at hfind
        cases hfind
      · cases (if_neg hblank).symm.trans hr
  | table | provider => exact id
  | _ => cases hr

theorem acceptEncoding_unexpected :
    Unexpected (acceptEncoding (some raw)) ↔ '\x00' ∈ raw.toList := by
  unfold acceptEncoding
  by_cases hz : '\x00' ∈ raw.toList
  · simp [hz]
    rfl
  · refine iff_of_false ?_ hz
    simp only [List.contains_iff_mem, hz, if_false]
    split
    · exact not_unexpected_ok _
    · exact not_unexpected_error rfl

theorem acceptCounter_unexpected {n : Int} (hn : Scalar.isTooLong (.number n) = false) :
    ¬ Unexpected (acceptCounter field (.number n)) := by
  show ¬ Unexpected (if 0 ≤ n then _ else if Scalar.isTooLong (.number n) then _ else _)
  rw [hn]
  split
  · exact not_unexpected_ok _
  · exact not_unexpected_error rfl

theorem acceptRequired_unexpected {s : Option String} :
    ¬ Unexpected (acceptRequired field s) := by
  unfold acceptRequired
  split
  · exact not_unexpected_ok _
  · exact not_unexpected_error rfl

theorem ofText_unexpected {s : Option String} : ¬ Unexpected (Pattern.ofText s) := by
  unfold Pattern.ofText
  split
  · exact not_unexpected_error rfl
  · split
    · exact not_unexpected_ok _
    · exact not_unexpected_error rfl

theorem resolveTexts_unexpected {ts : List String} :
    Unexpected (resolveAll OverrideItem.resolve (ts.map .text)) ↔
      ∃ t, ts.find? (fun t => !(ErrorOverride.parse t).isOk) = some t ∧
        ErrorOverride.Overlong t := by
  rw [resolveAll_unexpected, List.find?_map]
  constructor
  · rintro ⟨x, hx, hu⟩
    obtain ⟨t, ht, rfl⟩ := Option.map_eq_some_iff.1 hx
    exact ⟨t, ht, ErrorOverride.parse_unexpected.1 hu⟩
  · rintro ⟨t, ht, hlong⟩
    exact ⟨.text t, Option.map_eq_some_iff.2 ⟨t, ht, rfl⟩, ErrorOverride.parse_unexpected.2 hlong⟩

/-- Whoever is given the text of a property breaks on it, or refuses it as it should
be. -/
theorem accept_unexpected {a : k.Argument} (hr : k.read key raw = .ok (some a)) :
    Unexpected ((k.accept field loader a).run h).1 ↔ k.Breaks loader h raw := by
  cases k with
  | flag | text | optionalText | nonEmptyText | connectionText =>
      exact iff_of_false (not_unexpected_ok _) id
  | table | provider => cases hr
  | counter =>
      unfold read at hr
      cases hi : Coercion.integer key raw with
      | error e =>
          rw [hi] at hr
          cases hr
      | ok n =>
          rw [hi] at hr
          cases hr
          rw [accept, HostM.run_ofExcept]
          refine iff_of_false (acceptCounter_unexpected (Coercion.integer_short hi)) fun hb => ?_
          have hu := (Coercion.integer_unexpected key).2 hb
          rw [hi] at hu
          exact not_unexpected_ok _ hu
  | requiredText =>
      rw [accept, HostM.run_ofExcept]
      exact iff_of_false acceptRequired_unexpected id
  | texts =>
      cases hr
      exact iff_of_false (not_unexpected_ok _) id
  | encoding =>
      cases hr
      rw [accept, HostM.run_ofExcept, acceptEncoding_unexpected]
      rfl
  | version =>
      cases hr
      rw [accept, HostM.run_ofExcept, VersionArgument.resolve, Version.parse_unexpected]
      rfl
  | patterns =>
      cases hr
      refine iff_of_false ?_ id
      rw [accept, ListArgument.resolve, HostM.run_bind_ok (HostM.run_ofExcept _ h),
        HostM.run_ofExcept]
      intro hu
      obtain ⟨x, hx, hitem⟩ := resolveAll_unexpected.1 hu
      obtain ⟨t, -, rfl⟩ := List.mem_map.1 (List.mem_of_find?_eq_some hx)
      exact ofText_unexpected (s := some t) hitem
  | overrides =>
      cases hr
      rw [accept, ListArgument.resolve, HostM.run_bind_ok (HostM.run_ofExcept _ h),
        HostM.run_ofExcept, resolveTexts_unexpected]
      rfl
  | instances role =>
      by_cases hblank : Text.isBlankText raw = true
      · cases (if_pos hblank).symm.trans hr
      · cases (if_neg hblank).symm.trans hr
        obtain ⟨es, hes⟩ := loader.instantiateAll_run (some role) (Text.tokenize raw) h
        show Unexpected ((loader.instantiateAll (some role) (Text.tokenize raw)).run h).1 ↔ _
        rw [hes, resolveAll_unexpected]
        simp [Breaks, ClassLoader.prepare_unexpected]
  | output =>
      cases hr
      show Unexpected ((acceptOutput (.file (Path.ofString raw))).run h).1 ↔ _
      rw [acceptOutput_run_file, unexpected_map, openOutput_unexpected]
      rfl

end Kind

/-! ## Passes -/

namespace Config

variable {c : Config} {h : Host} {m : PropertyMap} {s : Setting} {key raw : String}

theorem require_unexpected : ¬ Unexpected (c.require s) := by
  unfold require
  split
  · exact not_unexpected_ok _
  · unfold Gate.require
    split
    · exact not_unexpected_ok _
    · exact not_unexpected_error rfl

theorem allows_counter (hk : s.kind = .counter) : c.allows s = true := by
  have hfeature : s.feature? = none := by
    cases s <;> first | rfl | cases hk
  simp only [allows, hfeature]

/-- A text breaks a setting of a configuration: its kind breaks on it, or the text has an
output replaced that cannot be closed. -/
def Breaks (c : Config) (h : Host) (s : Setting) (raw : String) : Prop :=
  s.kind.Breaks c.loader h raw ∨
    s = .dryRunOutput ∧ h.files.Opens (Path.ofString raw) ∧
      (h.fileFault? (c.get .dryRunOutput)).isSome = true

theorem breaks_of_ne (hs : s ≠ .dryRunOutput) :
    c.Breaks h s raw ↔ s.kind.Breaks c.loader h raw :=
  or_iff_left fun hb => hs hb.1

theorem takes_output_unexpected {p : Path} :
    Unexpected (c.takes h .dryRunOutput (.file p)) ↔
      c.allows .dryRunOutput = true ∧ (h.files.BreaksOn p ∨
        h.files.Opens p ∧ (h.fileFault? (c.get .dryRunOutput)).isSome = true) := by
  rw [takes_output]
  cases hrequire : c.require .dryRunOutput with
  | error e =>
      have hexpected := require_unexpected (c := c) (s := .dryRunOutput)
      rw [hrequire] at hexpected
      refine iff_of_false (fun hu => hexpected (unexpected_error.2 (unexpected_error.1 hu)))
        fun hb => ?_
      rw [require_eq_ok.2 hb.1] at hrequire
      cases hrequire
  | ok u =>
      have hopen := Kind.openOutput_unexpected (p := p) (h := h)
      rw [and_iff_right (require_eq_ok.1 hrequire), Kind.acceptOutput_run_file, ← hopen]
      rcases Kind.openOutput_cases p h with ⟨hopens, e, h', hr, -⟩ | ⟨hopens, h', hr, hs⟩
      · rw [hr, or_iff_left fun hb => hopens hb.1]
        exact unexpected_error.trans unexpected_error.symm
      · rw [hr, and_iff_right hopens, or_iff_right (not_unexpected_ok _)]
        show Unexpected ((h'.closing (c.get .dryRunOutput) _).map _) ↔ _
        rw [unexpected_map]
        constructor
        · rintro ⟨e, he, -⟩
          obtain ⟨f, hf, -⟩ := (Host.closing_opened hs).1 he
          rw [hf]
          rfl
        · intro hfault
          obtain ⟨f, hf⟩ := Option.isSome_iff_exists.1 hfault
          exact ⟨.stream f, (Host.closing_opened hs).2 ⟨f, hf, rfl⟩, rfl⟩

/-- A setting breaks a pass when its text does and the edition has the setting.  A text is
read before the edition is asked, but only that of a counter can break as it is read, and
every edition has the counters. -/
theorem outcome_unexpected (hm : textFor? m s = some (key, raw)) :
    Unexpected (c.outcome h m s) ↔ c.allows s = true ∧ c.Breaks h s raw := by
  have hargument : argument? m s = s.kind.read key raw := by simp only [argument?, hm]
  unfold outcome
  rw [hargument]
  cases hr : s.kind.read key raw with
  | error e =>
      have hread : Unexpected (s.kind.read key raw) ↔ _ := Kind.read_unexpected
      rw [hr, unexpected_error] at hread
      rw [unexpected_error, hread]
      constructor
      · rintro ⟨hk, hlong⟩
        refine ⟨allows_counter hk, .inl ?_⟩
        rw [hk]
        exact hlong
      · rintro ⟨-, hb⟩
        have hs : s ≠ .dryRunOutput := by
          rintro rfl
          cases hr
        have hb := (breaks_of_ne hs).1 hb
        have hk := Kind.breaks_of_read_error hr hb
        rw [hk] at hb
        exact ⟨hk, hb⟩
  | ok o =>
      cases o with
      | none =>
          have hs : s ≠ .dryRunOutput := by
            rintro rfl
            cases hr
          exact iff_of_false (not_unexpected_ok _) fun hb =>
            Kind.not_breaks_of_read_none hr ((breaks_of_ne hs).1 hb.2)
      | some a =>
          show Unexpected (c.takes h s a) ↔ _
          by_cases hs : s = .dryRunOutput
          · subst hs
            cases hr
            rw [takes_output_unexpected]
            exact and_congr_right fun _ => or_congr_right (and_iff_right rfl).symm
          rw [takes_eq_accept c h hs, breaks_of_ne hs]
          cases hrequire : c.require s with
          | error e =>
              have hexpected := require_unexpected (c := c) (s := s)
              rw [hrequire] at hexpected
              refine iff_of_false (fun hu => hexpected (unexpected_error.2 (unexpected_error.1 hu)))
                fun hb => ?_
              rw [require_eq_ok.2 hb.1] at hrequire
              cases hrequire
          | ok u =>
              show Unexpected ((s.kind.accept s.name c.loader a).run h).1 ↔ _
              rw [Kind.accept_unexpected hr, ← require_eq_ok, hrequire]
              exact (and_iff_right rfl).symm

/-- The setting that ends a pass is one that the map has a text for. -/
theorem textFor?_of_refused {e : Error} (he : c.outcome h m s = .error e) :
    ∃ key raw, textFor? m s = some (key, raw) := by
  cases hm : textFor? m s with
  | none =>
      rw [outcome_absent hm] at he
      cases he
  | some entry => exact ⟨entry.1, entry.2, rfl⟩

theorem verdict_unexpected {root : String} : ¬ Unexpected (verdict m root) := by
  unfold verdict
  split
  · exact not_unexpected_ok _
  · exact not_unexpected_error rfl

/-- A pass breaks just when the first setting that is refused does. -/
theorem configure_unexpected :
    Unexpected ((configure m).run ⟨c, h⟩).1 ↔
      ∃ s key raw, c.firstRefused h m = some s ∧ textFor? m s = some (key, raw) ∧
        c.allows s = true ∧ c.Breaks h s raw := by
  unfold configure
  cases hf : c.firstRefused h m with
  | none =>
      obtain ⟨c', h', hr, -, -⟩ := apply_accepted propertyRoot hf
      rw [hr]
      exact iff_of_false verdict_unexpected fun ⟨s, key, raw, hs, _⟩ => nomatch hs
  | some f =>
      obtain ⟨e, t, hr, he, -⟩ := apply_refused propertyRoot hf
      obtain ⟨key, raw, hm⟩ := textFor?_of_refused he
      have hbreaks := outcome_unexpected (c := c) (h := h) hm
      rw [he, unexpected_error] at hbreaks
      rw [hr, unexpected_error, hbreaks]
      constructor
      · intro hb
        exact ⟨f, key, raw, rfl, hm, hb⟩
      · rintro ⟨s, key', raw', ⟨⟩, hm', hb⟩
        rw [hm] at hm'
        cases hm'
        exact hb

end Config

end MigrationConfig
