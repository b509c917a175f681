/-
# What patterns pick

A pattern that is a version is meant for the versioned migrations of that version, any other
pattern for the repeatable migrations of a description (`Selects`).  Which of the two it is
is decided by the reader of versions, on whatever text the pattern has.

What is picked is decided the other way round, by the migration: the pattern is read as a
version only for a versioned migration, and compared with the description for any other.
For a versioned migration this comes to the same, as long as the pattern can be read or is
refused; a version with too long a number in it is neither, and picking fails.  A repeatable
migration, however, is picked by a version too, if its description happens to be the text
of that version.
-/
import MigrationConfig.Pattern
import MigrationConfig.Proofs.Overlong

namespace MigrationConfig

namespace Version

/-! ## Texts that are no versions -/

variable {raw : String} {e : Error}

theorem readParts_error {ps : List (List Char)} (h : readParts ps = .error e) :
    ∃ n, e = .value (.tooManyDigits n) := by
  induction ps with
  | nil => cases h
  | cons p rest ih =>
      unfold readParts at h
      split at h
      · cases h
        exact ⟨p.length, rfl⟩
      · split at h
        · cases h
        · next he =>
            cases h
            exact ih he

/-- A text is refused as an invalid version, or has too long a number in it. -/
theorem parse_error (h : parse (some raw) = .error e) :
    (∃ cause, e = .invalid cause) ∨ ∃ n, e = .value (.tooManyDigits n) := by
  unfold parse at h
  simp only at h
  split at h
  · cases h
  split at h
  · cases h
  split at h
  · cases h
    exact .inl ⟨_, rfl⟩
  split at h
  · cases h
    exact .inl ⟨_, rfl⟩
  split at h
  · cases h
  · next he =>
      cases h
      exact .inr (readParts_error he)

theorem overlong_iff :
    Overlong raw ↔ ∃ n, parse (some raw) = .error (.value (.tooManyDigits n)) := by
  rw [← parse_unexpected]
  constructor
  · rintro ⟨e, h, he⟩
    rcases parse_error h with ⟨cause, rfl⟩ | ⟨n, rfl⟩
    · cases he
    · exact ⟨n, h⟩
  · rintro ⟨n, h⟩
    exact ⟨_, h, rfl⟩

end Version

namespace Pattern

/-! ## What is meant -/

/-- The migrations that a pattern is meant to pick, by their version or its absence, and their
description. -/
inductive Selects (p : Pattern) : Option Version → String → Prop
  | versioned {v w : Version} {d : String} (hread : Version.parse (some p.text) = .ok w)
      (hsame : w.same v = true) : Selects p (some v) d
  | repeatable {d : String} (hunread : ∀ w, Version.parse (some p.text) ≠ .ok w)
      (hjoined : joined p.text = joined d) : Selects p none d

variable {p : Pattern} {v w : Version} {d : String}

theorem selects_some : p.Selects (some v) d ↔ ∃ w, Version.parse (some p.text) = .ok w ∧
    w.same v = true :=
  ⟨fun h => by cases h with | versioned hread hsame => exact ⟨_, hread, hsame⟩,
    fun ⟨_, hread, hsame⟩ => .versioned hread hsame⟩

theorem selects_none : p.Selects none d ↔ (∀ w, Version.parse (some p.text) ≠ .ok w) ∧
    joined p.text = joined d :=
  ⟨fun h => by cases h with | repeatable hunread hjoined => exact ⟨hunread, hjoined⟩,
    fun ⟨hunread, hjoined⟩ => .repeatable hunread hjoined⟩

/-! ## What is picked -/

theorem picks_none (p : Pattern) (d : String) :
    p.picks none d = .ok (joined p.text == joined d) := rfl

theorem picks_version (hread : Version.parse (some p.text) = .ok w) (v : Version) (d : String) :
    p.picks (some v) d = .ok (w.same v) := by
  simp only [picks, hread]

theorem picks_refused {cause : Cause} (h : Version.parse (some p.text) = .error (.invalid cause))
    (v : Version) (d : String) : p.picks (some v) d = .ok false := by
  simp only [picks, h]
  rfl

theorem picks_overlong {n : Nat}
    (h : Version.parse (some p.text) = .error (.value (.tooManyDigits n))) (v : Version)
    (d : String) : p.picks (some v) d = .error (.value (.tooManyDigits n)) := by
  simp only [picks, h]
  rfl

/-- A versioned migration is picked as it is meant to be, unless the number of the pattern is too
long to be read. -/
theorem picks_some_iff :
    (∃ b, p.picks (some v) d = .ok b ∧ (b = true ↔ p.Selects (some v) d)) ↔
      ¬ Version.Overlong p.text := by
  rw [Version.overlong_iff, selects_some]
  cases h : Version.parse (some p.text) with
  | ok w =>
      refine iff_of_true ⟨w.same v, picks_version h v d, ?_⟩ (by simp)
      exact ⟨fun hsame => ⟨w, rfl, hsame⟩, fun ⟨_, hread, hsame⟩ => Except.ok.inj hread ▸ hsame⟩
  | error e =>
      rcases Version.parse_error h with ⟨cause, rfl⟩ | ⟨n, rfl⟩
      · exact iff_of_true ⟨false, picks_refused h v d, by simp⟩ (by simp)
      · refine iff_of_false ?_ (by simp)
        rintro ⟨b, hb, -⟩
        cases (picks_overlong h v d).symm.trans hb

/-- A repeatable migration is picked as it is meant to be, unless its description is that of a
pattern that is a version. -/
theorem picks_none_iff :
    (∃ b, p.picks none d = .ok b ∧ (b = true ↔ p.Selects none d)) ↔
      ∀ w, Version.parse (some p.text) = .ok w → joined p.text ≠ joined d := by
  rw [selects_none, picks_none]
  constructor
  · rintro ⟨b, hb, hagrees⟩ w hread hjoined
    cases hb
    exact (hagrees.1 (beq_iff_eq.2 hjoined)).1 w hread
  · intro hall
    refine ⟨_, rfl, beq_iff_eq.trans ⟨fun hjoined => ⟨fun w hread => ?_, hjoined⟩, And.right⟩⟩
    exact hall w hread hjoined

/-- A pattern picks what it is meant to pick, for a versioned migration just when it is no version
with a number too long to be read, and for a repeatable one just when it is not both a
version and the description.  A description never picks a versioned migration. -/
theorem picks_agrees_iff (p : Pattern) (v : Option Version) (d : String) :
    ((∃ b, p.picks v d = .ok b ∧ (b = true ↔ p.Selects v d)) ↔
      (v ≠ none → ¬ Version.Overlong p.text) ∧
        (v = none → ∀ w, Version.parse (some p.text) = .ok w → joined p.text ≠ joined d)) ∧
    ((∀ w, Version.parse (some p.text) ≠ .ok w) → v ≠ none → p.picks v d ≠ .ok true) := by
  cases v with
  | none =>
      refine ⟨picks_none_iff.trans ?_, fun _ hv => absurd rfl hv⟩
      exact ⟨fun h => ⟨fun hv => absurd rfl hv, fun _ => h⟩, fun h => h.2 rfl⟩
  | some v =>
      refine ⟨picks_some_iff.trans ?_, fun hunread _ hpicks => ?_⟩
      · exact ⟨fun h => ⟨fun _ => h, nofun⟩, fun h => h.1 (Option.some_ne_none v)⟩
      · cases h : Version.parse (some p.text) with
        | ok w => exact hunread w h
        | error e =>
            rcases Version.parse_error h with ⟨cause, rfl⟩ | ⟨n, rfl⟩
            · cases (picks_refused h v d).symm.trans hpicks
            · cases (picks_overlong h v d).symm.trans hpicks

/-- A version picks the repeatable migration that is described by its text. -/
theorem picks_repeatable_by_version :
    let p : Pattern := ⟨"1.2", by decide⟩
    Version.parse (some p.text) = .ok (.numeric "1.2" [1, 2]) ∧ p.picks none "1.2" = .ok true ∧
      ¬ p.Selects none "1.2" := by
  intro p
  have hread : Version.parse (some "1.2") = .ok (.numeric "1.2" [1, 2]) := rfl
  have hpicks : p.picks none "1.2" = .ok true :=
    congrArg Except.ok (beq_self_eq_true (joined "1.2"))
  refine ⟨hread, hpicks, fun h => ?_⟩
  exact (selects_none.1 h).1 _ hread

end Pattern

end MigrationConfig
