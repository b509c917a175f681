/-
# Numbers that are too long to be read

Whoever reads a text refuses it with an error of the configuration, and callers are
told to expect no other (`Error.isExpected`).  Numbers are the exception: a number of
more digits than are read at all fails with an error of its own, wherever it stands.
Which texts these are is said here for each of the three forms in which a number can
stand in a text, an integer, a version and a rule for errors.

None of it is said by way of the function that reads the text.  An overlong number
counts only in a text that is otherwise of the right form, for all else is looked at
first.
-/
import MigrationConfig.Proofs.Digits
import MigrationConfig.Setting.Argument

namespace MigrationConfig

/-- An error that callers are told to expect: of the configuration, or of the edition. -/
def Error.isExpected : Error → Bool
  | .upgradeRequired _ _ _ => true
  | e => e.isConfiguration

/-- A failure with any other error. -/
def Unexpected {α : Type} (r : Except Error α) : Prop := ∃ e, r = .error e ∧ e.isExpected = false

section Unexpected

variable {α β : Type}

@[simp] theorem not_unexpected_ok (a : α) : ¬ Unexpected (.ok a : Except Error α) := by
  rintro ⟨e, h, -⟩
  cases h

@[simp] theorem unexpected_error {e : Error} :
    Unexpected (.error e : Except Error α) ↔ e.isExpected = false := by
  constructor
  · rintro ⟨e', h, he⟩
    cases h
    exact he
  · intro he
    exact ⟨e, rfl, he⟩

theorem not_unexpected_error {e : Error} (he : e.isExpected = true) :
    ¬ Unexpected (.error e : Except Error α) := by
  rw [unexpected_error, he]
  exact Bool.noConfusion

@[simp] theorem unexpected_map {r : Except Error α} (f : α → β) :
    Unexpected (r.map f) ↔ Unexpected r := by
  cases r with
  | ok a => exact iff_of_false (not_unexpected_ok _) (not_unexpected_ok _)
  | error e => exact unexpected_error.trans unexpected_error.symm

theorem resolveAll_cons {resolve : α → Except Error β} {x : α} {b : β} (hx : resolve x = .ok b)
    (rest : List α) :
    resolveAll resolve (x :: rest) = (resolveAll resolve rest).map (b :: ·) := by
  rw [resolveAll, hx]
  cases resolveAll resolve rest with
  | ok bs => rfl
  | error e => rfl

/-- Items that are resolved one by one fail as the first of them does that cannot be
resolved. -/
theorem resolveAll_unexpected {resolve : α → Except Error β} {xs : List α} :
    Unexpected (resolveAll resolve xs) ↔
      ∃ x, xs.find? (fun x => !(resolve x).isOk) = some x ∧ Unexpected (resolve x) := by
  induction xs with
  | nil => simp [resolveAll]
  | cons x rest ih =>
      rw [List.find?_cons]
      cases hx : resolve x with
      | error e => simp [resolveAll, Except.isOk, Except.toBool, hx]
      | ok b =>
          rw [resolveAll_cons hx, unexpected_map, ih]
          simp [Except.isOk, Except.toBool]

end Unexpected

/-! ## The three forms -/

/-- An integer, with or without a sign, of more digits than are read. -/
def Coercion.Overlong (raw : String) : Prop :=
  ∃ sign ds, Text.trim raw.toList = sign ++ ds ∧ sign ∈ [[], ['+'], ['-']] ∧
    (∀ c ∈ ds, Text.isDigit c = true) ∧ Text.digitLimit < ds.length

namespace Coercion

theorem signed?_eq_some {s ds : List Char} {negative : Bool} (h : signed? s = some (negative, ds)) :
    ∃ sign, s = sign ++ ds ∧ sign ∈ [[], ['+'], ['-']] ∧ ∀ c ∈ ds, Text.isDigit c = true := by
  unfold signed? at h
  split at h
  next negative' ds' hsplit =>
  split at h
  · cases h
  · next hds =>
      cases h
      simp only [Bool.or_eq_true, Bool.not_eq_true', not_or, Bool.not_eq_false,
        List.all_eq_true] at hds
      split at hsplit
      · cases hsplit
        exact ⟨['-'], rfl, by simp, hds.2⟩
      · cases hsplit
        exact ⟨['+'], rfl, by simp, hds.2⟩
      · cases hsplit
        exact ⟨[], rfl, by simp, hds.2⟩

theorem integer_unexpected (key : String) {raw : String} :
    Unexpected (integer key raw) ↔ Overlong raw := by
  constructor
  · intro h
    unfold integer at h
    split at h
    · cases unexpected_error.1 h
    · next negative ds hsigned =>
        obtain ⟨sign, hs, hsign, hds⟩ := signed?_eq_some hsigned
        split at h
        · next hlimit => exact ⟨sign, ds, hs, hsign, hds, hlimit⟩
        · exact absurd h (not_unexpected_ok _)
  · rintro ⟨sign, ds, hs, hsign, hds, hlimit⟩
    have hne : ds ≠ [] := by
      rintro rfl
      exact absurd hlimit (by simp)
    unfold integer
    rw [hs, signed?_append hsign hne hds]
    simp only [if_pos hlimit]
    exact unexpected_error.2 rfl

end Coercion

/-- A version of the right form with a number of more digits than are read. -/
def Version.Overlong (raw : String) : Prop :=
  (∀ p ∈ Text.splitOn ['.'] (Version.dotted (Text.trim raw.toList)),
    p ≠ [] ∧ ∀ c ∈ p, Text.isDigit c = true) ∧
    ∃ p ∈ Text.splitOn ['.'] (Version.dotted (Text.trim raw.toList)), Text.digitLimit < p.length

namespace Version

theorem readParts_unexpected {ps : List (List Char)} :
    Unexpected (readParts ps) ↔ ∃ p ∈ ps, Text.digitLimit < p.length := by
  induction ps with
  | nil => simp [readParts]
  | cons p rest ih =>
      unfold readParts
      split
      · next hp => exact iff_of_true (unexpected_error.2 rfl) ⟨p, List.mem_cons_self .., hp⟩
      · next hp =>
          have hrest : Unexpected (readParts rest) ↔
              ∃ q ∈ p :: rest, Text.digitLimit < q.length := by
            simpa [hp] using ih
          rw [← hrest]
          cases readParts rest with
          | ok ns => exact iff_of_false (not_unexpected_ok _) (not_unexpected_ok _)
          | error e => exact unexpected_error.trans unexpected_error.symm

/-- A word is too short to have an overlong number in it. -/
theorem Overlong.not_word {raw : String} (h : Overlong raw) {word : List Char}
    (hword : word.length ≤ Text.digitLimit) :
    (Text.asciiLower (Text.trim raw.toList) == word) = false := by
  obtain ⟨-, p, hp, hlimit⟩ := h
  rw [beq_eq_false_iff_ne]
  rintro rfl
  rw [Text.splitOn_singleton] at hp
  have hlength := (Text.sublist_of_mem_splitOn hp).length_le
  rw [dotted, List.length_map] at hlength
  rw [Text.asciiLower, List.length_map] at hword
  omega

theorem parse_unexpected {raw : String} : Unexpected (parse (some raw)) ↔ Overlong raw := by
  have hforms : ∀ ps : List (List Char),
      ((ps.any fun p => p.isEmpty) = false ∧ (ps.all fun p => p.all Text.isDigit) = true) ↔
        ∀ p ∈ ps, p ≠ [] ∧ ∀ c ∈ p, Text.isDigit c = true := by
    intro ps
    simp only [List.any_eq_false, List.all_eq_true, List.isEmpty_iff]
    exact ⟨fun h p hp => ⟨h.1 p hp, h.2 p hp⟩,
      fun h => ⟨fun p hp => (h p hp).1, fun p hp => (h p hp).2⟩⟩
  constructor
  · intro h
    unfold parse at h
    simp only at h
    split at h
    · exact absurd h (not_unexpected_ok _)
    split at h
    · exact absurd h (not_unexpected_ok _)
    split at h
    · cases unexpected_error.1 h
    · next hempty =>
        split at h
        · cases unexpected_error.1 h
        · next hdigits =>
            rw [Bool.not_eq_true] at hempty
            rw [Bool.not_eq_true', Bool.not_eq_false] at hdigits
            refine ⟨(hforms _).1 ⟨hempty, hdigits⟩, ?_⟩
            refine readParts_unexpected.1 ?_
            split at h
            · exact absurd h (not_unexpected_ok _)
            · next e he =>
                exact ⟨e, he, unexpected_error.1 h⟩
  · intro h
    obtain ⟨hempty, hdigits⟩ := (hforms _).2 h.1
    obtain ⟨e, he, hunexpected⟩ := readParts_unexpected.2 h.2
    unfold parse
    simp only [h.not_word (show "latest".toList.length ≤ Text.digitLimit by decide),
      h.not_word (show "current".toList.length ≤ Text.digitLimit by decide), hempty, hdigits, he]
    exact unexpected_error.2 hunexpected

end Version

/-- A rule of the right form with a code of more digits than are read. -/
def ErrorOverride.Overlong (text : String) : Prop :=
  ∃ s sign ds b, ErrorOverride.sections? (Text.trim text.toList) = some (s, sign ++ ds, b) ∧
    (ErrorOverride.state? s).isSome ∧ (ErrorOverride.behavior? b).isSome ∧
    sign ∈ [[], ['-']] ∧ (∀ c ∈ ds, Text.isDecimal c = true) ∧ Text.digitLimit < ds.length

namespace ErrorOverride

/-- Digits of a code that pass are read with their sign. -/
theorem passDigits_eq_some {sign negative : Bool} {ds ds' : List Char} :
    (if ds'.isEmpty || !ds'.all Text.isDecimal then none else some (sign, ds')) =
        some (negative, ds) ↔
      (ds ≠ [] ∧ ∀ c ∈ ds, Text.isDecimal c = true) ∧ sign = negative ∧ ds' = ds := by
  have hpass : (ds'.isEmpty || !ds'.all Text.isDecimal) = false ↔
      ds' ≠ [] ∧ ∀ c ∈ ds', Text.isDecimal c = true := by
    simp [List.all_eq_true]
  constructor
  · intro h
    split at h
    · cases h
    · next hcond =>
        cases h
        exact ⟨hpass.1 (Bool.not_eq_true _ ▸ hcond), rfl, rfl⟩
  · rintro ⟨hds, rfl, rfl⟩
    rw [hpass.2 hds, if_neg Bool.false_ne_true]

theorem codeDigits?_eq_some {s ds : List Char} {negative : Bool} :
    codeDigits? s = some (negative, ds) ↔
      (ds ≠ [] ∧ ∀ c ∈ ds, Text.isDecimal c = true) ∧
        s = (if negative then ['-'] else []) ++ ds := by
  by_cases hminus : ∃ r, s = '-' :: r
  · obtain ⟨r, rfl⟩ := hminus
    refine passDigits_eq_some.trans (and_congr_right fun hds => ?_)
    cases negative with
    | true => simp
    | false =>
        refine iff_of_false (by simp) fun heq => ?_
        rw [if_neg Bool.false_ne_true, List.nil_append] at heq
        have hdecimal := hds.2 '-' (heq ▸ List.mem_cons_self ..)
        exact absurd hdecimal (by decide)
  · have hother : codeDigits? s =
        if s.isEmpty || !s.all Text.isDecimal then none else some (false, s) := by
      unfold codeDigits?
      split
      next sign ds' hsplit =>
      split at hsplit
      · exact absurd ⟨_, rfl⟩ hminus
      · cases hsplit
        rfl
    rw [hother]
    refine passDigits_eq_some.trans (and_congr_right fun _ => ?_)
    cases negative with
    | true => exact iff_of_false (by simp) fun heq => hminus ⟨ds, heq⟩
    | false => simp

theorem parse_unexpected {text : String} : Unexpected (parse text) ↔ Overlong text := by
  constructor
  · intro h
    unfold parse at h
    simp only at h
    split at h
    · cases unexpected_error.1 h
    next s c b hsections =>
    split at h
    · next state behavior hides hstate hbehavior =>
        split at h
        · exact absurd h (not_unexpected_ok _)
        split at h
        · cases unexpected_error.1 h
        · next negative ds hcode =>
            obtain ⟨⟨-, hds⟩, rfl⟩ := codeDigits?_eq_some.1 hcode
            have hsign : (if negative then ['-'] else []) ∈ [[], ['-']] := by
              cases negative <;> decide
            split at h
            · next hlimit =>
                exact ⟨s, _, ds, b, hsections, by rw [hstate]; rfl, by rw [hbehavior]; rfl,
                  hsign, hds, hlimit⟩
            · exact absurd h (not_unexpected_ok _)
    · cases unexpected_error.1 h
  · rintro ⟨s, sign, ds, b, hsections, hstate, hbehavior, hsign, hds, hlimit⟩
    obtain ⟨state, hstate⟩ := Option.isSome_iff_exists.1 hstate
    obtain ⟨⟨behavior, hides⟩, hbehavior⟩ := Option.isSome_iff_exists.1 hbehavior
    have hne : ds ≠ [] := by
      rintro rfl
      exact absurd hlimit (by simp)
    have hstar : (sign ++ ds == ['*']) = false := by
      rw [beq_eq_false_iff_ne]
      intro heq
      have hlength := congrArg List.length heq
      rw [List.length_append] at hlength
      simp only [List.length_cons, List.length_nil, Text.digitLimit] at hlength hlimit
      omega
    have hcode : ∃ negative, codeDigits? (sign ++ ds) = some (negative, ds) := by
      simp only [List.mem_cons, List.not_mem_nil, or_false] at hsign
      rcases hsign with rfl | rfl
      · exact ⟨false, codeDigits?_eq_some.2 ⟨⟨hne, hds⟩, rfl⟩⟩
      · exact ⟨true, codeDigits?_eq_some.2 ⟨⟨hne, hds⟩, rfl⟩⟩
    obtain ⟨negative, hcode⟩ := hcode
    unfold parse
    simp only [hsections, hstate, hbehavior, hstar, Bool.false_eq_true, if_false, hcode,
      if_pos hlimit]
    exact unexpected_error.2 rfl

end ErrorOverride

end MigrationConfig
