/-
# The text of a version

What is read as a version can be read again from the text of the version, and
gives the same version.  For a number this is so because its text has only digits
and dots: nothing in it is trimmed, no word is recognized in it, and no
underscore is left to be replaced.
-/
import MigrationConfig.Proofs.Digits
import MigrationConfig.Version

namespace MigrationConfig.Version

/-- A digit or a dot. -/
def isNumberChar (c : Char) : Bool := Text.isDigit c || c == '.'

theorem isNumberChar_iff {c : Char} :
    isNumberChar c = true ↔ (0x30 ≤ c.toNat ∧ c.toNat ≤ 0x39) ∨ c.toNat = 0x2E := by
  have hdot : c = '.' ↔ c.toNat = 0x2E := by
    constructor
    · rintro rfl
      rfl
    · intro h
      exact Char.toNat_inj.1 h
  rw [isNumberChar, Bool.or_eq_true, Text.isDigit_iff, beq_iff_eq, hdot]

section Number

variable {s : List Char} (hs : ∀ c ∈ s, isNumberChar c = true)
include hs

theorem trim_number : Text.trim s = s := by
  refine Text.trim_of_no_blank fun c hc => ?_
  have hn := isNumberChar_iff.1 (hs c hc)
  simp only [Text.isBlank, Bool.or_eq_false_iff, Bool.and_eq_false_iff, decide_eq_false_iff_not,
    beq_eq_false_iff_ne]
  omega

theorem dotted_number : dotted s = s := by
  rw [dotted, List.map_congr_left (g := id), List.map_id]
  intro c hc
  have hne : (c == '_') = false := by
    rw [beq_eq_false_iff_ne]
    rintro rfl
    exact absurd (hs '_' hc) (by decide)
  rw [hne]
  rfl

/-- A word with a character of its own is not found in a number. -/
theorem asciiLower_number {word : List Char} (hw : ∃ c ∈ word, isNumberChar c = false) :
    (Text.asciiLower s == word) = false := by
  have hlower : Text.asciiLower s = s := by
    rw [Text.asciiLower, List.map_congr_left (g := id), List.map_id]
    intro c hc
    have hn := isNumberChar_iff.1 (hs c hc)
    rw [if_neg]
    · rfl
    · simp only [Bool.and_eq_true, decide_eq_true_eq]
      omega
  rw [hlower, beq_eq_false_iff_ne]
  rintro rfl
  obtain ⟨c, hc, hn⟩ := hw
  rw [hs c hc] at hn
  cases hn

end Number

/-- The pieces between dots have only digits. -/
theorem isNumberChar_of_pieces {s : List Char}
    (h : ((Text.splitOn ['.'] s).all fun p => p.all Text.isDigit) = true) :
    ∀ c ∈ s, isNumberChar c = true := by
  intro c hc
  rw [Text.splitOn_singleton] at h
  rcases Text.mem_splitOn (a := '.') hc with rfl | ⟨p, hp, hcp⟩
  · decide
  · have hd := List.all_eq_true.1 (List.all_eq_true.1 h p hp) c hcp
    simp [isNumberChar, hd]

/-- A number is read as it stands. -/
theorem parse_number {s : List Char} {ns : List Nat} (hnum : ∀ c ∈ s, isNumberChar c = true)
    (hempty : ¬ ((Text.splitOn ['.'] s).any fun p => p.isEmpty) = true)
    (hall : ¬ (!(Text.splitOn ['.'] s).all fun p => p.all Text.isDigit) = true)
    (hns : readParts (Text.splitOn ['.'] s) = .ok ns) :
    parse (some (String.ofList s)) = .ok (numeric (String.ofList s) (dropZeros ns)) := by
  have hlatest : (Text.asciiLower s == "latest".toList) = false :=
    asciiLower_number hnum ⟨'l', by decide, by decide⟩
  have hcurrent : (Text.asciiLower s == "current".toList) = false :=
    asciiLower_number hnum ⟨'c', by decide, by decide⟩
  rw [parse]
  simp only [String.toList_ofList, trim_number hnum, dotted_number hnum]
  rw [hlatest, hcurrent, if_neg Bool.false_ne_true, if_neg Bool.false_ne_true, if_neg hempty,
    if_neg hall, hns]

/-- A version that was read is read from its own text again. -/
theorem parse_text {raw : String} {v : Version} (h : parse (some raw) = .ok v) :
    parse (some v.text) = .ok v ∧ v ≠ .empty := by
  have h' := h
  rw [parse] at h
  simp only at h
  split at h
  · cases h
    exact ⟨rfl, by decide⟩
  · split at h
    · cases h
      exact ⟨rfl, by decide⟩
    · split at h
      · cases h
      · next hempty =>
          split at h
          · cases h
          · next hall =>
              have hnum := isNumberChar_of_pieces (by simpa using hall)
              split at h
              · next ns hns =>
                  cases h
                  exact ⟨parse_number hnum hempty hall hns, by simp⟩
              · cases h

end MigrationConfig.Version
