/-
# Integers and their texts

The digits of a number are read back as the number, and a run of digits never
stands for more than its length allows.  So an integer that was read within the
limit of digits can be written within it, and read again.
-/
import Mathlib.Algebra.Ring.Nat
import Mathlib.Data.List.Basic
import MigrationConfig.Coercion
import MigrationConfig.Document
import MigrationConfig.Proofs.Token

namespace MigrationConfig.Text

theorem isDigit_iff {c : Char} : isDigit c = true ↔ 0x30 ≤ c.toNat ∧ c.toNat ≤ 0x39 := by
  simp [isDigit]

theorem isBlank_of_isDigit {c : Char} (h : isDigit c = true) : isBlank c = false := by
  rw [isDigit_iff] at h
  simp only [isBlank, Bool.or_eq_false_iff, Bool.and_eq_false_iff, decide_eq_false_iff_not,
    beq_eq_false_iff_ne]
  omega

theorem digitValue?_of_isDigit {c : Char} (h : isDigit c = true) :
    digitValue? c = some (c.toNat - 48) := by
  rw [isDigit_iff] at h
  obtain ⟨rest, hrest⟩ : ∃ rest, scriptZeros = 0x30 :: rest := ⟨_, rfl⟩
  rw [digitValue?, hrest, List.find?_cons_of_pos (by simp [h])]
  rfl

theorem digitValue?_le {c : Char} {n : Nat} (h : digitValue? c = some n) : n ≤ 9 := by
  obtain ⟨z, hz, rfl⟩ := Option.map_eq_some_iff.1 h
  have hle := List.find?_some hz
  simp only [Bool.and_eq_true, decide_eq_true_eq] at hle
  omega

theorem natOfDigits_eq {ds : List Char} (h : ∀ c ∈ ds, isDigit c = true) :
    natOfDigits ds = Nat.ofDigitChars 10 ds 0 := by
  rw [natOfDigits, Nat.ofDigitChars_eq_foldl]
  refine List.foldl_ext _ _ 0 fun n c hc => ?_
  rw [digitValue?_of_isDigit (h c hc)]
  rfl

/-- A run of digits stands for less than its length allows. -/
theorem natOfDigits_lt (ds : List Char) : natOfDigits ds < 10 ^ ds.length := by
  have step : ∀ (ds : List Char) (n : Nat),
      ds.foldl (fun n c => 10 * n + (digitValue? c).getD 0) n + 1 ≤ (n + 1) * 10 ^ ds.length := by
    intro ds
    induction ds with
    | nil => intro n; simp
    | cons c rest ih =>
        intro n
        have hc : (digitValue? c).getD 0 ≤ 9 := by
          cases hv : digitValue? c with
          | none => simp
          | some k => exact digitValue?_le hv
        calc
          _ ≤ (10 * n + (digitValue? c).getD 0 + 1) * 10 ^ rest.length := ih _
          _ ≤ ((n + 1) * 10) * 10 ^ rest.length := Nat.mul_le_mul_right _ (by omega)
          _ = (n + 1) * 10 ^ (c :: rest).length := by
            rw [List.length_cons, Nat.pow_succ, Nat.mul_assoc, Nat.mul_comm 10]
  have h := step ds 0
  rw [Nat.zero_add, Nat.one_mul] at h
  exact h

theorem isDigit_of_mem_digitsOf {n : Nat} {c : Char} (h : c ∈ digitsOf n) : isDigit c = true := by
  have hc := Nat.isDigit_of_mem_toDigits (by decide) (by decide) h
  rw [isDigit_iff]
  simpa [Char.isDigit, Char.le_def, UInt32.le_iff_toNat_le] using hc

theorem natOfDigits_digitsOf (n : Nat) : natOfDigits (digitsOf n) = n := by
  rw [natOfDigits_eq fun c => isDigit_of_mem_digitsOf, digitsOf, Nat.ofDigitChars_ten_toDigits]

theorem length_digitsOf_le {n k : Nat} (hk : 0 < k) (h : n < 10 ^ k) : (digitsOf n).length ≤ k :=
  (Nat.length_toDigits_le_iff (by decide) hk).2 h

end MigrationConfig.Text

namespace MigrationConfig

theorem Scalar.isTooLong_number {n : Int} :
    isTooLong (.number n) = false ↔ n.natAbs < 10 ^ Text.digitLimit := by
  rw [isTooLong, decide_eq_false_iff_not, Nat.not_le, Nat.pow_eq]

namespace Coercion

/-- Digits with or without a sign in front of them are an integer. -/
theorem signed?_append {sign ds : List Char} (hsign : sign ∈ [[], ['+'], ['-']]) (hne : ds ≠ [])
    (hds : ∀ c ∈ ds, Text.isDigit c = true) :
    signed? (sign ++ ds) = some (sign == ['-'], ds) := by
  have hall : (ds.isEmpty || !ds.all Text.isDigit) = false := by
    simpa [List.all_eq_true] using ⟨hne, hds⟩
  have hpass : ∀ negative : Bool, (if (ds.isEmpty || !ds.all Text.isDigit) = true then none
      else some (negative, ds)) = some (negative, ds) := by
    intro negative
    rw [hall]
    rfl
  simp only [List.mem_cons, List.not_mem_nil, or_false] at hsign
  rcases hsign with rfl | rfl | rfl
  · cases ds with
    | nil => exact absurd rfl hne
    | cons c rest =>
        have hc := hds c (List.mem_cons_self ..)
        unfold signed?
        split
        next negative' ds' hsplit =>
        split at hsplit
        · next hcons =>
            rw [(List.cons.inj hcons).1] at hc
            cases hc
        · next hcons =>
            rw [(List.cons.inj hcons).1] at hc
            cases hc
        · cases hsplit
          exact hpass false
  · exact hpass false
  · exact hpass true

/-- A number without a sign is read digit by digit. -/
theorem integer_digits (key : String) {ds : List Char} (hne : ds ≠ [])
    (hds : ∀ c ∈ ds, Text.isDigit c = true) (hlen : ds.length ≤ Text.digitLimit) :
    integer key (String.ofList ds) = .ok (Int.ofNat (Text.natOfDigits ds)) := by
  have htrim : Text.trim ds = ds :=
    Text.trim_of_no_blank fun c hc => Text.isBlank_of_isDigit (hds c hc)
  have hsigned : signed? ds = some (false, ds) :=
    signed?_append (List.mem_cons_self ..) hne hds
  rw [integer, String.toList_ofList, htrim, hsigned]
  simp only
  rw [if_neg (by omega)]
  rfl

/-- An integer that is read is short enough to be written. -/
theorem integer_short {key raw : String} {n : Int} (h : integer key raw = .ok n) :
    Scalar.isTooLong (.number n) = false := by
  rw [Scalar.isTooLong_number]
  unfold integer at h
  split at h
  · cases h
  · next negative ds _ =>
      split at h
      · cases h
      · next hlen =>
          have hlt : Text.natOfDigits ds < 10 ^ Text.digitLimit :=
            (Text.natOfDigits_lt ds).trans_le (Nat.pow_le_pow_right (by decide) (by omega))
          cases h
          cases negative with
          | true => simpa using hlt
          | false => simpa using hlt

/-- The text of a counter is read back as the counter. -/
theorem integer_integerText {key : String} {n : Int} (hn : 0 ≤ n)
    (hs : Scalar.isTooLong (.number n) = false) : integer key (Text.integerText n) = .ok n := by
  obtain ⟨k, rfl⟩ := Int.eq_ofNat_of_zero_le hn
  rw [Scalar.isTooLong_number] at hs
  have hlen : (Text.digitsOf k).length ≤ Text.digitLimit :=
    Text.length_digitsOf_le (by decide) hs
  have hne : Text.digitsOf k ≠ [] := Nat.toDigits_ne_nil
  have hread := integer_digits key hne (fun c => Text.isDigit_of_mem_digitsOf) hlen
  rw [Text.natOfDigits_digitsOf] at hread
  exact hread

end Coercion

end MigrationConfig
