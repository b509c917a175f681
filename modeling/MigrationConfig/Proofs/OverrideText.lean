/-
# The text of an error override

A rule that was read can be printed and read again.  The text that comes out is not the one
that was read: blanks around it are gone, the zeros in front of a code and the sign of a
zero, and the digits are those of ASCII, whatever the script they were read in.

What survives is the rule itself.  The rules that can be read are those whose state has the
form of one and whose code is short enough to be written (`WellFormed`).  Each of them is
printed in the form with ASCII digits, without a blank, and that form is read as the rule
it stands for.  So printing has an inverse on the rules that can be read, and two texts are
printed alike just when they are the same rule.
-/
import MigrationConfig.Proofs.OverrideForm

namespace MigrationConfig.ErrorOverride

/-! ## The rules that can be read -/

/-- The state has the form of a state, and the code is short enough to be written. -/
structure WellFormed (o : ErrorOverride) : Prop where
  state : StateForm o.stateText.toList o.state
  code : ∀ n, o.code = some n → n.natAbs < 10 ^ Text.digitLimit

/-- The code of a rule as it is written. -/
def codeText : Option Int → List Char
  | none => ['*']
  | some n => (Text.integerText n).toList

variable {o o' : ErrorOverride} {text : String}

theorem text_toList (o : ErrorOverride) :
    o.text.toList = o.stateText.toList ++
      ':' :: (codeText o.code ++ ':' :: ending o.behavior o.hidesDetails) := by
  cases hcode : o.code <;> simp [ErrorOverride.text, codeText, ending, hcode]

theorem StateForm.stateText {st : List Char} (h : StateForm st o.state) :
    StateForm o.stateText.toList o.state := by
  have htext : o.stateText.toList = st := by
    rw [ErrorOverride.stateText]
    generalize o.state = state at h
    cases h with
    | any => rfl
    | named _ _ => simp
  rw [htext]
  exact h

theorem codeOf_natAbs (negative : Bool) (ds : List Char) :
    (codeOf negative ds).natAbs = Text.natOfDigits ds := by
  cases negative <;> simp [codeOf]

/-- A rule that is read has a state of the right form and a code of few enough digits. -/
theorem wellFormed_of_parse (h : parse text = .ok o) : o.WellFormed := by
  unfold parse at h
  simp only at h
  split at h
  · cases h
  split at h
  · next st bh hides hstate _ =>
      have hstate := state?_eq_some.1 hstate
      split at h
      · cases h
        exact ⟨hstate.stateText, nofun⟩
      split at h
      · cases h
      · next negative ds _ =>
          split at h
          · cases h
          · next hlimit =>
              cases h
              refine ⟨hstate.stateText, fun n hn => ?_⟩
              rw [← Option.some.inj hn, codeOf_natAbs]
              exact (Text.natOfDigits_lt ds).trans_le
                (Nat.pow_le_pow_right (by decide) (Nat.le_of_not_lt hlimit))
  · cases h

/-! ## Printing -/

theorem isBlank_of_isAlphanum {c : Char} (h : c.isAlphanum = true) : Text.isBlank c = false := by
  rw [← isStateChar_eq] at h
  simp only [isStateChar, Bool.or_eq_true, Bool.and_eq_true, decide_eq_true_eq] at h
  simp only [Text.isBlank, Bool.or_eq_false_iff, Bool.and_eq_false_iff, decide_eq_false_iff_not,
    beq_eq_false_iff_ne]
  omega

/-- The digits of a number, as a code and behind a minus sign. -/
theorem codeForm_digitsOf (n : Nat) :
    CodeForm Text.isDigit (fun ds => Nat.ofDigitChars 10 ds 0) (Text.digitsOf n) (some n) ∧
    CodeForm Text.isDigit (fun ds => Nat.ofDigitChars 10 ds 0) ('-' :: Text.digitsOf n)
      (some (-n)) := by
  have hdigits : ∀ c ∈ Text.digitsOf n, Text.isDigit c = true :=
    fun c => Text.isDigit_of_mem_digitsOf
  have hvalue : Nat.ofDigitChars 10 (Text.digitsOf n) 0 = n := Nat.ofDigitChars_ten_toDigits
  constructor
  · have hform : CodeForm Text.isDigit (fun ds => Nat.ofDigitChars 10 ds 0) (Text.digitsOf n)
        (some (Nat.ofDigitChars 10 (Text.digitsOf n) 0)) := .positive Nat.toDigits_ne_nil hdigits
    rw [hvalue] at hform
    exact hform
  · have hform : CodeForm Text.isDigit (fun ds => Nat.ofDigitChars 10 ds 0)
        ('-' :: Text.digitsOf n) (some (-Nat.ofDigitChars 10 (Text.digitsOf n) 0)) :=
      .negative Nat.toDigits_ne_nil hdigits
    rw [hvalue] at hform
    exact hform

/-- A code is printed with ASCII digits, as many as it needs. -/
theorem codeForm_codeText (code : Option Int) :
    CodeForm Text.isDigit (fun ds => Nat.ofDigitChars 10 ds 0) (codeText code) code := by
  match code with
  | none => exact .any
  | some (.ofNat n) =>
      rw [codeText, Text.integerText, String.toList_ofList]
      exact (codeForm_digitsOf n).1
  | some (.negSucc n) =>
      rw [codeText, Text.integerText, String.toList_ofList]
      exact (codeForm_digitsOf (n + 1)).2

/-- A rule is printed in the form with ASCII digits. -/
theorem WellFormed.asciiForm (h : o.WellFormed) : AsciiForm o.text.toList o :=
  ⟨_, _, h.state, codeForm_codeText o.code, text_toList o⟩

theorem StateForm.no_blank {s : List Char} {st : Option String} (h : StateForm s st) :
    ∀ c ∈ s, Text.isBlank c = false := by
  cases h with
  | any => exact List.forall_mem_singleton.2 (by decide)
  | named _ hchars => exact fun c hc => isBlank_of_isAlphanum (hchars c hc)

theorem CodeForm.no_blank {value : List Char → Nat} {s : List Char} {code : Option Int}
    (h : CodeForm Text.isDigit value s code) : ∀ c ∈ s, Text.isBlank c = false := by
  cases h with
  | any => exact List.forall_mem_singleton.2 (by decide)
  | positive _ hds => exact fun c hc => Text.isBlank_of_isDigit (hds c hc)
  | negative _ hds =>
      exact List.forall_mem_cons.2 ⟨by decide, fun c hc => Text.isBlank_of_isDigit (hds c hc)⟩

theorem ending_no_blank (bh : Behavior) (hides : Bool) :
    ∀ c ∈ ending bh hides, Text.isBlank c = false :=
  List.forall_iff_forall_mem.1 (by cases bh <;> cases hides <;> decide)

theorem AsciiForm.no_blank {s : List Char} (h : AsciiForm s o) :
    ∀ c ∈ s, Text.isBlank c = false := by
  obtain ⟨state, code, hstate, hcode, rfl⟩ := h
  have hcolon : Text.isBlank ':' = false := by decide
  simp only [List.forall_mem_append, List.forall_mem_cons]
  exact ⟨hstate.no_blank, hcolon, hcode.no_blank, hcolon, ending_no_blank _ _⟩

/-- The digits that a code is printed with are few enough to be read. -/
theorem WellFormed.digits_le (h : o.WellFormed) {ds : List Char} (hsuffix : ds <:+ codeText o.code)
    (hds : ∀ c ∈ ds, Text.isDecimal c = true) : ds.length ≤ Text.digitLimit := by
  have hshort : ∀ n, n < 10 ^ Text.digitLimit → (Text.digitsOf n).length ≤ Text.digitLimit :=
    fun n => Text.length_digitsOf_le (by decide)
  cases hcode : o.code with
  | none =>
      rw [hcode] at hsuffix
      exact hsuffix.length_le.trans (by decide)
  | some n =>
      have hn := h.code n hcode
      rw [hcode, codeText] at hsuffix
      cases n with
      | ofNat n =>
          rw [Text.integerText, String.toList_ofList] at hsuffix
          exact hsuffix.length_le.trans (hshort n hn)
      | negSucc n =>
          rw [Text.integerText, String.toList_ofList, List.suffix_cons_iff] at hsuffix
          rcases hsuffix with rfl | hsuffix
          · -- the sign is no digit
            exact absurd (hds '-' (List.mem_cons_self ..)) (by decide)
          · exact hsuffix.length_le.trans (hshort (n + 1) hn)

/-! ## Reading what is printed -/

theorem WellFormed.parse_text (h : o.WellFormed) : parse o.text = .ok o := by
  have hform := h.asciiForm
  have htrim := (Text.trim_of_no_blank hform.no_blank).trans (text_toList o)
  refine (parse_pieces h.state (codeForm_codeText o.code).anyScript.1 htrim).resolve_right ?_
  rintro ⟨ds, hsuffix, hds, hlong, -⟩
  exact absurd (h.digits_le hsuffix hds) (Nat.not_le_of_lt hlong)

theorem WellFormed.text_inj (h : o.WellFormed) (h' : o'.WellFormed) :
    o.text = o'.text ↔ o = o' := by
  refine ⟨fun htext => ?_, fun heq => by rw [heq]⟩
  have hparse := h.parse_text
  rw [htext, h'.parse_text] at hparse
  exact (Except.ok.inj hparse).symm

/-- A rule that was read is printed in the form with ASCII digits, and read from there as the
same rule: it is printed alike again and applies to the same errors.  Texts that are read
as other rules are printed otherwise. -/
theorem parse_printed (h : parse text = .ok o) :
    AsciiForm o.text.toList o ∧
    (∃ p, parse o.text = .ok p ∧ p = o ∧ p.text = o.text ∧
      ∀ state code, p.applies state code = o.applies state code) ∧
    ∀ text' o', parse text' = .ok o' → (o.text = o'.text ↔ o = o') := by
  have ho := wellFormed_of_parse h
  refine ⟨ho.asciiForm, ⟨o, ho.parse_text, rfl, rfl, fun _ _ => rfl⟩, fun text' o' h' => ?_⟩
  exact ho.text_inj (wellFormed_of_parse h')

/-- The sign of a zero and the zeros in front of it are not printed. -/
theorem parse_printed_zero :
    parse " *:-00:I-\t" = .ok ⟨none, some 0, .info, true⟩ ∧
      (⟨none, some 0, .info, true⟩ : ErrorOverride).text = "*:0:I-" ∧
      parse "*:0:I-" = .ok ⟨none, some 0, .info, true⟩ := by
  have hread : parse " *:-00:I-\t" = .ok ⟨none, some 0, .info, true⟩ := by rfl
  have htext : (⟨none, some 0, .info, true⟩ : ErrorOverride).text = "*:0:I-" := by rfl
  obtain ⟨-, ⟨p, hp, rfl, -⟩, -⟩ := parse_printed hread
  rw [htext] at hp
  exact ⟨hread, htext, hp⟩

end MigrationConfig.ErrorOverride
