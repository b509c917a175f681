/-
# The form of an error override

Which texts are rules for errors, said as a form (`Written`): a state, a code and a letter
with colons between them, and perhaps a hyphen at the end.  The reader cuts a trimmed text at
its colons and looks at the three pieces; none of them can have a colon, so it finds the
pieces of the form.

What a digit of a code is, is a matter of its own.  The form takes it as a parameter, because
the digits of a version and of an integer setting are those of ASCII, and the digits that
are read here are those of every script.  So the reader keeps to the form with ASCII
digits exactly for the texts that are no rule with other digits (`parse_agrees_iff`).

Runs of ASCII digits are taken to be short enough to be read, as for versions.
-/
import MigrationConfig.Proofs.Overlong
import MigrationConfig.Proofs.VersionForm

namespace MigrationConfig.ErrorOverride

/-! ## The form -/

/-- A state is a star for any state, or five letters or digits. -/
inductive StateForm : List Char → Option String → Prop
  | any : StateForm ['*'] none
  | named {s : List Char} (hlength : s.length = 5) (hchars : ∀ c ∈ s, c.isAlphanum = true) :
      StateForm s (some (String.ofList s))

/-- A code is a star for any code, or digits with or without a minus sign in front. -/
inductive CodeForm (isDigit : Char → Bool) (value : List Char → Nat) :
    List Char → Option Int → Prop
  | any : CodeForm isDigit value ['*'] none
  | positive {ds : List Char} (hne : ds ≠ []) (hds : ∀ c ∈ ds, isDigit c = true) :
      CodeForm isDigit value ds (some (value ds))
  | negative {ds : List Char} (hne : ds ≠ []) (hds : ∀ c ∈ ds, isDigit c = true) :
      CodeForm isDigit value ('-' :: ds) (some (-value ds))

/-- The letter of a behavior, with a hyphen behind it if details are hidden. -/
def ending (b : Behavior) (hides : Bool) : List Char :=
  b.letter :: if hides then ['-'] else []

/-- A rule is written as its state, its code and its ending, with colons between them. -/
def Written (isDigit : Char → Bool) (value : List Char → Nat) (s : List Char)
    (o : ErrorOverride) : Prop :=
  ∃ state code, StateForm state o.state ∧ CodeForm isDigit value code o.code ∧
    s = state ++ ':' :: (code ++ ':' :: ending o.behavior o.hidesDetails)

/-- The form with ASCII digits in the code. -/
def AsciiForm : List Char → ErrorOverride → Prop :=
  Written Text.isDigit fun ds => Nat.ofDigitChars 10 ds 0

/-- The form with digits of any script in the code. -/
def AnyScriptForm : List Char → ErrorOverride → Prop :=
  Written Text.isDecimal Text.natOfDigits

variable {s a b c ds : List Char} {o : ErrorOverride} {text : String}

/-! ## The pieces -/

theorem sections?_eq_some :
    sections? s = some (a, b, c) ↔
      (':' ∉ a ∧ ':' ∉ b ∧ ':' ∉ c) ∧ s = a ++ ':' :: (b ++ ':' :: c) := by
  unfold sections?
  rw [Text.splitOn_singleton]
  constructor
  · intro h
    split at h
    · next a' b' c' hsplit =>
        cases h
        have hfree : ∀ p ∈ [a, b, c], ':' ∉ p := by
          intro p hp
          rw [← hsplit] at hp
          exact Text.not_mem_of_mem_splitOn hp
        have hjoin : List.intercalate [':'] (s.splitOn ':') = s := List.intercalate_splitOn ':'
        rw [hsplit] at hjoin
        refine ⟨by simpa using hfree, ?_⟩
        rw [← hjoin]
        simp [List.intercalate_cons_cons]
    · cases h
  · rintro ⟨⟨ha, hb, hc⟩, rfl⟩
    rw [List.splitOn_append_cons_self_of_not_mem ha, List.splitOn_append_cons_self_of_not_mem hb,
      List.splitOn_eq_singleton hc]

theorem isStateChar_eq (c : Char) : isStateChar c = c.isAlphanum := by
  have halphanum : c.isAlphanum =
      (decide (c.val ≥ 'A'.val ∧ c.val ≤ 'Z'.val) || (c.val ≥ 'a'.val && c.val ≤ 'z'.val) ||
        (c.val ≥ '0'.val && c.val ≤ '9'.val)) := rfl
  rw [Bool.eq_iff_iff, halphanum]
  simp only [isStateChar, Char.toNat, ge_iff_le, UInt32.le_iff_toNat_le, Char.reduceVal,
    UInt32.reduceToNat, Bool.or_eq_true, Bool.and_eq_true, decide_eq_true_eq]
  omega

theorem state?_eq_some {st : Option String} : state? s = some st ↔ StateForm s st := by
  have hnamed : (s.length == 5 && s.all isStateChar) = true ↔
      s.length = 5 ∧ ∀ c ∈ s, c.isAlphanum = true := by
    simp only [Bool.and_eq_true, beq_iff_eq, List.all_eq_true, isStateChar_eq]
  unfold state?
  constructor
  · intro h
    split at h
    · next hstar =>
        cases h
        rw [beq_iff_eq.1 hstar]
        exact .any
    · split at h
      · next hchars =>
          cases h
          obtain ⟨hlength, hchars⟩ := hnamed.1 hchars
          exact .named hlength hchars
      · cases h
  · rintro (_ | ⟨hlength, hchars⟩)
    · rfl
    · have hstar : (s == ['*']) = false := by
        rw [beq_eq_false_iff_ne]
        rintro rfl
        cases hlength
      rw [hstar, if_neg Bool.false_ne_true, if_pos (hnamed.2 ⟨hlength, hchars⟩)]

theorem ofLetter?_eq_some {ch : Char} {bh : Behavior} :
    Behavior.ofLetter? ch = some bh ↔ ch = bh.letter := by
  constructor
  · intro h
    unfold Behavior.ofLetter? at h
    split at h <;> cases h <;> rfl
  · rintro rfl
    cases bh <;> rfl

theorem behavior?_eq_some {bh : Behavior} {hides : Bool} :
    behavior? s = some (bh, hides) ↔ s = ending bh hides := by
  constructor
  · intro h
    unfold behavior? at h
    split at h
    · obtain ⟨bh', hletter, heq⟩ := Option.map_eq_some_iff.1 h
      cases heq
      rw [ofLetter?_eq_some.1 hletter]
      rfl
    · obtain ⟨bh', hletter, heq⟩ := Option.map_eq_some_iff.1 h
      cases heq
      rw [ofLetter?_eq_some.1 hletter]
      rfl
    · cases h
  · rintro rfl
    cases hides <;> cases bh <;> rfl

/-! ## Reading -/

theorem StateForm.no_colon {st : Option String} (h : StateForm s st) : ':' ∉ s := by
  cases h with
  | any => decide
  | named _ hchars =>
      intro hcolon
      exact absurd (hchars ':' hcolon) (by decide)

theorem CodeForm.no_colon {value : List Char → Nat} {code : Option Int}
    (h : CodeForm Text.isDecimal value s code) : ':' ∉ s := by
  have hdigits : ∀ ds : List Char, (∀ c ∈ ds, Text.isDecimal c = true) → ':' ∉ ds := by
    intro ds hds hcolon
    exact absurd (hds ':' hcolon) (by decide)
  cases h with
  | any => decide
  | positive _ hds => exact hdigits s hds
  | negative _ hds => simpa using hdigits _ hds

theorem ending_no_colon (bh : Behavior) (hides : Bool) : ':' ∉ ending bh hides := by
  cases bh <;> cases hides <;> decide

theorem CodeForm.of_codeDigits? {negative : Bool} (h : codeDigits? s = some (negative, ds)) :
    CodeForm Text.isDecimal Text.natOfDigits s (some (codeOf negative ds)) := by
  obtain ⟨⟨hne, hds⟩, rfl⟩ := codeDigits?_eq_some.1 h
  cases negative with
  | true => exact .negative hne hds
  | false => exact .positive hne hds

/-- A rule is read as what its pieces say, unless its code has too many digits. -/
theorem parse_pieces {state code : List Char} {st : Option String} {cd : Option Int}
    {bh : Behavior} {hides : Bool} (hstate : StateForm state st)
    (hcode : CodeForm Text.isDecimal Text.natOfDigits code cd)
    (htrim : Text.trim text.toList = state ++ ':' :: (code ++ ':' :: ending bh hides)) :
    parse text = .ok ⟨st, cd, bh, hides⟩ ∨
      ∃ ds, ds <:+ code ∧ (∀ c ∈ ds, Text.isDecimal c = true) ∧ Text.digitLimit < ds.length ∧
        parse text = .error (.value (.tooManyDigits ds.length)) := by
  have hsections := sections?_eq_some.2
    ⟨⟨hstate.no_colon, hcode.no_colon, ending_no_colon bh hides⟩, htrim⟩
  have hending : behavior? (ending bh hides) = some (bh, hides) := behavior?_eq_some.2 rfl
  have hread : ∀ (negative : Bool) (ds : List Char), (∀ c ∈ ds, Text.isDecimal c = true) →
      ds ≠ [] → code = (if negative then ['-'] else []) ++ ds →
      parse text = .ok ⟨st, some (codeOf negative ds), bh, hides⟩ ∨
        Text.digitLimit < ds.length ∧
          parse text = .error (.value (.tooManyDigits ds.length)) := by
    intro negative ds hds hne hcode
    have hdigits := codeDigits?_eq_some.2 ⟨⟨hne, hds⟩, hcode⟩
    have hstar : (code == ['*']) = false := by
      rw [beq_eq_false_iff_ne]
      intro hstar
      rw [hstar] at hdigits
      cases hdigits
    simp only [parse, hsections, state?_eq_some.2 hstate, hending, hstar, hdigits,
      Bool.false_eq_true, if_false]
    split
    · next hlong => exact .inr ⟨hlong, rfl⟩
    · exact .inl rfl
  cases hcode with
  | any =>
      left
      simp only [parse, hsections, state?_eq_some.2 hstate, hending, beq_self_eq_true, if_true]
  | positive hne hds =>
      exact (hread false code hds hne rfl).imp_right fun ⟨hlong, herror⟩ =>
        ⟨code, List.suffix_rfl, hds, hlong, herror⟩
  | @negative ds hne hds =>
      exact (hread true ds hds hne rfl).imp_right fun ⟨hlong, herror⟩ =>
        ⟨ds, List.suffix_cons '-' ds, hds, hlong, herror⟩

/-- A rule with digits of any script is not refused as malformed. -/
theorem parse_written (h : AnyScriptForm (Text.trim text.toList) o) :
    parse text = .ok o ∨ ∃ n, parse text = .error (.value (.tooManyDigits n)) := by
  obtain ⟨state, code, hstate, hcode, htrim⟩ := h
  exact (parse_pieces hstate hcode htrim).imp_right fun ⟨ds, _, _, _, herror⟩ =>
    ⟨ds.length, herror⟩

/-- A text that is no rule with digits of any script is refused as malformed. -/
theorem parse_unwritten (h : ∀ o, ¬ AnyScriptForm (Text.trim text.toList) o) :
    parse text = .error (.invalid (.malformedOverride text)) := by
  unfold parse
  split
  · rfl
  · next a b c hsections =>
      obtain ⟨-, htrim⟩ := sections?_eq_some.1 hsections
      split
      · next st bh hides hstate hending =>
          rw [behavior?_eq_some.1 hending] at htrim
          have hrefused : ∀ code, ¬ CodeForm Text.isDecimal Text.natOfDigits b code :=
            fun code hcode =>
              h ⟨st, code, bh, hides⟩ ⟨a, b, state?_eq_some.1 hstate, hcode, htrim⟩
          split
          · next hstar =>
              rw [beq_iff_eq.1 hstar] at hrefused
              exact absurd .any (hrefused none)
          · split
            · rfl
            · next negative ds hdigits =>
                exact absurd (.of_codeDigits? hdigits) (hrefused _)
      · rfl

theorem anyScript_of_parse (h : parse text = .ok o) : AnyScriptForm (Text.trim text.toList) o := by
  obtain ⟨o', hform⟩ : ∃ o', AnyScriptForm (Text.trim text.toList) o' := by
    by_contra hnone
    cases (parse_unwritten (not_exists.1 hnone)).symm.trans h
  rcases parse_written hform with hparse | ⟨n, hparse⟩
  · cases hparse.symm.trans h
    exact hform
  · cases hparse.symm.trans h

/-! ## Digits -/

/-- A code with ASCII digits is one with digits of any script, and has no others. -/
theorem CodeForm.anyScript {code : Option Int}
    (h : CodeForm Text.isDigit (fun ds => Nat.ofDigitChars 10 ds 0) s code) :
    CodeForm Text.isDecimal Text.natOfDigits s code ∧
      ∀ c ∈ s, Text.isDecimal c = true → Text.isDigit c = true := by
  have hdecimal : ∀ ds : List Char, (∀ c ∈ ds, Text.isDigit c = true) →
      ∀ c ∈ ds, Text.isDecimal c = true := by
    intro ds hds c hc
    rw [Text.isDecimal, Text.digitValue?_of_isDigit (hds c hc)]
    rfl
  cases h with
  | any => exact ⟨.any, List.forall_mem_singleton.2 (by decide)⟩
  | positive hne hds =>
      rw [← Text.natOfDigits_eq hds]
      exact ⟨.positive hne (hdecimal s hds), fun c hc _ => hds c hc⟩
  | @negative ds hne hds =>
      rw [← Text.natOfDigits_eq hds]
      refine ⟨.negative hne (hdecimal ds hds), List.forall_mem_cons.2 ⟨?_, fun c hc _ => hds c hc⟩⟩
      exact fun hminus => absurd hminus (by decide)

theorem AsciiForm.anyScript (h : AsciiForm s o) : AnyScriptForm s o := by
  obtain ⟨state, code, hstate, hcode, hs⟩ := h
  exact ⟨state, code, hstate, hcode.anyScript.1, hs⟩

/-- A rule with ASCII digits is read as what it says, if its code is short enough. -/
theorem parse_ascii (hruns : Version.HasShortRuns text)
    (h : AsciiForm (Text.trim text.toList) o) : parse text = .ok o := by
  obtain ⟨state, code, hstate, hcode, htrim⟩ := h
  obtain ⟨hany, hascii⟩ := hcode.anyScript
  refine (parse_pieces hstate hany htrim).resolve_right ?_
  rintro ⟨ds, hsuffix, hdecimal, hlong, -⟩
  have htext : ds <:+: text.toList := by
    have hcode : code <:+: Text.trim text.toList := by
      rw [htrim]
      exact ⟨state ++ [':'], ':' :: ending o.behavior o.hidesDetails, by simp⟩
    exact (hsuffix.isInfix.trans hcode).trans (Text.trim_isInfix _)
  have hshort := hruns ds htext fun c hc => hascii c (hsuffix.subset hc) (hdecimal c hc)
  omega

/-- What has the form with ASCII digits is read as what it says, and what has not even the
form with digits of any script is refused as malformed.  Between these two the reader keeps
to ASCII digits exactly when the text is no rule with other digits. -/
theorem parse_agrees_iff (text : String) (hruns : Version.HasShortRuns text) :
    (∀ o, AsciiForm (Text.trim text.toList) o → parse text = .ok o) ∧
    ((∀ o, ¬ AnyScriptForm (Text.trim text.toList) o) →
      parse text = .error (.invalid (.malformedOverride text))) ∧
    ((∀ o, parse text = .ok o ↔ AsciiForm (Text.trim text.toList) o) ∧
        ((∀ o, ¬ AsciiForm (Text.trim text.toList) o) →
          parse text = .error (.invalid (.malformedOverride text))) ↔
      ∀ o, AnyScriptForm (Text.trim text.toList) o → AsciiForm (Text.trim text.toList) o) := by
  refine ⟨fun o => parse_ascii hruns, parse_unwritten, ?_, ?_⟩
  · rintro ⟨hread, hrefused⟩ o hany
    -- a rule may still have too many digits, but it is never refused as malformed
    have hmalformed : parse text ≠ .error (.invalid (.malformedOverride text)) := by
      intro herror
      rcases parse_written hany with h | ⟨n, h⟩
      · cases h.symm.trans herror
      · cases h.symm.trans herror
    obtain ⟨o', hascii⟩ : ∃ o', AsciiForm (Text.trim text.toList) o' := by
      by_contra hnone
      exact hmalformed (hrefused (not_exists.1 hnone))
    have hparse := parse_ascii hruns hascii
    rcases parse_written hany with h | ⟨n, h⟩
    · exact (hread o).1 h
    · cases h.symm.trans hparse
  · intro hall
    refine ⟨fun o => ⟨fun hparse => ?_, parse_ascii hruns⟩, fun hnone => ?_⟩
    · exact hall o (anyScript_of_parse hparse)
    · exact parse_unwritten fun o hany => hnone o (hall o hany)

/-- A negative code with zeros in front, with blanks around the rule. -/
theorem parse_agrees_zeros :
    Version.HasShortRuns " 42S02:-007:W-\n" ∧
      AsciiForm "42S02:-007:W-".toList ⟨some "42S02", some (-7), .warning, true⟩ ∧
      parse " 42S02:-007:W-\n" = .ok ⟨some "42S02", some (-7), .warning, true⟩ ∧
      ∀ o, parse " 42S02:-007:W-\n" = .ok o ↔ AsciiForm "42S02:-007:W-".toList o := by
  have hruns : Version.HasShortRuns " 42S02:-007:W-\n" := by
    intro d hd _
    exact hd.length_le.trans (by decide)
  have hform : AsciiForm "42S02:-007:W-".toList ⟨some "42S02", some (-7), .warning, true⟩ := by
    refine ⟨"42S02".toList, "-007".toList, ?_, ?_, by decide⟩
    · exact .named (s := "42S02".toList) (by decide) (List.all_eq_true.1 (by decide))
    · exact @CodeForm.negative _ _ "007".toList (by decide) (List.all_eq_true.1 (by decide))
  have htrim : Text.trim " 42S02:-007:W-\n".toList = "42S02:-007:W-".toList := by decide
  obtain ⟨hread, -, hagrees⟩ := parse_agrees_iff " 42S02:-007:W-\n" hruns
  rw [htrim] at hread hagrees
  refine ⟨hruns, hform, hread _ hform, (hagrees.2 fun o hany => ?_).1⟩
  rw [← htrim] at hany
  rcases parse_written hany with hparse | ⟨n, hparse⟩
  · cases (hread _ hform).symm.trans hparse
    exact hform
  · cases (hread _ hform).symm.trans hparse

/-- An Arabic three is read as a code, in a text that is no rule with ASCII digits. -/
theorem parse_other_digit :
    let text := "*:٣:E"
    Version.HasShortRuns text ∧ (∀ o, ¬ AsciiForm (Text.trim text.toList) o) ∧
      parse text = .ok ⟨none, some 3, .error, false⟩ := by
  intro text
  have hsections : sections? (Text.trim text.toList) = some (['*'], ['٣'], ['E']) := by decide
  refine ⟨fun d hd _ => hd.length_le.trans (by decide), ?_, ?_⟩
  · rintro o ⟨state, code, hstate, hcode, htrim⟩
    have hpieces := sections?_eq_some.2
      ⟨⟨hstate.no_colon, hcode.anyScript.1.no_colon, ending_no_colon _ _⟩, htrim⟩
    rw [hsections, Option.some.injEq, Prod.mk.injEq, Prod.mk.injEq] at hpieces
    obtain ⟨-, rfl, -⟩ := hpieces
    have hdigit := hcode.anyScript.2 '٣' (List.mem_singleton_self _) (by decide)
    exact absurd hdigit (by decide)
  · have hcode : CodeForm Text.isDecimal Text.natOfDigits ['٣'] (some 3) :=
      .positive (by decide) (List.forall_mem_singleton.2 (by decide))
    refine (parse_pieces .any hcode (by decide)).resolve_right ?_
    rintro ⟨ds, hsuffix, -, hlong, -⟩
    have hone : ds.length ≤ 1 := hsuffix.length_le
    exact absurd (hlong.trans_le hone) (by decide)

end MigrationConfig.ErrorOverride
