/-
# The front of a JSON text

What is read at the front of a JSON text does not depend on what follows.  A string ends at
its quote and a collection at its bracket.  A number ends where a character stands that can
be no part of one, so of what follows a value it only counts that it begins with a mark or
a blank.

Each reader is said to have used a part of the text, and to read the same from that part
whatever stands behind it.  The one place where this takes an argument is a string: the
first half of a surrogate pair looks at the six characters behind it, which may reach beyond
the closing quote.  They begin another escape then, and a string that is read to its end
holds all of that.
-/
import Mathlib.Data.List.TakeWhile
import MigrationConfig.Json.Reader

namespace MigrationConfig.Json

/-! ## Blanks -/

/-- A text that does not begin with a blank. -/
def NoSpace (s : List Char) : Prop := ∀ c ∈ s.head?, isSpace c = false

theorem noSpace_skipSpace (s : List Char) : NoSpace (skipSpace s) := by
  intro c hc
  have h := List.head?_dropWhile_not isSpace s
  rw [skipSpace] at hc
  rw [Option.mem_def.1 hc] at h
  exact h

theorem NoSpace.of_append {s t : List Char} (h : NoSpace (s ++ t)) : NoSpace s := by
  cases s with
  | nil => exact fun _ hc => nomatch hc
  | cons c s => exact h

theorem NoSpace.append {s t : List Char} (hne : s ≠ []) (h : NoSpace s) : NoSpace (s ++ t) := by
  cases s with
  | nil => exact absurd rfl hne
  | cons c s => exact h

theorem noSpace_cons {c : Char} {s : List Char} (hc : isSpace c = false) : NoSpace (c :: s) := by
  rintro d ⟨⟩
  exact hc

theorem skipSpace_of_noSpace {s : List Char} (h : NoSpace s) : skipSpace s = s := by
  cases s with
  | nil => rfl
  | cons c s =>
      have hc : isSpace c = false := h c rfl
      rw [skipSpace, List.dropWhile_cons, hc, if_neg Bool.false_ne_true]

/-- The blanks at the front, whatever stands behind them. -/
theorem skipSpace_front (s : List Char) :
    ∃ blanks, s = blanks ++ skipSpace s ∧ (∀ c ∈ blanks, isSpace c = true) ∧
      ∀ t, NoSpace t → skipSpace (blanks ++ t) = t := by
  have hblanks : ∀ c ∈ s.takeWhile isSpace, isSpace c = true := fun c hc =>
    List.mem_takeWhile_imp hc
  refine ⟨s.takeWhile isSpace, (List.takeWhile_append_dropWhile).symm, hblanks, fun t ht => ?_⟩
  rw [skipSpace, List.dropWhile_append_of_pos hblanks]
  exact skipSpace_of_noSpace ht

theorem skipSpace_append {s t : List Char} (ht : NoSpace t) :
    skipSpace (s ++ t) = skipSpace s ++ t := by
  obtain ⟨blanks, hs, -, hskip⟩ := skipSpace_front s
  have hrest : NoSpace (skipSpace s ++ t) := by
    cases h : skipSpace s with
    | nil => exact ht
    | cons c r => exact NoSpace.append (List.cons_ne_nil c r) (h ▸ noSpace_skipSpace s)
  calc skipSpace (s ++ t) = skipSpace (blanks ++ (skipSpace s ++ t)) := by
        rw [← List.append_assoc, ← hs]
    _ = skipSpace s ++ t := hskip _ hrest

/-! ## Strings -/

theorem unicodeEscape?_front {used : List Char} (h : 6 ≤ used.length) (r r' : List Char) :
    unicodeEscape? (used ++ r) = unicodeEscape? (used ++ r') := by
  match used, h with
  | a :: b :: c :: d :: e :: f :: used, _ =>
      by_cases ha : a = 'u'
      · subst ha
        rfl
      · simp [unicodeEscape?, ha]

theorem startsEscape_front {used : List Char} (h : 7 ≤ used.length) (r r' : List Char) :
    startsEscape (used ++ r) = startsEscape (used ++ r') := by
  match used, h with
  | a :: b :: c :: d :: e :: f :: g :: used, _ =>
      by_cases ha : a = '\\'
      · by_cases hb : b = 'u'
        · subst ha hb
          rfl
        · simp [startsEscape, hb]
      · simp [startsEscape, ha]

variable {opening opening' : List Char}

theorem consChar_eq_ok {c : Char} {x : Reading (List Char)} {cs r : List Char}
    (h : consChar c x = .ok (cs, r)) : ∃ cs', x = .ok (cs', r) ∧ cs = c :: cs' := by
  cases x with
  | ok y =>
      cases h
      exact ⟨_, rfl, rfl⟩
  | error e => cases h

theorem escape_letter {e : Char} (he : e ≠ 'u') (r : List Char) :
    escape opening (e :: r) =
      match escapeOf? e with
      | some c => .ok (c, 1)
      | none => .error (.fault .badEscape ('\\' :: e :: r)) := by
  unfold escape
  split
  · next h => cases h
  · next h => exact absurd (List.head_eq_of_cons_eq h) he
  · next h =>
      cases h
      rfl

theorem escape_number (r : List Char) :
    escape opening ('u' :: r) =
      match unicodeEscape? ('u' :: r) with
      | none => .error (.fault .badUnicodeEscape ('u' :: r))
      | some n =>
          if isHighSurrogate n && startsEscape (r.drop 4) then
            match unicodeEscape? (r.drop 5) with
            | none => .error (.fault .badUnicodeEscape (r.drop 5))
            | some n' =>
                if isLowSurrogate n' then .ok (joinSurrogates n n', 11)
                else .ok (charOfNumber n, 5)
          else .ok (charOfNumber n, 5) := rfl

/-- An escape by number takes five characters, or eleven if it is a pair. -/
theorem escape_number_used {r : List Char} {c : Char} {n : Nat}
    (h : escape opening ('u' :: r) = .ok (c, n)) : n = 5 ∨ n = 11 := by
  rw [escape_number] at h
  split at h
  · cases h
  · split at h
    · split at h
      · cases h
      · split at h <;> simp only [Except.ok.injEq, Prod.mk.injEq] at h
        · exact .inr h.2.symm
        · exact .inl h.2.symm
    · simp only [Except.ok.injEq, Prod.mk.injEq] at h
      exact .inl h.2.symm

/-- An escape by letter is read the same whatever follows it. -/
theorem escape_letter_front {e c : Char} {n : Nat} (he : e ≠ 'u') {r r' : List Char}
    (h : escape opening (e :: r) = .ok (c, n)) : escape opening' (e :: r') = .ok (c, n) := by
  rw [escape_letter he] at h ⊢
  cases hl : escapeOf? e with
  | none =>
      rw [hl] at h
      cases h
  | some d =>
      rw [hl] at h
      exact h

/-- An escape by number with room for a second one is read the same whatever follows. -/
theorem escape_pair_front {us r r' : List Char} {c : Char} {n : Nat} (hlong : 11 ≤ us.length)
    (h : escape opening ('u' :: (us ++ r)) = .ok (c, n)) :
    escape opening' ('u' :: (us ++ r')) = .ok (c, n) := by
  have hfirst : unicodeEscape? ('u' :: (us ++ r')) = unicodeEscape? ('u' :: (us ++ r)) :=
    unicodeEscape?_front (by rw [List.length_cons]; omega : 6 ≤ ('u' :: us).length) r' r
  have hsecond : unicodeEscape? ((us ++ r').drop 5) = unicodeEscape? ((us ++ r).drop 5) := by
    rw [List.drop_append_of_le_length (by omega), List.drop_append_of_le_length (by omega)]
    exact unicodeEscape?_front (by rw [List.length_drop]; omega) r' r
  have hstarts : startsEscape ((us ++ r').drop 4) = startsEscape ((us ++ r).drop 4) := by
    rw [List.drop_append_of_le_length (by omega), List.drop_append_of_le_length (by omega)]
    exact startsEscape_front (by rw [List.length_drop]; omega) r' r
  rw [escape_number] at h ⊢
  rw [hfirst, hstarts, hsecond]
  cases hu : unicodeEscape? ('u' :: (us ++ r)) with
  | none =>
      rw [hu] at h
      cases h
  | some m =>
      simp only [hu] at h ⊢
      split at h
      · next hhigh =>
          rw [if_pos hhigh]
          cases hv : unicodeEscape? ((us ++ r).drop 5) with
          | none =>
              rw [hv] at h
              cases h
          | some m' =>
              rw [hv] at h
              exact h
      · next hhigh =>
          rw [if_neg hhigh]
          exact h

/-- An escape by number is read the same if no second one begins behind it. -/
theorem escape_single_front {us r r' : List Char} {c : Char} {n : Nat} (hlong : 5 ≤ us.length)
    (hnone : startsEscape ((us ++ r).drop 4) = false)
    (hnone' : startsEscape ((us ++ r').drop 4) = false)
    (h : escape opening ('u' :: (us ++ r)) = .ok (c, n)) :
    escape opening' ('u' :: (us ++ r')) = .ok (c, n) := by
  have hfirst : unicodeEscape? ('u' :: (us ++ r')) = unicodeEscape? ('u' :: (us ++ r)) :=
    unicodeEscape?_front (by rw [List.length_cons]; omega : 6 ≤ ('u' :: us).length) r' r
  rw [escape_number] at h ⊢
  rw [hfirst]
  cases hu : unicodeEscape? ('u' :: (us ++ r)) with
  | none =>
      rw [hu] at h
      cases h
  | some m =>
      simp only [hu, hnone, hnone', Bool.and_false] at h ⊢
      exact h

/-- An escape is read the same whatever follows the text that holds it, if a second escape
that begins behind it would have its place in that text too. -/
theorem escape_front {used r r' : List Char} {c : Char} {n : Nat} (hn : n < used.length)
    (hr : n = 5 → startsEscape ((used ++ r).drop 5) = true → 12 ≤ used.length)
    (hr' : n = 5 → startsEscape ((used ++ r').drop 5) = true → 12 ≤ used.length)
    (h : escape opening (used ++ r) = .ok (c, n)) :
    escape opening' (used ++ r') = .ok (c, n) := by
  cases used with
  | nil => exact absurd hn (Nat.not_lt_zero n)
  | cons e us =>
      rw [List.cons_append] at h hr hr' ⊢
      by_cases he : e = 'u'
      · subst he
        have hused := escape_number_used h
        rw [List.length_cons] at hn hr hr'
        rw [List.drop_succ_cons] at hr hr'
        by_cases hlong : 11 ≤ us.length
        · exact escape_pair_front hlong h
        · have hn5 : n = 5 := by omega
          refine escape_single_front (by omega) ?_ ?_ h
          · exact Bool.eq_false_iff.2 fun hs => hlong (Nat.le_of_succ_le_succ (hr hn5 hs))
          · exact Bool.eq_false_iff.2 fun hs => hlong (Nat.le_of_succ_le_succ (hr' hn5 hs))
      · exact escape_letter_front he h

/-- What a string reader does at a backslash. -/
theorem stringBody_backslash (s : List Char) :
    stringBody opening 0 ('\\' :: s) =
      match escape opening s with
      | .ok (c, used) => consChar c (stringBody opening used s)
      | .error stop => .error stop := rfl

theorem stringBody_other {c : Char} (hquote : c ≠ '"') (hbackslash : c ≠ '\\') (s : List Char) :
    stringBody opening 0 (c :: s) =
      if c.toNat < 0x20 then .error (.fault .controlCharacter (c :: s))
      else consChar c (stringBody opening 0 s) := by
  rw [stringBody, if_neg (by simpa using hquote), if_neg (by simpa using hbackslash)]

/-- A string ends behind what it passes over. -/
theorem stringBody_length {s : List Char} : ∀ {k : Nat} {cs r : List Char},
    stringBody opening k s = .ok (cs, r) → r.length + k < s.length := by
  induction s with
  | nil =>
      intro k cs r h
      cases h
  | cons c s ih =>
      intro k cs r h
      rw [List.length_cons]
      cases k with
      | succ k =>
          have := ih (k := k) h
          omega
      | zero =>
          by_cases hquote : c = '"'
          · subst hquote
            cases h
            omega
          by_cases hbackslash : c = '\\'
          · subst hbackslash
            rw [stringBody_backslash] at h
            split at h
            · obtain ⟨_, h, -⟩ := consChar_eq_ok h
              have := ih h
              omega
            · cases h
          · rw [stringBody_other hquote hbackslash] at h
            split at h
            · cases h
            · obtain ⟨_, h, -⟩ := consChar_eq_ok h
              have := ih h
              omega

theorem stringBody_drop {s : List Char} : ∀ {k : Nat} {cs r : List Char},
    stringBody opening k s = .ok (cs, r) → stringBody opening 0 (s.drop k) = .ok (cs, r) := by
  induction s with
  | nil =>
      intro k cs r h
      cases h
  | cons c s ih =>
      intro k cs r h
      cases k with
      | zero => exact h
      | succ k => exact ih (k := k) h

/-- A second escape that begins behind the first one is read before the string ends. -/
theorem length_of_startsEscape {s cs r : List Char} (h : stringBody opening 5 s = .ok (cs, r))
    (hs : startsEscape (s.drop 5) = true) : r.length + 12 ≤ s.length := by
  have hlength := stringBody_length h
  have hdrop := stringBody_drop h
  generalize ht : s.drop 5 = t at hs hdrop
  have hlen : s.length = t.length + 5 := by
    rw [← ht, List.length_drop]
    omega
  unfold startsEscape at hs
  split at hs
  · next r' =>
      rw [stringBody_backslash] at hdrop
      split at hdrop
      · next c n he =>
          obtain ⟨_, hbody, -⟩ := consChar_eq_ok hdrop
          have hused := escape_number_used he
          have := stringBody_length hbody
          rw [List.length_cons] at hlen
          omega
      · cases hdrop
  · cases hs

/-- A string is read the same whatever stands behind it. -/
theorem stringBody_front {s : List Char} : ∀ {k : Nat} {cs r : List Char},
    stringBody opening k s = .ok (cs, r) →
      ∃ used, k < used.length ∧ s = used ++ r ∧
        ∀ opening' r', stringBody opening' k (used ++ r') = .ok (cs, r') := by
  induction s with
  | nil =>
      intro k cs r h
      cases h
  | cons c s ih =>
      intro k cs r h
      cases k with
      | succ k =>
          obtain ⟨used, hk, hs, hread⟩ := ih (k := k) h
          refine ⟨c :: used, Nat.succ_lt_succ hk, by rw [hs, List.cons_append], fun o r' => ?_⟩
          exact hread o r'
      | zero =>
          by_cases hquote : c = '"'
          · subst hquote
            cases h
            exact ⟨['"'], Nat.zero_lt_one, rfl, fun _ _ => rfl⟩
          by_cases hbackslash : c = '\\'
          · subst hbackslash
            rw [stringBody_backslash] at h
            split at h
            · next d n he =>
                obtain ⟨cs', hbody, rfl⟩ := consChar_eq_ok h
                obtain ⟨used, hn, rfl, hread⟩ := ih hbody
                -- a second escape is read with the rest of the string, so it lies within it
                have hwithin : ∀ r', n = 5 → startsEscape ((used ++ r').drop 5) = true →
                    12 ≤ used.length := by
                  rintro r' rfl hs
                  have := length_of_startsEscape (hread opening r') hs
                  rw [List.length_append] at this
                  omega
                refine ⟨'\\' :: used, Nat.succ_pos _, rfl, fun o r' => ?_⟩
                rw [List.cons_append, stringBody_backslash,
                  escape_front hn (hwithin r) (hwithin r') he]
                exact congrArg (consChar d) (hread o r')
            · cases h
          · rw [stringBody_other hquote hbackslash] at h
            split at h
            · cases h
            · next hcontrol =>
                obtain ⟨cs', hbody, rfl⟩ := consChar_eq_ok h
                obtain ⟨used, -, rfl, hread⟩ := ih hbody
                refine ⟨c :: used, Nat.succ_pos _, rfl, fun o r' => ?_⟩
                rw [List.cons_append, stringBody_other hquote hbackslash, if_neg hcontrol, hread]
                rfl

theorem escape_error {s : List Char} {e : Stop} (h : escape opening s = .error e) :
    ∃ f rest, e = .fault f rest ∧ f ≠ .expectingValue := by
  cases s with
  | nil =>
      cases h
      exact ⟨_, _, rfl, by decide⟩
  | cons c s =>
      by_cases hc : c = 'u'
      · subst hc
        rw [escape_number] at h
        split at h
        · cases h
          exact ⟨_, _, rfl, by decide⟩
        · split at h
          · split at h
            · cases h
              exact ⟨_, _, rfl, by decide⟩
            · split at h <;> cases h
          · cases h
      · rw [escape_letter hc] at h
        split at h
        · cases h
        · cases h
          exact ⟨_, _, rfl, by decide⟩

theorem consChar_eq_error {c : Char} {x : Reading (List Char)} {e : Stop}
    (h : consChar c x = .error e) : x = .error e := by
  cases x with
  | ok y => cases h
  | error e' => exact h

/-- A string is never refused for want of a value, nor for its length. -/
theorem stringBody_error {s : List Char} : ∀ {k : Nat} {e : Stop},
    stringBody opening k s = .error e → ∃ f rest, e = .fault f rest ∧ f ≠ .expectingValue := by
  induction s with
  | nil =>
      intro k e h
      rw [stringBody] at h
      cases h
      exact ⟨_, _, rfl, by decide⟩
  | cons c s ih =>
      intro k e h
      cases k with
      | succ k => exact ih (k := k) h
      | zero =>
          by_cases hquote : c = '"'
          · subst hquote
            cases h
          by_cases hbackslash : c = '\\'
          · subst hbackslash
            rw [stringBody_backslash] at h
            split at h
            · exact ih (consChar_eq_error h)
            · next he =>
                cases h
                exact escape_error he
          · rw [stringBody_other hquote hbackslash] at h
            split at h
            · cases h
              exact ⟨_, _, rfl, by decide⟩
            · exact ih (consChar_eq_error h)

/-! ## Numbers -/

/-- A text that does not begin with a digit. -/
def NoDigit (s : List Char) : Prop := ∀ c ∈ s.head?, Text.isDigit c = false

theorem noDigit_cons {c : Char} {s : List Char} (hc : Text.isDigit c = false) :
    NoDigit (c :: s) := by
  rintro d ⟨⟩
  exact hc

theorem noDigit_afterDigits (s : List Char) : NoDigit (afterDigits s) := by
  intro c hc
  have h := List.head?_dropWhile_not Text.isDigit s
  rw [afterDigits] at hc
  rw [Option.mem_def.1 hc] at h
  exact h

theorem leadingDigits_append_afterDigits (s : List Char) : leadingDigits s ++ afterDigits s = s :=
  List.takeWhile_append_dropWhile

theorem isDigit_of_mem_leadingDigits {s : List Char} {c : Char} (hc : c ∈ leadingDigits s) :
    Text.isDigit c = true :=
  List.mem_takeWhile_imp hc

theorem digits_append {ds r : List Char} (hds : ∀ c ∈ ds, Text.isDigit c = true) (hr : NoDigit r) :
    leadingDigits (ds ++ r) = ds ∧ afterDigits (ds ++ r) = r := by
  have hnone : leadingDigits r = [] ∧ afterDigits r = r := by
    cases r with
    | nil => exact ⟨rfl, rfl⟩
    | cons c r =>
        have hc : Text.isDigit c = false := hr c rfl
        rw [leadingDigits, afterDigits, List.takeWhile_cons, List.dropWhile_cons, hc]
        exact ⟨rfl, rfl⟩
  rw [leadingDigits, afterDigits, List.takeWhile_append_of_pos hds,
    List.dropWhile_append_of_pos hds]
  rw [leadingDigits, afterDigits] at hnone
  rw [hnone.1, hnone.2, List.append_nil]
  exact ⟨rfl, rfl⟩

/-- A part of a number is found at the front of a text, and found the same whatever stands
behind it but a digit. -/
def PartOfNumber {α : Type} (part? : List Char → Option (α × List Char)) : Prop :=
  ∀ s a r, part? s = some (a, r) →
    ∃ used, used ≠ [] ∧ s = used ++ r ∧ ∀ r', NoDigit r' → part? (used ++ r') = some (a, r')

theorem fraction?_part : PartOfNumber fraction? := by
  intro s a r h
  unfold fraction? at h
  split at h
  · next t =>
      split at h
      · cases h
      · next hne =>
          cases h
          refine ⟨'.' :: leadingDigits t, List.cons_ne_nil _ _, ?_, fun r' hr' => ?_⟩
          · rw [List.cons_append, leadingDigits_append_afterDigits]
          · obtain ⟨hlead, hafter⟩ := digits_append
              (fun c hc => isDigit_of_mem_leadingDigits (s := t) hc) hr'
            rw [List.cons_append, fraction?, hlead, hafter, if_neg hne]
  · cases h

theorem whole?_part : PartOfNumber whole? := by
  intro s a r h
  unfold whole? at h
  split at h
  · cases h
    exact ⟨['0'], List.cons_ne_nil _ _, rfl, fun _ _ => rfl⟩
  · next hzero =>
      split at h
      · cases h
      · next hne =>
          cases h
          have hne' : leadingDigits s ≠ [] := by simpa using hne
          refine ⟨leadingDigits s, hne', (leadingDigits_append_afterDigits s).symm,
            fun r' hr' => ?_⟩
          obtain ⟨hlead, hafter⟩ := digits_append
            (fun c hc => isDigit_of_mem_leadingDigits (s := s) hc) hr'
          unfold whole?
          split
          · next t ht =>
              cases hs : leadingDigits s with
              | nil => exact absurd hs hne'
              | cons c ds =>
                  rw [hs, List.cons_append] at ht
                  obtain rfl : c = '0' := List.head_eq_of_cons_eq ht
                  have hsplit := leadingDigits_append_afterDigits s
                  rw [hs, List.cons_append] at hsplit
                  exact absurd hsplit.symm (hzero _)
          · rw [hlead, hafter, if_neg hne]

/-- The digits of an exponent behind its sign. -/
def exponentDigits? (negative : Bool) (s : List Char) : Option (Int × List Char) :=
  if (leadingDigits s).isEmpty then none
  else
    let n := Int.ofNat (Text.natOfDigits (leadingDigits s))
    some (if negative then -n else n, afterDigits s)

theorem exponentDigits?_part (negative : Bool) : ∀ s a r, exponentDigits? negative s = some (a, r) →
    ∃ d ds, Text.isDigit d = true ∧ s = d :: ds ++ r ∧
      ∀ r', NoDigit r' → exponentDigits? negative (d :: ds ++ r') = some (a, r') := by
  intro s a r h
  unfold exponentDigits? at h
  split at h
  · cases h
  · next hne =>
      cases h
      cases hs : leadingDigits s with
      | nil => exact absurd (by rw [hs]; rfl) hne
      | cons d ds =>
          have hmem : ∀ c ∈ d :: ds, Text.isDigit c = true := fun c hc =>
            isDigit_of_mem_leadingDigits (s := s) (hs ▸ hc)
          refine ⟨d, ds, hmem d (List.mem_cons_self ..), ?_, fun r' hr' => ?_⟩
          · rw [← hs, leadingDigits_append_afterDigits]
          · obtain ⟨hlead, hafter⟩ := digits_append hmem hr'
            rw [exponentDigits?, hlead, hafter]
            rfl

theorem exponent?_signed {e : Char} (he : e = 'e' ∨ e = 'E') (s : List Char) :
    exponent? (e :: '-' :: s) = exponentDigits? true s ∧
      exponent? (e :: '+' :: s) = exponentDigits? false s := by
  rcases he with rfl | rfl <;> exact ⟨rfl, rfl⟩

theorem exponent?_unsigned {e : Char} (he : e = 'e' ∨ e = 'E') {s : List Char}
    (hs : ∀ c ∈ s.head?, c ≠ '-' ∧ c ≠ '+') :
    exponent? (e :: s) = exponentDigits? false s := by
  cases s with
  | nil => rcases he with rfl | rfl <;> rfl
  | cons c s =>
      obtain ⟨hminus, hplus⟩ := hs c rfl
      rcases he with rfl | rfl <;> simp [exponent?, exponentDigits?, hminus, hplus]

theorem exponent?_other {e : Char} (he : e ≠ 'e') (he' : e ≠ 'E') (s : List Char) :
    exponent? (e :: s) = none := by
  simp [exponent?, he, he']

theorem exponent?_part : PartOfNumber exponent? := by
  intro s a r h
  cases s with
  | nil => cases h
  | cons e s =>
      by_cases he : e = 'e' ∨ e = 'E'
      · by_cases hminus : s.head? = some '-'
        · obtain ⟨t, rfl⟩ := List.head?_eq_some_iff.1 hminus
          rw [(exponent?_signed he t).1] at h
          obtain ⟨d, ds, -, rfl, hread⟩ := exponentDigits?_part true t a r h
          refine ⟨e :: '-' :: d :: ds, List.cons_ne_nil _ _, rfl, fun r' hr' => ?_⟩
          exact (exponent?_signed he _).1.trans (hread r' hr')
        by_cases hplus : s.head? = some '+'
        · obtain ⟨t, rfl⟩ := List.head?_eq_some_iff.1 hplus
          rw [(exponent?_signed he t).2] at h
          obtain ⟨d, ds, -, rfl, hread⟩ := exponentDigits?_part false t a r h
          refine ⟨e :: '+' :: d :: ds, List.cons_ne_nil _ _, rfl, fun r' hr' => ?_⟩
          exact (exponent?_signed he _).2.trans (hread r' hr')
        · have hsign : ∀ c ∈ s.head?, c ≠ '-' ∧ c ≠ '+' := fun c hc =>
            ⟨fun hc' => hminus (hc' ▸ hc), fun hc' => hplus (hc' ▸ hc)⟩
          rw [exponent?_unsigned he hsign] at h
          obtain ⟨d, ds, -, rfl, hread⟩ := exponentDigits?_part false s a r h
          refine ⟨e :: d :: ds, List.cons_ne_nil _ _, rfl, fun r' hr' => ?_⟩
          exact (exponent?_unsigned (s := d :: ds ++ r') he hsign).trans (hread r' hr')
      · rw [not_or] at he
        rw [exponent?_other he.1 he.2] at h
        cases h

/-- A character that can stand behind a value: a blank, or a mark. -/
def isEnd (c : Char) : Bool := isSpace c || c == ',' || c == ']' || c == '}'

/-- A text that begins as one does behind a value. -/
def Ends (s : List Char) : Prop := ∃ c t, s = c :: t ∧ isEnd c = true

theorem Ends.append {s : List Char} (h : Ends s) (t : List Char) : Ends (s ++ t) := by
  obtain ⟨c, s, rfl, hc⟩ := h
  exact ⟨c, s ++ t, rfl, hc⟩

/-- Nothing that stands behind a value goes on with a number. -/
theorem Ends.noNumber {s : List Char} (h : Ends s) :
    NoDigit s ∧ fraction? s = none ∧ exponent? s = none := by
  obtain ⟨c, t, rfl, hc⟩ := h
  have hmark : Text.isDigit c = false ∧ c ≠ '.' ∧ c ≠ 'e' ∧ c ≠ 'E' := by
    simp only [isEnd, isSpace, Bool.or_eq_true, beq_iff_eq] at hc
    rcases hc with (((((rfl | rfl) | rfl) | rfl) | rfl) | rfl) | rfl <;> decide
  obtain ⟨hdigit, hpoint, he, he'⟩ := hmark
  refine ⟨noDigit_cons hdigit, ?_, exponent?_other he he' t⟩
  simp [fraction?, hpoint]

/-- The first character of the whole part of a number is a digit. -/
theorem whole?_head {s ds r : List Char} (h : whole? s = some (ds, r)) :
    ∃ d t, s = d :: t ∧ Text.isDigit d = true := by
  unfold whole? at h
  split at h
  · exact ⟨'0', _, rfl, rfl⟩
  · split at h
    · cases h
    · next hne =>
        cases hs : leadingDigits s with
        | nil => exact absurd (by rw [hs]; rfl) hne
        | cons d ds =>
            refine ⟨d, ds ++ afterDigits s, ?_,
              isDigit_of_mem_leadingDigits (s := s) (hs ▸ List.mem_cons_self ..)⟩
            rw [← List.cons_append, ← hs, leadingDigits_append_afterDigits]

theorem NoDigit.front {used r r' : List Char} (hne : used ≠ []) (h : NoDigit (used ++ r)) :
    NoDigit (used ++ r') := by
  cases used with
  | nil => exact absurd rfl hne
  | cons c used => exact h

theorem noDigit_of_fraction? {s : List Char} {x : List Char × List Char}
    (h : fraction? s = some x) : NoDigit s := by
  unfold fraction? at h
  split at h
  · exact noDigit_cons rfl
  · cases h

/-- An exponent begins with neither a digit nor a point. -/
theorem noDigit_of_exponent? {s : List Char} {x : Int × List Char} (h : exponent? s = some x) :
    NoDigit s ∧ fraction? s = none := by
  cases s with
  | nil => cases h
  | cons c s =>
      by_cases hc : c = 'e' ∨ c = 'E'
      · rcases hc with rfl | rfl <;> exact ⟨noDigit_cons rfl, rfl⟩
      · rw [not_or] at hc
        rw [exponent?_other hc.1 hc.2] at h
        cases h

/-- A number with a fraction is read the same whatever stands behind it, if nothing there
goes on with it. -/
theorem magnitude_fraction_front {negative : Bool} {start s r r₁ : List Char} {x : Scalar}
    {ds : List Char} {f : List Char × List Char} (hwhole : whole? s = some (ds, r₁))
    (hfraction : fraction? r₁ = some f) (h : magnitude negative start s = .ok (x, r)) :
    ∃ used, used ≠ [] ∧ s = used ++ r ∧
      ∀ start' r', Ends r' → magnitude negative start' (used ++ r') = .ok (x, r') := by
  obtain ⟨whole, hne, rfl, hwholes⟩ := whole?_part s ds r₁ hwhole
  obtain ⟨fs, r₂⟩ := f
  obtain ⟨fraction, hpoint, rfl, hfractions⟩ := fraction?_part r₁ fs r₂ hfraction
  have hnodigit : ∀ t, NoDigit (fraction ++ t) := fun t =>
    NoDigit.front hpoint (noDigit_of_fraction? hfraction)
  rw [magnitude, hwhole] at h
  cases hexponent : exponent? r₂ with
  | none =>
      simp only [hfraction, hexponent, Option.getD_none] at h
      cases h
      refine ⟨whole ++ fraction, by simp [hne], by rw [List.append_assoc], fun start' r' hr' => ?_⟩
      obtain ⟨hdigit, -, hnone⟩ := hr'.noNumber
      rw [List.append_assoc, magnitude, hwholes _ (hnodigit r')]
      simp only [hfractions r' hdigit, hnone]
      rfl
  | some e =>
      obtain ⟨n, r₃⟩ := e
      obtain ⟨exponent, hletter, rfl, hexponents⟩ := exponent?_part r₂ n r₃ hexponent
      simp only [hfraction, hexponent, Option.getD_some] at h
      cases h
      refine ⟨whole ++ (fraction ++ exponent), by simp [hne], by simp only [List.append_assoc],
        fun start' r' hr' => ?_⟩
      have he := hexponents r' hr'.noNumber.1
      rw [List.append_assoc, List.append_assoc, magnitude, hwholes _ (hnodigit _)]
      simp only [hfractions _ (noDigit_of_exponent? he).1, he]
      rfl

/-- A number without its sign is read the same whatever stands behind it, if nothing there
goes on with it. -/
theorem magnitude_front {negative : Bool} {start s r : List Char} {x : Scalar}
    (h : magnitude negative start s = .ok (x, r)) :
    ∃ used, used ≠ [] ∧ s = used ++ r ∧
      ∀ start' r', Ends r' → magnitude negative start' (used ++ r') = .ok (x, r') := by
  cases hwhole : whole? s with
  | none =>
      rw [magnitude, hwhole] at h
      cases h
  | some w =>
      obtain ⟨ds, r₁⟩ := w
      cases hfraction : fraction? r₁ with
      | some f => exact magnitude_fraction_front hwhole hfraction h
      | none =>
          obtain ⟨whole, hne, rfl, hwholes⟩ := whole?_part s ds r₁ hwhole
          rw [magnitude, hwhole] at h
          cases hexponent : exponent? r₁ with
          | some e =>
              obtain ⟨n, r₃⟩ := e
              obtain ⟨exponent, hletter, rfl, hexponents⟩ := exponent?_part r₁ n r₃ hexponent
              simp only [hfraction, hexponent] at h
              cases h
              refine ⟨whole ++ exponent, by simp [hne], by rw [List.append_assoc],
                fun start' r' hr' => ?_⟩
              have he := hexponents r' hr'.noNumber.1
              obtain ⟨hdigit, hnone⟩ := noDigit_of_exponent? he
              rw [List.append_assoc, magnitude, hwholes _ hdigit]
              simp only [hnone, he]
          | none =>
              simp only [hfraction, hexponent] at h
              split at h
              · cases h
              · next hshort =>
                  cases h
                  refine ⟨whole, hne, rfl, fun start' r' hr' => ?_⟩
                  obtain ⟨hdigit, hnone, hnone'⟩ := hr'.noNumber
                  rw [magnitude, hwholes _ hdigit]
                  simp only [hnone, hnone', if_neg hshort]

/-! ## Scalars -/

theorem scalar_digit {d : Char} (hd : Text.isDigit d = true) (t : List Char) :
    scalar (d :: t) = magnitude false (d :: t) (d :: t) := by
  have hletter : d ≠ 'n' ∧ d ≠ 't' ∧ d ≠ 'f' ∧ d ≠ 'N' ∧ d ≠ 'I' ∧ d ≠ '-' := by
    refine ⟨?_, ?_, ?_, ?_, ?_, ?_⟩ <;> rintro rfl <;> exact absurd hd (by decide)
  obtain ⟨h₁, h₂, h₃, h₄, h₅, h₆⟩ := hletter
  simp [scalar, h₁, h₂, h₃, h₄, h₅, h₆]

theorem scalar_minus {d : Char} (hd : Text.isDigit d = true) (t : List Char) :
    scalar ('-' :: d :: t) = magnitude true ('-' :: d :: t) (d :: t) := by
  have hletter : d ≠ 'I' := by
    rintro rfl
    exact absurd hd (by decide)
  simp [scalar, hletter]

/-- What is refused as a number, but not for its length, wants a value at its start. -/
theorem magnitude_cases (negative : Bool) (start s : List Char) :
    magnitude negative start s = .error (.fault .expectingValue start) ∨
      ∃ d t, s = d :: t ∧ Text.isDigit d = true := by
  cases hw : whole? s with
  | none =>
      rw [magnitude, hw]
      exact .inl rfl
  | some w =>
      obtain ⟨ds, r⟩ := w
      exact .inr (whole?_head hw)

/-- A scalar other than a string is one of six words, or a number. -/
theorem scalar_cases (s : List Char) :
    (∃ word x t, s = word ++ t ∧ word ≠ [] ∧ ∀ t', scalar (word ++ t') = .ok (x, t')) ∨
      (∃ d t, s = '-' :: d :: t ∧ Text.isDigit d = true) ∨
      (∃ d t, s = d :: t ∧ Text.isDigit d = true) ∨
      scalar s = .error (.fault .expectingValue s) := by
  have hword : ∀ (word : String) (x : Scalar) (t : List Char), word.toList ≠ [] →
      (∀ t', scalar (word.toList ++ t') = .ok (x, t')) → s = word.toList ++ t →
      ∃ word x t, s = word ++ t ∧ word ≠ [] ∧ ∀ t', scalar (word ++ t') = .ok (x, t') :=
    fun word x t hne hread hs => ⟨word.toList, x, t, hs, hne, hread⟩
  unfold scalar
  split
  · next r => exact .inl (hword "null" .null r (by decide) (fun _ => rfl) rfl)
  · next r => exact .inl (hword "true" (.flag true) r (by decide) (fun _ => rfl) rfl)
  · next r => exact .inl (hword "false" (.flag false) r (by decide) (fun _ => rfl) rfl)
  · next r => exact .inl (hword "NaN" _ r (by decide) (fun _ => rfl) rfl)
  · next r => exact .inl (hword "Infinity" _ r (by decide) (fun _ => rfl) rfl)
  · next r => exact .inl (hword "-Infinity" _ r (by decide) (fun _ => rfl) rfl)
  · next r _ =>
      rcases magnitude_cases true ('-' :: r) r with h | ⟨d, t, rfl, hd⟩
      · exact .inr (.inr (.inr h))
      · exact .inr (.inl ⟨d, t, rfl, hd⟩)
  · rcases magnitude_cases false s s with h | ⟨d, t, rfl, hd⟩
    · exact .inr (.inr (.inr h))
    · exact .inr (.inr (.inl ⟨d, t, rfl, hd⟩))

theorem scalar_front {s r : List Char} {x : Scalar} (h : scalar s = .ok (x, r)) :
    ∃ used, used ≠ [] ∧ s = used ++ r ∧ ∀ r', Ends r' → scalar (used ++ r') = .ok (x, r') := by
  rcases scalar_cases s with
    ⟨word, y, t, rfl, hne, hread⟩ | ⟨d, t, rfl, hd⟩ | ⟨d, t, rfl, hd⟩ | hs
  · cases (hread t).symm.trans h
    exact ⟨word, hne, rfl, fun r' _ => hread r'⟩
  · rw [scalar_minus hd] at h
    obtain ⟨used, hne, hs, hread⟩ := magnitude_front h
    cases used with
    | nil => exact absurd rfl hne
    | cons c used =>
        obtain rfl : d = c := List.head_eq_of_cons_eq hs
        refine ⟨'-' :: d :: used, List.cons_ne_nil _ _, congrArg ('-' :: ·) hs, fun r' hr' => ?_⟩
        exact (scalar_minus hd _).trans (hread _ r' hr')
  · rw [scalar_digit hd] at h
    obtain ⟨used, hne, hs, hread⟩ := magnitude_front h
    cases used with
    | nil => exact absurd rfl hne
    | cons c used =>
        obtain rfl : d = c := List.head_eq_of_cons_eq hs
        exact ⟨d :: used, hne, hs, fun r' hr' => (scalar_digit hd _).trans (hread _ r' hr')⟩
  · cases hs.symm.trans h

/-- An integer with its sign, and behind it a text that does not go on with it. -/
structure IsInteger (sign ds rest : List Char) : Prop where
  sign : sign = [] ∨ sign = ['-']
  nonempty : ds ≠ []
  digits : ∀ c ∈ ds, Text.isDigit c = true
  leading : ds.head? ≠ some '0'
  stops : NoDigit rest
  fraction : fraction? rest = none
  exponent : exponent? rest = none

/-- A number without its sign is refused because there is none, or for its length. -/
theorem magnitude_error {negative : Bool} {start s : List Char} {e : Stop}
    (h : magnitude negative start s = .error e) :
    e = .fault .expectingValue start ∨
      ∃ ds r, whole? s = some (ds, r) ∧ fraction? r = none ∧ exponent? r = none ∧
        Text.digitLimit < ds.length ∧ e = .tooManyDigits ds.length := by
  unfold magnitude at h
  cases hwhole : whole? s with
  | none =>
      rw [hwhole] at h
      cases h
      exact .inl rfl
  | some w =>
      obtain ⟨ds, r⟩ := w
      rw [hwhole] at h
      cases hfraction : fraction? r with
      | some f =>
          simp only [hfraction] at h
          cases h
      | none =>
          cases hexponent : exponent? r with
          | some x =>
              simp only [hfraction, hexponent] at h
              cases h
          | none =>
              simp only [hfraction, hexponent] at h
              split at h
              · next hlong =>
                  cases h
                  exact .inr ⟨ds, r, rfl, hfraction, hexponent, hlong, rfl⟩
              · cases h

/-- The whole part of a number is a zero, or it is all digits that stand there. -/
theorem whole?_cases {s ds r : List Char} (h : whole? s = some (ds, r)) :
    ds = ['0'] ∨ ds ≠ [] ∧ (∀ c ∈ ds, Text.isDigit c = true) ∧ ds.head? ≠ some '0' ∧ NoDigit r ∧
      s = ds ++ r := by
  unfold whole? at h
  split at h
  · cases h
    exact .inl rfl
  · next hzero =>
      split at h
      · cases h
      · next hne =>
          cases h
          have hs := leadingDigits_append_afterDigits s
          refine .inr ⟨by simpa using hne, fun c => isDigit_of_mem_leadingDigits, fun hhead => ?_,
            noDigit_afterDigits s, hs.symm⟩
          obtain ⟨t, ht⟩ := List.head?_eq_some_iff.1 hhead
          rw [ht, List.cons_append] at hs
          exact hzero _ hs.symm

theorem IsInteger.whole? {sign ds rest : List Char} (h : IsInteger sign ds rest) :
    whole? (ds ++ rest) = some (ds, rest) := by
  obtain ⟨hlead, hafter⟩ := digits_append h.digits h.stops
  unfold Json.whole?
  split
  · next t ht =>
      cases ds with
      | nil => exact absurd rfl h.nonempty
      | cons c ds =>
          obtain rfl : c = '0' := List.head_eq_of_cons_eq ht
          exact absurd rfl h.leading
  · rw [hlead, hafter, if_neg (by simpa using h.nonempty)]

/-- A number is refused for its length if it is an integer of too many digits. -/
theorem magnitude_tooManyDigits_iff {negative : Bool} {start s : List Char} {n : Nat} :
    magnitude negative start s = .error (.tooManyDigits n) ↔
      ∃ ds rest, s = ds ++ rest ∧ IsInteger [] ds rest ∧ ds.length = n ∧ Text.digitLimit < n := by
  constructor
  · intro h
    rcases magnitude_error h with he | ⟨ds, r, hwhole, hfraction, hexponent, hlong, he⟩
    · cases he
    · cases he
      rcases whole?_cases hwhole with rfl | ⟨hne, hdigits, hzero, hstops, rfl⟩
      · exact absurd hlong (by decide)
      · exact ⟨ds, r, rfl, ⟨.inl rfl, hne, hdigits, hzero, hstops, hfraction, hexponent⟩, rfl,
          hlong⟩
  · rintro ⟨ds, rest, rfl, hint, rfl, hlong⟩
    rw [magnitude, hint.whole?]
    simp only [hint.fraction]
    simp only [hint.exponent, if_pos hlong]

/-- A scalar is refused for its length if it is an integer of too many digits. -/
theorem scalar_tooManyDigits_iff {s : List Char} {n : Nat} :
    scalar s = .error (.tooManyDigits n) ↔
      ∃ sign ds rest, s = sign ++ (ds ++ rest) ∧ IsInteger sign ds rest ∧ ds.length = n ∧
        Text.digitLimit < n := by
  constructor
  · intro h
    rcases scalar_cases s with
      ⟨word, y, t, rfl, hne, hread⟩ | ⟨d, t, rfl, hd⟩ | ⟨d, t, rfl, hd⟩ | hs
    · cases (hread t).symm.trans h
    · rw [scalar_minus hd, magnitude_tooManyDigits_iff] at h
      obtain ⟨ds, rest, hs, hint, hn⟩ := h
      exact ⟨['-'], ds, rest, congrArg ('-' :: ·) hs, { hint with sign := .inr rfl }, hn⟩
    · rw [scalar_digit hd, magnitude_tooManyDigits_iff] at h
      obtain ⟨ds, rest, hs, hint, hn⟩ := h
      exact ⟨[], ds, rest, hs, hint, hn⟩
    · cases hs.symm.trans h
  · rintro ⟨sign, ds, rest, rfl, hint, hn⟩
    have hmagnitude : ∀ negative start,
        magnitude negative start (ds ++ rest) = .error (.tooManyDigits n) := fun negative start =>
      magnitude_tooManyDigits_iff.2 ⟨ds, rest, rfl, { hint with sign := .inl rfl }, hn⟩
    cases ds with
    | nil => exact absurd rfl hint.nonempty
    | cons d ds =>
        have hd : Text.isDigit d = true := hint.digits d (List.mem_cons_self ..)
        rcases hint.sign with rfl | rfl
        · exact (scalar_digit hd _).trans (hmagnitude _ _)
        · exact (scalar_minus hd _).trans (hmagnitude _ _)

/-- A scalar is refused because it is none, or for its length. -/
theorem scalar_error {s : List Char} {e : Stop} (h : scalar s = .error e) :
    e = .fault .expectingValue s ∨ ∃ n, e = .tooManyDigits n := by
  rcases scalar_cases s with
    ⟨word, y, t, rfl, hne, hread⟩ | ⟨d, t, rfl, hd⟩ | ⟨d, t, rfl, hd⟩ | hs
  · cases (hread t).symm.trans h
  · rw [scalar_minus hd] at h
    exact (magnitude_error h).imp_right fun ⟨_, _, _, _, _, _, he⟩ => ⟨_, he⟩
  · rw [scalar_digit hd] at h
    exact (magnitude_error h).imp_right fun ⟨_, _, _, _, _, _, he⟩ => ⟨_, he⟩
  · exact .inl (Except.error.inj (hs.symm.trans h)).symm

end MigrationConfig.Json
