/-
# Quoted texts

A text that is written as a JSON string is read back as itself, whatever characters it
has.  Character by character: most stand for themselves, a few have an escape of one
letter, the rest have an escape by number, and a character beyond the sixteen bits has
two, for the halves of its surrogate pair.  The numbers are written in four hexadecimal
digits.  No character is half of a pair on its own, so the reader never takes two
characters for one.

What is written is plain: printable ASCII and nothing else.
-/
import MigrationConfig.Json.Printer
import MigrationConfig.Json.Reader

namespace MigrationConfig

/-! ## Hexadecimal digits -/

namespace Text

theorem hexValue?_digitChar : ∀ d < 16, hexValue? (Nat.digitChar d) = some d := by
  decide

/-- A width of one more has room for one more digit. -/
theorem hexText_succ {width : Nat} (hw : 0 < width) (n : Nat) :
    hexText (width + 1) n = hexText width (n / 16) ++ [Nat.digitChar (n % 16)] := by
  simp only [hexText]
  rcases Nat.lt_or_ge n 16 with hn | hn
  · obtain ⟨w, rfl⟩ : ∃ w, width = w + 1 := ⟨width - 1, by omega⟩
    have hzero : Nat.toDigits 16 0 = ['0'] := rfl
    rw [Nat.div_eq_of_lt hn, Nat.mod_eq_of_lt hn, Nat.toDigits_of_lt_base hn, hzero,
      List.length_singleton, List.length_singleton, Nat.add_sub_cancel, Nat.add_sub_cancel,
      ← List.replicate_succ']
  · rw [Nat.toDigits_of_base_le (by decide) hn, List.length_append, List.length_singleton,
      Nat.add_sub_add_right, List.append_assoc]

/-- The four digits of a number of sixteen bits. -/
theorem hexText_four {n : Nat} (hn : n < 0x10000) :
    hexText 4 n = [Nat.digitChar (n / 4096), Nat.digitChar (n / 256 % 16),
      Nat.digitChar (n / 16 % 16), Nat.digitChar (n % 16)] := by
  have hone : hexText 1 (n / 4096) = [Nat.digitChar (n / 4096)] := by
    have hfirst : n / 4096 < 16 := by omega
    rw [hexText, Nat.toDigits_of_lt_base hfirst]
    rfl
  have hsecond : n / 16 / 16 = n / 256 := by omega
  have hthird : n / 256 / 16 = n / 4096 := by omega
  rw [hexText_succ (by decide), hexText_succ (by decide), hexText_succ (by decide), hsecond,
    hthird, hone]
  rfl

theorem length_hexText_four {n : Nat} (hn : n < 0x10000) : (hexText 4 n).length = 4 := by
  rw [hexText_four hn]
  rfl

end Text

namespace Json

/-- Four digits are read as the number that they write. -/
theorem hexNumber?_digits {n : Nat} (hn : n < 0x10000) :
    hexNumber? (Nat.digitChar (n / 4096)) (Nat.digitChar (n / 256 % 16))
      (Nat.digitChar (n / 16 % 16)) (Nat.digitChar (n % 16)) = some n := by
  unfold hexNumber?
  rw [Text.hexValue?_digitChar _ (by omega), Text.hexValue?_digitChar _ (by omega),
    Text.hexValue?_digitChar _ (by omega), Text.hexValue?_digitChar _ (by omega)]
  refine congrArg some ?_
  omega

/-! ## Escapes -/

variable {opening : List Char}

/-- The characters of an escape that has been read are passed over. -/
theorem stringBody_skip (used rest : List Char) :
    stringBody opening used.length (used ++ rest) = stringBody opening 0 rest := by
  induction used with
  | nil => rfl
  | cons c used ih => exact ih

theorem stringBody_escape {used rest : List Char} {c : Char} {n : Nat} (hused : used.length = n)
    (hescape : escape opening (used ++ rest) = .ok (c, n)) :
    stringBody opening 0 ('\\' :: (used ++ rest)) = consChar c (stringBody opening 0 rest) := by
  have hquote : ('\\' == '"') = false := rfl
  rw [stringBody, hquote, if_neg Bool.false_ne_true, beq_self_eq_true, if_pos rfl,
    hescape, ← hused]
  exact congrArg (consChar c) (stringBody_skip used rest)

/-- A number of sixteen bits is read from its escape if anything follows. -/
theorem unicodeEscape?_hexText {n : Nat} (hn : n < 0x10000) (x : Char) (rest : List Char) :
    unicodeEscape? ('u' :: (Text.hexText 4 n ++ x :: rest)) = some n := by
  rw [Text.hexText_four hn]
  exact hexNumber?_digits hn

/-- An escape that is no half of a pair stands for the character of its number. -/
theorem escape_single {r : List Char} {n : Nat} (hr : unicodeEscape? ('u' :: r) = some n)
    (hhigh : isHighSurrogate n = false) (hlow : isLowSurrogate n = false) :
    escape opening ('u' :: r) = .ok (Char.ofNat n, 5) := by
  unfold escape
  simp only [hr, hhigh, Bool.false_and, Bool.false_eq_true, if_false]
  rw [charOfNumber, hhigh, hlow]
  rfl

/-- The halves of a pair are read together. -/
theorem escape_pair {r s : List Char} {high low : Nat}
    (hr : unicodeEscape? ('u' :: r) = some high) (hhigh : isHighSurrogate high = true)
    (hs : r.drop 4 = '\\' :: s) (hstarts : startsEscape ('\\' :: s) = true)
    (hsecond : unicodeEscape? s = some low) (hlow : isLowSurrogate low = true) :
    escape opening ('u' :: r) = .ok (joinSurrogates high low, 11) := by
  have hfive : ('u' :: r).drop 5 = '\\' :: s := hs
  have hsix : ('u' :: r).drop 6 = s := by
    rw [← List.drop_drop (i := 1) (j := 5), hfive]
    rfl
  unfold escape
  simp only [hr, hhigh, hfive, hstarts, hsix, hsecond, hlow, Bool.and_self, if_true]

theorem lt_of_isHighSurrogate {n : Nat} (hn : isHighSurrogate n = true) : n < 0x10000 := by
  simp only [isHighSurrogate, Bool.and_eq_true, decide_eq_true_eq] at hn
  omega

theorem lt_of_isLowSurrogate {n : Nat} (hn : isLowSurrogate n = true) : n < 0x10000 := by
  simp only [isLowSurrogate, Bool.and_eq_true, decide_eq_true_eq] at hn
  omega

/-! ## Characters -/

/-- A character beyond the sixteen bits is the one of its pair. -/
theorem joinSurrogates_halves {c : Char} (hc : 0x10000 ≤ c.toNat) :
    isHighSurrogate (0xD800 + (c.toNat - 0x10000) / 0x400) = true ∧
      isLowSurrogate (0xDC00 + (c.toNat - 0x10000) % 0x400) = true ∧
        joinSurrogates (0xD800 + (c.toNat - 0x10000) / 0x400)
          (0xDC00 + (c.toNat - 0x10000) % 0x400) = c := by
  have hlt : c.toNat < 0x110000 := by
    rcases c.valid with h | h
    · exact Nat.lt_trans h (by decide)
    · exact h.2
  refine ⟨?_, ?_, ?_⟩
  · simp only [isHighSurrogate, Bool.and_eq_true, decide_eq_true_eq]
    omega
  · simp only [isLowSurrogate, Bool.and_eq_true, decide_eq_true_eq]
    omega
  · have hsum : 0x10000 + (0xD800 + (c.toNat - 0x10000) / 0x400 - 0xD800) * 0x400 +
        (0xDC00 + (c.toNat - 0x10000) % 0x400 - 0xDC00) = c.toNat := by
      omega
    rw [joinSurrogates, hsum, Char.ofNat_toNat]

/-- No character is half of a pair. -/
theorem not_surrogate (c : Char) :
    isHighSurrogate c.toNat = false ∧ isLowSurrogate c.toNat = false := by
  have hvalid : c.toNat < 0xD800 ∨ 0xDFFF < c.toNat ∧ c.toNat < 0x110000 := c.valid
  constructor
  · simp only [isHighSurrogate, Bool.and_eq_false_iff, decide_eq_false_iff_not]
    omega
  · simp only [isLowSurrogate, Bool.and_eq_false_iff, decide_eq_false_iff_not]
    omega

theorem stringBody_plain {c : Char} (hquote : c ≠ '"') (hbackslash : c ≠ '\\')
    (hc : 0x20 ≤ c.toNat) (rest : List Char) :
    stringBody opening 0 (c :: rest) = consChar c (stringBody opening 0 rest) := by
  rw [stringBody, if_neg (by simpa using hquote), if_neg (by simpa using hbackslash),
    if_neg (Nat.not_lt.2 hc)]

theorem stringBody_letter {l d : Char} (hl : l ≠ 'u') (hd : escapeOf? l = some d)
    (rest : List Char) :
    stringBody opening 0 ('\\' :: l :: rest) = consChar d (stringBody opening 0 rest) := by
  have hescape : escape opening ([l] ++ rest) = .ok (d, 1) := by
    unfold escape
    split
    · next h => cases h
    · next h => exact absurd (List.cons.inj h).1 hl
    · next h => rw [← (List.cons.inj h).1, hd]
  exact stringBody_escape rfl hescape

theorem stringBody_number (c x : Char) (hc : c.toNat < 0x10000) (rest : List Char) :
    stringBody opening 0 (unicodeEscape c.toNat ++ x :: rest) =
      consChar c (stringBody opening 0 (x :: rest)) := by
  have hused : ('u' :: Text.hexText 4 c.toNat).length = 5 :=
    congrArg (· + 1) (Text.length_hexText_four hc)
  have hescape : escape opening ('u' :: (Text.hexText 4 c.toNat ++ x :: rest)) =
      .ok (Char.ofNat c.toNat, 5) :=
    escape_single (unicodeEscape?_hexText hc x rest) (not_surrogate c).1 (not_surrogate c).2
  rw [Char.ofNat_toNat] at hescape
  exact stringBody_escape hused hescape

theorem stringBody_pair {high low : Nat} (hhigh : isHighSurrogate high = true)
    (hlow : isLowSurrogate low = true) (x : Char) (rest : List Char) :
    stringBody opening 0 (unicodeEscape high ++ unicodeEscape low ++ x :: rest) =
      consChar (joinSurrogates high low) (stringBody opening 0 (x :: rest)) := by
  have hhighLength := Text.length_hexText_four (lt_of_isHighSurrogate hhigh)
  have hlowLength := Text.length_hexText_four (lt_of_isLowSurrogate hlow)
  have hstarts : startsEscape ('\\' :: 'u' :: (Text.hexText 4 low ++ x :: rest)) = true := by
    rw [Text.hexText_four (lt_of_isLowSurrogate hlow)]
    rfl
  have hescape : escape opening ('u' :: (Text.hexText 4 high ++ '\\' :: 'u' ::
      (Text.hexText 4 low ++ x :: rest))) = .ok (joinSurrogates high low, 11) :=
    escape_pair (unicodeEscape?_hexText (lt_of_isHighSurrogate hhigh) _ _) hhigh
      (List.drop_left' hhighLength) hstarts
      (unicodeEscape?_hexText (lt_of_isLowSurrogate hlow) x rest) hlow
  -- the letter, four digits, the backslash, the letter again, and four more digits
  have hused : ('u' :: (Text.hexText 4 high ++ '\\' :: 'u' :: Text.hexText 4 low)).length = 11 := by
    simp only [List.length_cons, List.length_append, hhighLength, hlowLength]
  have htext : 'u' :: (Text.hexText 4 high ++ '\\' :: 'u' :: (Text.hexText 4 low ++ x :: rest)) =
      'u' :: (Text.hexText 4 high ++ '\\' :: 'u' :: Text.hexText 4 low) ++ x :: rest := by
    simp only [List.cons_append, List.append_assoc]
  rw [htext] at hescape
  have hbody := stringBody_escape hused hescape
  rw [← htext] at hbody
  simpa only [unicodeEscape, List.cons_append, List.append_assoc] using hbody

/-- A character that is written in front of anything is read back. -/
theorem stringBody_stringChar (c x : Char) (rest : List Char) :
    stringBody opening 0 (stringChar c ++ x :: rest) =
      consChar c (stringBody opening 0 (x :: rest)) := by
  have hletter : ∀ {l d : Char}, l ≠ 'u' → escapeOf? l = some d → c = d →
      stringBody opening 0 (['\\', l] ++ x :: rest) =
        consChar c (stringBody opening 0 (x :: rest)) := by
    rintro l d hl hd rfl
    exact stringBody_letter hl hd _
  have hchar : ∀ {n : Nat}, (c.toNat == n) = true → c = Char.ofNat n := by
    intro n hn
    rw [← eq_of_beq hn, Char.ofNat_toNat]
  unfold stringChar
  simp only
  split
  · next h =>
      rcases Bool.or_eq_true .. ▸ h with h | h
      · obtain rfl := eq_of_beq h
        exact hletter (by decide) rfl rfl
      · obtain rfl := eq_of_beq h
        exact hletter (by decide) rfl rfl
  split
  · next hquoted hplain =>
      simp only [Bool.or_eq_true, beq_iff_eq, not_or] at hquoted
      simp only [Bool.and_eq_true, decide_eq_true_eq] at hplain
      exact stringBody_plain hquoted.1 hquoted.2 hplain.1 _
  split
  · next h => exact hletter (by decide) rfl (eq_of_beq h)
  split
  · next h => exact hletter (by decide) rfl (eq_of_beq h)
  split
  · next h => exact hletter (by decide) rfl (eq_of_beq h)
  split
  · next h => exact hletter (by decide) rfl (hchar h)
  split
  · next h => exact hletter (by decide) rfl (hchar h)
  split
  · next h => exact stringBody_number c x h rest
  · next h =>
      obtain ⟨hhigh, hlow, hjoin⟩ := joinSurrogates_halves (Nat.not_lt.1 h)
      rw [stringBody_pair hhigh hlow x rest, hjoin]

/-- A text that is written as a string is read back up to its closing quote. -/
theorem stringBody_string (s rest : List Char) :
    stringBody opening 0 (s.flatMap stringChar ++ '"' :: rest) = .ok (s, rest) := by
  induction s with
  | nil => rfl
  | cons c s ih =>
      -- what comes behind a character is another one, or the quote
      obtain ⟨x, xs, hx⟩ : ∃ x xs, s.flatMap stringChar ++ '"' :: rest = x :: xs :=
        List.exists_cons_of_ne_nil (List.append_ne_nil_of_right_ne_nil _ (List.cons_ne_nil _ _))
      rw [List.flatMap_cons, List.append_assoc, hx, stringBody_stringChar, ← hx, ih]
      rfl

/-! ## Plain texts -/

/-- Printable ASCII, or the end of a line. -/
def isPlain (c : Char) : Bool := (0x20 ≤ c.toNat && c.toNat ≤ 0x7E) || c == '\n'

theorem isPlain_hexText {n : Nat} (hn : n < 0x10000) : ∀ c ∈ Text.hexText 4 n, isPlain c = true := by
  have hdigit : ∀ d < 16, isPlain (Nat.digitChar d) = true := by decide
  rw [Text.hexText_four hn]
  simp only [List.mem_cons, List.not_mem_nil, or_false]
  rintro c (rfl | rfl | rfl | rfl)
  · exact hdigit _ (by omega)
  · exact hdigit _ (by omega)
  · exact hdigit _ (by omega)
  · exact hdigit _ (by omega)

theorem isPlain_unicodeEscape {n : Nat} (hn : n < 0x10000) :
    ∀ c ∈ unicodeEscape n, isPlain c = true := by
  intro c hc
  rcases List.mem_cons.1 hc with rfl | hc
  · rfl
  rcases List.mem_cons.1 hc with rfl | hc
  · rfl
  · exact isPlain_hexText hn c hc

theorem isPlain_stringChar (c : Char) : ∀ d ∈ stringChar c, isPlain d = true := by
  have hpair : ∀ {l : Char}, isPlain l = true → ∀ d ∈ ['\\', l], isPlain d = true := by
    intro l hl d hd
    rcases List.mem_cons.1 hd with rfl | hd
    · rfl
    · obtain rfl := List.mem_singleton.1 hd
      exact hl
  unfold stringChar
  simp only
  split
  · next h =>
      rcases Bool.or_eq_true .. ▸ h with h | h
      · obtain rfl := eq_of_beq h
        exact hpair rfl
      · obtain rfl := eq_of_beq h
        exact hpair rfl
  split
  · next h =>
      intro d hd
      obtain rfl := List.mem_singleton.1 hd
      rw [isPlain, h, Bool.true_or]
  split
  · exact hpair rfl
  split
  · exact hpair rfl
  split
  · exact hpair rfl
  split
  · exact hpair rfl
  split
  · exact hpair rfl
  split
  · next h => exact isPlain_unicodeEscape h
  · next h =>
      obtain ⟨hhigh, hlow, -⟩ := joinSurrogates_halves (Nat.not_lt.1 h)
      intro d hd
      rcases List.mem_append.1 hd with hd | hd
      · exact isPlain_unicodeEscape (lt_of_isHighSurrogate hhigh) d hd
      · exact isPlain_unicodeEscape (lt_of_isLowSurrogate hlow) d hd

theorem isPlain_string (s : String) : ∀ c ∈ string s, isPlain c = true := by
  intro c hc
  rcases List.mem_append.1 hc with hc | hc
  · rcases List.mem_cons.1 hc with rfl | hc
    · rfl
    · obtain ⟨d, -, hd⟩ := List.mem_flatMap.1 hc
      exact isPlain_stringChar d c hd
  · obtain rfl := List.mem_singleton.1 hc
    rfl

end Json

end MigrationConfig
