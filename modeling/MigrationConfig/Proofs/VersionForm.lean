/-
# The form of a version

Which texts are versions, said as a grammar (`Written`): runs of digits with a dot or an
underscore between two of them, or one of two words in any case.  The reader knows no
grammar.  It makes dots of the underscores, cuts the text at them and asks two questions
of the pieces, so the work is to show that the pieces pass just when the text has the
form, and that they are its runs then.

Runs are taken to be short enough to be read.  Which texts are refused for their length
is said in `Version.Overlong`.
-/
import MigrationConfig.Proofs.VersionText

namespace MigrationConfig.Version

/-! ## Words -/

/-- A text spells a word, letter by letter, each of them small or capital. -/
def Spells (word s : List Char) : Prop := List.Forall₂ (fun c w => c = w ∨ c = w.toUpper) s word

/-- A small letter of ASCII. -/
def isSmall (c : Char) : Bool := 0x61 ≤ c.toNat && c.toNat ≤ 0x7A

theorem toNat_toUpper {w : Char} (hw : isSmall w = true) : w.toUpper.toNat + 32 = w.toNat := by
  have hall : ∀ n < 0x7B, 0x61 ≤ n → (Char.ofNat n).toUpper.toNat + 32 = n := by decide
  simp only [isSmall, Bool.and_eq_true, decide_eq_true_eq] at hw
  have h := hall w.toNat (by omega) hw.1
  rwa [Char.ofNat_toNat] at h

theorem toNat_ofNat : ∀ n < 0x7B, (Char.ofNat n).toNat = n := by decide

theorem lower_eq_iff {c w : Char} (hw : isSmall w = true) :
    (if 0x41 ≤ c.toNat && c.toNat ≤ 0x5A then Char.ofNat (c.toNat + 32) else c) = w ↔
      c = w ∨ c = w.toUpper := by
  have hupper := toNat_toUpper hw
  simp only [isSmall, Bool.and_eq_true, decide_eq_true_eq] at hw
  rw [← Char.toNat_inj, ← Char.toNat_inj (c := c) (d := w), ← Char.toNat_inj (c := c)]
  by_cases hc : 0x41 ≤ c.toNat ∧ c.toNat ≤ 0x5A
  · have hval := toNat_ofNat (c.toNat + 32) (by omega)
    rw [if_pos (by simpa using hc), hval]
    omega
  · rw [if_neg (by simpa using hc)]
    omega

theorem asciiLower_eq_iff {word s : List Char} (hword : ∀ w ∈ word, isSmall w = true) :
    Text.asciiLower s = word ↔ Spells word s := by
  induction s generalizing word with
  | nil =>
      cases word with
      | nil => exact iff_of_true rfl .nil
      | cons w rest => exact iff_of_false (nomatch ·) (nomatch ·)
  | cons c s ih =>
      cases word with
      | nil => exact iff_of_false (nomatch ·) (nomatch ·)
      | cons w rest =>
          obtain ⟨hw, hrest⟩ := List.forall_mem_cons.1 hword
          rw [Spells, List.forall₂_cons, ← lower_eq_iff hw]
          rw [Text.asciiLower, List.map_cons, List.cons_eq_cons]
          exact and_congr_right' (ih hrest)

/-! ## Numbers -/

/-- A run of digits, one of them at least. -/
structure IsRun (d : List Char) : Prop where
  nonempty : d ≠ []
  digits : ∀ c ∈ d, Text.isDigit c = true

/-- The text of a number, with the runs of digits that stand in it. -/
inductive Written : List Char → List (List Char) → Prop
  | last {d : List Char} (hd : IsRun d) : Written d [d]
  | more {d s : List Char} {ds : List (List Char)} {mark : Char} (hd : IsRun d)
      (hmark : mark = '.' ∨ mark = '_') (hs : Written s ds) : Written (d ++ mark :: s) (d :: ds)

variable {s : List Char} {ds : List (List Char)}

theorem dotted_append (s t : List Char) : dotted (s ++ t) = dotted s ++ dotted t :=
  List.map_append

theorem dotted_mark {mark : Char} (hmark : mark = '.' ∨ mark = '_') (s : List Char) :
    dotted (mark :: s) = '.' :: dotted s := by
  rcases hmark with rfl | rfl <;> rfl

theorem IsRun.dotted {d : List Char} (hd : IsRun d) : dotted d = d := by
  refine dotted_number fun c hc => ?_
  rw [isNumberChar, hd.digits c hc]
  rfl

theorem IsRun.no_dot {d : List Char} (hd : IsRun d) : '.' ∉ d := by
  intro hdot
  exact absurd (hd.digits '.' hdot) (by decide)

theorem Written.runs_ne_nil (h : Written s ds) : ds ≠ [] := by
  cases h with
  | last _ => simp
  | more _ _ _ => simp

theorem Written.pieces (h : Written s ds) :
    Text.splitOn ['.'] (dotted s) = ds ∧ ∀ d ∈ ds, IsRun d := by
  rw [Text.splitOn_singleton]
  induction h with
  | last hd =>
      rw [hd.dotted]
      exact ⟨List.splitOn_eq_singleton hd.no_dot, by simpa using hd⟩
  | more hd hmark hs ih =>
      rw [dotted_append, dotted_mark hmark, hd.dotted,
        List.splitOn_append_cons_self_of_not_mem hd.no_dot, ih.1]
      exact ⟨rfl, List.forall_mem_cons.2 ⟨hd, ih.2⟩⟩

/-- A text whose first piece has only digits, perhaps none, begins with that piece; behind
it the text ends, or a mark and another number follow. -/
theorem written_behind {d : List Char} (hsplit : (dotted s).splitOn '.' = d :: ds)
    (hd : ∀ c ∈ d, Text.isDigit c = true) (hds : ∀ d ∈ ds, IsRun d) :
    (s = d ∧ ds = []) ∨
      ∃ mark t, s = d ++ mark :: t ∧ (mark = '.' ∨ mark = '_') ∧ Written t ds := by
  induction s generalizing d ds with
  | nil =>
      obtain ⟨rfl, rfl⟩ := List.cons_eq_cons.1 hsplit
      exact .inl ⟨rfl, rfl⟩
  | cons c s ih =>
      by_cases hc : c = '.' ∨ c = '_'
      · rw [dotted_mark hc, List.splitOn_cons_eq_if_modifyHead,
          if_pos (beq_self_eq_true _)] at hsplit
        obtain ⟨rfl, hrest⟩ := List.cons_eq_cons.1 hsplit
        refine .inr ⟨c, s, rfl, hc, ?_⟩
        cases ds with
        | nil => exact absurd hrest (List.splitOn_ne_nil '.' _)
        | cons d ds =>
            obtain ⟨hd, hds⟩ := List.forall_mem_cons.1 hds
            rcases ih hrest hd.digits hds with ⟨rfl, rfl⟩ | ⟨mark, t, rfl, hmark, ht⟩
            · exact .last hd
            · exact .more hd hmark ht
      · obtain ⟨hdot, hline⟩ := not_or.1 hc
        have hkeep : dotted (c :: s) = c :: dotted s := by
          rw [dotted, List.map_cons, if_neg (by simpa using hline)]
          rfl
        rw [hkeep, List.splitOn_cons_eq_if_modifyHead, if_neg (by simpa using hdot)] at hsplit
        cases hpieces : (dotted s).splitOn '.' with
        | nil => exact absurd hpieces (List.splitOn_ne_nil '.' _)
        | cons e es =>
            rw [hpieces, List.modifyHead_cons] at hsplit
            obtain ⟨rfl, rfl⟩ := List.cons_eq_cons.1 hsplit
            have he := (List.forall_mem_cons.1 hd).2
            rcases ih hpieces he hds with ⟨rfl, rfl⟩ | ⟨mark, t, rfl, hmark, ht⟩
            · exact .inl ⟨rfl, rfl⟩
            · exact .inr ⟨mark, t, rfl, hmark, ht⟩

/-- A text is a number just when all of its pieces are runs of digits, and these are its
runs. -/
theorem written_iff_pieces :
    Written s ds ↔ Text.splitOn ['.'] (dotted s) = ds ∧ ∀ d ∈ ds, IsRun d := by
  constructor
  · exact Written.pieces
  · rintro ⟨hsplit, hds⟩
    rw [Text.splitOn_singleton] at hsplit
    cases ds with
    | nil => exact absurd hsplit (List.splitOn_ne_nil '.' _)
    | cons d ds =>
        obtain ⟨hd, hds⟩ := List.forall_mem_cons.1 hds
        rcases written_behind hsplit hd.digits hds with ⟨rfl, rfl⟩ | ⟨mark, t, rfl, hmark, ht⟩
        · exact .last hd
        · exact .more hd hmark ht

/-- The parts of a number without the zeros behind them; the first part stays, even if it
is a zero. -/
structure WithoutZeros (ps ns : List Nat) : Prop where
  nonempty : ps ≠ []
  last : ps.getLast? = some 0 → ps = [0]
  zeros : ∃ k, ns = ps ++ List.replicate k 0

theorem dropZeros_cons (n : Nat) {rest : List Nat} (hrest : rest ≠ []) :
    dropZeros (n :: rest) = if dropZeros rest = [0] then [n] else n :: dropZeros rest := by
  rw [dropZeros]
  · split
    · next hzero => rw [if_pos hzero]
    · next hzero => rw [if_neg hzero]
  · exact hrest

theorem dropZeros_withoutZeros {ns : List Nat} (hns : ns ≠ []) :
    WithoutZeros (dropZeros ns) ns := by
  induction ns with
  | nil => exact absurd rfl hns
  | cons n rest ih =>
      by_cases hrest : rest = []
      · subst hrest
        refine ⟨by simp [dropZeros], fun h => ?_, 0, by simp [dropZeros]⟩
        simpa [dropZeros] using h
      · obtain ⟨hne, hlast, k, hk⟩ := ih hrest
        rw [dropZeros_cons n hrest]
        split
        · next hzero =>
            rw [hzero] at hk
            refine ⟨by simp, fun h => by simpa using h, k + 1, ?_⟩
            rw [hk]
            rfl
        · next hzero =>
            refine ⟨by simp, fun h => ?_, k, by rw [List.cons_append, ← hk]⟩
            rw [List.getLast?_cons_of_ne_nil hne] at h
            exact absurd (hlast h) hzero

/-! ## Reading -/

variable {raw : String}

theorem readParts_short (h : ∀ d ∈ ds, d.length ≤ Text.digitLimit) :
    readParts ds = .ok (ds.map Text.natOfDigits) := by
  induction ds with
  | nil => rfl
  | cons d rest ih =>
      obtain ⟨hd, hrest⟩ := List.forall_mem_cons.1 h
      rw [readParts, if_neg (by omega), ih hrest]
      rfl

/-- A number begins with a digit. -/
theorem Written.head? (h : Written s ds) : ∃ c, s.head? = some c ∧ Text.isDigit c = true := by
  have hrun : ∀ {d t : List Char}, IsRun d →
      ∃ c, (d ++ t).head? = some c ∧ Text.isDigit c = true := by
    intro d t hd
    cases d with
    | nil => exact absurd rfl hd.nonempty
    | cons c d => exact ⟨c, rfl, hd.digits c (List.mem_cons_self ..)⟩
  cases h with
  | last hd => simpa using hrun (t := []) hd
  | more hd _ _ => exact hrun hd

/-- A word with a small letter in front is no number. -/
theorem Written.not_word (h : Written s ds) {w : Char} {word : List Char}
    (hw : isSmall w = true) : (Text.asciiLower s == w :: word) = false := by
  obtain ⟨c, hc, hdigit⟩ := h.head?
  rw [Text.isDigit_iff] at hdigit
  simp only [isSmall, Bool.and_eq_true, decide_eq_true_eq] at hw
  rw [beq_eq_false_iff_ne]
  intro heq
  have hhead : (Text.asciiLower s).head? = some c := by
    rw [Text.asciiLower, List.head?_map, hc, Option.map_some, if_neg]
    simp only [Bool.and_eq_true, decide_eq_true_eq]
    omega
  rw [heq] at hhead
  cases hhead
  omega

theorem parse_latest (h : Spells "latest".toList (Text.trim raw.toList)) :
    parse (some raw) = .ok .latest := by
  have hword : Text.asciiLower (Text.trim raw.toList) = "latest".toList :=
    (asciiLower_eq_iff (List.all_eq_true.1 (by decide))).2 h
  simp only [parse, hword, beq_self_eq_true, if_true]

theorem parse_current (h : Spells "current".toList (Text.trim raw.toList)) :
    parse (some raw) = .ok .current := by
  have hword : Text.asciiLower (Text.trim raw.toList) = "current".toList :=
    (asciiLower_eq_iff (List.all_eq_true.1 (by decide))).2 h
  have hother : ("current".toList == "latest".toList) = false := by decide
  simp only [parse, hword, hother, Bool.false_eq_true, beq_self_eq_true, if_false, if_true]

/-- A number of short runs is read as their values, without the zeros behind them. -/
theorem parse_written (h : Written (Text.trim raw.toList) ds)
    (hshort : ∀ d ∈ ds, d.length ≤ Text.digitLimit) :
    parse (some raw) = .ok (numeric (String.ofList (dotted (Text.trim raw.toList)))
      (dropZeros (ds.map Text.natOfDigits))) := by
  obtain ⟨hsplit, hruns⟩ := h.pieces
  have hlatest : (Text.asciiLower (Text.trim raw.toList) == "latest".toList) = false :=
    h.not_word (w := 'l') (by decide)
  have hcurrent : (Text.asciiLower (Text.trim raw.toList) == "current".toList) = false :=
    h.not_word (w := 'c') (by decide)
  have hempty : (ds.any fun d => d.isEmpty) = false := by
    rw [List.any_eq_false]
    intro d hd
    rw [List.isEmpty_iff]
    exact (hruns d hd).nonempty
  have hdigits : (ds.all fun d => d.all Text.isDigit) = true := by
    rw [List.all_eq_true]
    intro d hd
    rw [List.all_eq_true]
    exact (hruns d hd).digits
  simp only [parse, hlatest, hcurrent, hsplit, hempty, hdigits, readParts_short hshort,
    Bool.false_eq_true, if_false, Bool.not_true]

/-- A text of neither form is refused as an invalid version. -/
theorem parse_neither (hlatest : ¬ Spells "latest".toList (Text.trim raw.toList))
    (hcurrent : ¬ Spells "current".toList (Text.trim raw.toList))
    (hnumber : ∀ ds, ¬ Written (Text.trim raw.toList) ds) :
    parse (some raw) = .error (.invalid (.emptyVersionPart raw)) ∨
      parse (some raw) = .error (.invalid (.nonNumericVersion raw)) := by
  rw [← asciiLower_eq_iff (List.all_eq_true.1 (by decide)), ← beq_iff_eq] at hlatest hcurrent
  simp only [parse, if_neg hlatest, if_neg hcurrent]
  split
  · exact .inl rfl
  · next hempty =>
      split
      · exact .inr rfl
      · next hdigits =>
          refine absurd (written_iff_pieces.2 ⟨rfl, fun d hd => ⟨fun hnil => ?_, ?_⟩⟩) (hnumber _)
          · exact hempty (List.any_eq_true.2 ⟨d, hd, List.isEmpty_iff.2 hnil⟩)
          · rw [Bool.not_eq_true', Bool.not_eq_false, List.all_eq_true] at hdigits
            exact List.all_eq_true.1 (hdigits d hd)

/-! ## Short runs -/

theorem Written.run_isInfix (h : Written s ds) : ∀ d ∈ ds, d <:+: s := by
  induction h with
  | last hd => simp
  | @more d s ds mark hd hmark hs ih =>
      refine List.forall_mem_cons.2 ⟨List.infix_append' [] d (mark :: s), fun e he => ?_⟩
      have htail : s <:+ d ++ mark :: s := ⟨d ++ [mark], by simp⟩
      exact (ih e he).trans htail.isInfix

/-- No run of digits in a text is too long to be read. -/
def HasShortRuns (raw : String) : Prop :=
  ∀ d, d <:+: raw.toList → (∀ c ∈ d, Text.isDigit c = true) → d.length ≤ Text.digitLimit

theorem HasShortRuns.written (hraw : HasShortRuns raw)
    (h : Written (Text.trim raw.toList) ds) : ∀ d ∈ ds, d.length ≤ Text.digitLimit := by
  intro d hd
  have hinfix : d <:+: raw.toList := (h.run_isInfix d hd).trans (Text.trim_isInfix _)
  exact hraw d hinfix (h.pieces.2 d hd).digits

/-- A text is read as a version just when its trim is one of the two words or a number, and
is refused as an invalid version otherwise.  A number has the trim for its text, with dots
for the underscores, and the values of its runs for its parts, without the zeros behind
them.  What is read is read from its own text again. -/
theorem parse_iff_form (raw : String) (hraw : HasShortRuns raw) :
    ((∃ v, parse (some raw) = .ok v) ↔
      Spells "latest".toList (Text.trim raw.toList) ∨
      Spells "current".toList (Text.trim raw.toList) ∨
      ∃ ds, Written (Text.trim raw.toList) ds) ∧
    ((¬ ∃ v, parse (some raw) = .ok v) → ∃ cause, parse (some raw) = .error (.invalid cause)) ∧
    (Spells "latest".toList (Text.trim raw.toList) → parse (some raw) = .ok .latest) ∧
    (Spells "current".toList (Text.trim raw.toList) → parse (some raw) = .ok .current) ∧
    (∀ ds, Written (Text.trim raw.toList) ds → ∃ ps,
      parse (some raw) = .ok (numeric (String.ofList (dotted (Text.trim raw.toList))) ps) ∧
        WithoutZeros ps (ds.map fun d => Nat.ofDigitChars 10 d 0)) ∧
    ∀ v, parse (some raw) = .ok v → parse (some v.text) = .ok v := by
  have hnumber : ∀ ds, Written (Text.trim raw.toList) ds → ∃ ps,
      parse (some raw) = .ok (numeric (String.ofList (dotted (Text.trim raw.toList))) ps) ∧
        WithoutZeros ps (ds.map fun d => Nat.ofDigitChars 10 d 0) := by
    intro ds hds
    have hvalues : (ds.map fun d => Nat.ofDigitChars 10 d 0) = ds.map Text.natOfDigits :=
      List.map_congr_left fun d hd => (Text.natOfDigits_eq (hds.pieces.2 d hd).digits).symm
    have hne : ds.map Text.natOfDigits ≠ [] := by
      simpa using hds.runs_ne_nil
    rw [hvalues]
    exact ⟨_, parse_written hds (hraw.written hds), dropZeros_withoutZeros hne⟩
  refine ⟨⟨?_, ?_⟩, ?_, parse_latest, parse_current, hnumber, fun v hv => (parse_text hv).1⟩
  · rintro ⟨v, hv⟩
    by_contra hform
    obtain ⟨hlatest, hform⟩ := not_or.1 hform
    obtain ⟨hcurrent, hform⟩ := not_or.1 hform
    rcases parse_neither hlatest hcurrent (not_exists.1 hform) with h | h
    · cases h.symm.trans hv
    · cases h.symm.trans hv
  · rintro (h | h | ⟨ds, h⟩)
    · exact ⟨_, parse_latest h⟩
    · exact ⟨_, parse_current h⟩
    · obtain ⟨ps, hps, -⟩ := hnumber ds h
      exact ⟨_, hps⟩
  · intro hrefused
    have hlatest : ¬ Spells "latest".toList (Text.trim raw.toList) := by
      intro h
      exact hrefused ⟨_, parse_latest h⟩
    have hcurrent : ¬ Spells "current".toList (Text.trim raw.toList) := by
      intro h
      exact hrefused ⟨_, parse_current h⟩
    have hform : ∀ ds, ¬ Written (Text.trim raw.toList) ds := by
      intro ds h
      obtain ⟨ps, hps, -⟩ := hnumber ds h
      exact hrefused ⟨_, hps⟩
    rcases parse_neither hlatest hcurrent hform with h | h
    · exact ⟨_, h⟩
    · exact ⟨_, h⟩

/-- Leading zeros of a part are only shown, and a zero at the end is not even a part. -/
theorem parse_iff_form_zeros :
    HasShortRuns " 1_02.0 " ∧ Written "1_02.0".toList [['1'], ['0', '2'], ['0']] ∧
    ∃ ps, WithoutZeros ps [1, 2, 0] ∧ parse (some " 1_02.0 ") = .ok (numeric "1.02.0" ps) ∧
      parse (some "1.02.0") = .ok (numeric "1.02.0" ps) := by
  have hraw : HasShortRuns " 1_02.0 " := by
    intro d hd _
    exact hd.length_le.trans (by decide)
  have hrun : ∀ {d : List Char}, d ≠ [] → d.all Text.isDigit = true → IsRun d :=
    fun hne hall => ⟨hne, List.all_eq_true.1 hall⟩
  have hwritten : Written "1_02.0".toList [['1'], ['0', '2'], ['0']] :=
    .more (d := ['1']) (hrun (by decide) (by decide)) (.inr rfl)
      (.more (d := ['0', '2']) (hrun (by decide) (by decide)) (.inl rfl)
        (.last (hrun (by decide) (by decide))))
  have htrim : Text.trim " 1_02.0 ".toList = "1_02.0".toList := by decide
  obtain ⟨-, -, -, -, hnumber, hagain⟩ := parse_iff_form " 1_02.0 " hraw
  rw [htrim] at hnumber
  obtain ⟨ps, hparse, hps⟩ := hnumber _ hwritten
  exact ⟨hraw, hwritten, ps, hps, hparse, hagain _ hparse⟩

end MigrationConfig.Version
