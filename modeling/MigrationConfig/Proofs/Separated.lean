/-
# Keys and values on a line

A key that needs no escapes may be told from its value in three ways: by an equals
sign, by a colon, each with blanks around it or not, or by blanks alone.  The line may
be indented.  Which way it is, and how many blanks there are, does not matter to the
entry (`read_separated`), and neither do the separators and escapes in the value, for
nothing of the value is looked at before the key has ended.

What the value itself must be like shows what the reader does besides: it trims the
value, it drops one separator behind blanks, and it takes a line that ends in an odd
number of backslashes to go on.
-/
import MigrationConfig.Proofs.Scan
import MigrationConfig.Proofs.Split

namespace MigrationConfig.PropertiesText

open Text (isBlank isLineBreak)

/-- A key that needs no escapes and does not make its line a comment. -/
structure BareKey (k : List Char) : Prop where
  bare : ∀ c ∈ k, isBlank c = false ∧ isSeparator c = false ∧ c ≠ '\\'
  /-- it is not empty, and begins with neither mark of a comment -/
  begins : isPassedOver k = false

/-- A text that stands on a line as a value, with or without escapes. -/
structure LineValue (v : List Char) : Prop where
  noBreak : ∀ c ∈ v, isLineBreak c = false
  trimmed : Text.trim v = v
  first : ∀ c, v.head? = some c → isSeparator c = false
  even : goesOn v = false

/-- What stands between a key and the value `v`: a separator with blanks around it, or
blanks alone, which are there at least if the value is. -/
inductive Between (v : List Char) : List Char → Prop where
  | separator {w₁ w₂ : List Char} {c : Char} (h₁ : IsGap w₁) (hc : isSeparator c = true)
      (h₂ : IsGap w₂) : Between v (w₁ ++ c :: w₂)
  | blanks {w : List Char} (hw : IsGap w) (h : w ≠ [] ∨ v = []) : Between v w

theorem BareKey.ne_nil {k : List Char} (hk : BareKey k) : k ≠ [] := by
  rintro rfl
  exact absurd hk.begins (by decide)

section Line

variable {w k g v : List Char}

/-- What is left for the value is the value, perhaps behind blanks. -/
theorem Between.split (hg : Between v g) (hv : LineValue v) :
    ∃ s, IsGap s ∧ splitLine false (g ++ v) = ([], s ++ v) := by
  have hself : afterBlanks v = v := by
    refine afterBlanks_eq_self fun c hc => ⟨?_, hv.first c hc⟩
    exact (Text.trim_eq_self_iff.1 hv.trimmed).1 c hc
  cases hg with
  | @separator w₁ w₂ c h₁ hc h₂ =>
      refine ⟨w₂, h₂, ?_⟩
      rw [List.append_assoc, List.cons_append]
      cases w₁ with
      | nil => exact splitLine_separator hc (w₂ ++ v)
      | cons d w₁ =>
          have hrest : ∀ e ∈ w₁, isBlank e = true :=
            fun e he => h₁.isBlank e (List.mem_cons_of_mem _ he)
          rw [List.cons_append, splitLine_blank (h₁.isBlank d (by simp)),
            afterBlanks_append hrest, afterBlanks_separator hc]
  | blanks hw h =>
      refine ⟨[], by simp [IsGap], ?_⟩
      cases g with
      | nil =>
          rw [h.resolve_left (by simp)]
          rfl
      | cons d g =>
          have hrest : ∀ e ∈ g, isBlank e = true :=
            fun e he => hw.isBlank e (List.mem_cons_of_mem _ he)
          rw [List.cons_append, splitLine_blank (hw.isBlank d (by simp)),
            afterBlanks_append hrest, hself, List.nil_append]

/-- Nothing between a key and a value ends the line or escapes what follows. -/
theorem Between.not_break (hg : Between v g) :
    ∀ c ∈ g, isLineBreak c = false ∧ c ≠ '\\' := by
  have hgap : ∀ {w : List Char}, IsGap w → ∀ c ∈ w, isLineBreak c = false ∧ c ≠ '\\' :=
    fun hw c hc => ⟨hw.not_break c hc, ne_backslash_of_isBlank (hw.isBlank c hc)⟩
  cases hg with
  | @separator w₁ w₂ c h₁ hc h₂ =>
      intro d hd
      rcases List.mem_append.1 hd with hd | hd
      · exact hgap h₁ d hd
      · rcases List.mem_cons.1 hd with rfl | hd
        · rw [isSeparator, Bool.or_eq_true, beq_iff_eq, beq_iff_eq] at hc
          rcases hc with rfl | rfl <;> decide
        · exact hgap h₂ d hd
  | blanks hw h => exact hgap hw

/-- The logical line of a line: only the blanks in front are gone. -/
theorem logicalLines_separated (hw : IsGap w) (hk : BareKey k) (hg : Between v g)
    (hv : LineValue v) : logicalLines [] [w ++ k ++ g ++ v] = [k ++ g ++ v] := by
  have hstart : Text.trimStart (w ++ k ++ g ++ v) = k ++ g ++ v := by
    rw [List.append_assoc, List.append_assoc, Text.trimStart_blanks_append hw.isBlank,
      ← List.append_assoc, Text.trimStart_eq_self_iff]
    intro c hc
    rw [List.append_assoc, List.head?_append_of_ne_nil _ hk.ne_nil] at hc
    exact (hk.bare c (List.mem_of_mem_head? hc)).1
  have hslash : ∀ c ∈ k ++ g, c ≠ '\\' := by
    intro c hc
    rcases List.mem_append.1 hc with hc | hc
    · exact (hk.bare c hc).2.2
    · exact (hg.not_break c hc).2
  have heven : goesOn (k ++ g ++ v) = false :=
    (goesOn_append (complete_of_not_mem hslash).1.goesOn v).trans hv.even
  have hpass : isPassedOver (k ++ g ++ v) = false := by
    rw [List.append_assoc]
    exact isPassedOver_append hk.begins _
  rw [logicalLines_cons, takeLine_first (by rw [hstart]; exact hpass), hstart, heven]
  rfl

theorem entry?_separated (hk : BareKey k) (hg : Between v g) (hv : LineValue v) :
    entry? (k ++ g ++ v) = some (String.ofList k, String.ofList (unescape v)) := by
  obtain ⟨s, hs, hsplit⟩ := hg.split hv
  have hline : splitLine false (k ++ g ++ v) = (k, s ++ v) := by
    rw [List.append_assoc, splitLine_bare hk.bare, hsplit, List.append_nil]
  have hkey : Text.trim k = k := Text.trim_of_no_blank fun c hc => (hk.bare c hc).1
  have hplain : unescape k = k := (complete_of_not_mem fun c hc => (hk.bare c hc).2.2).2
  have hvalue : Text.trim (s ++ v) = v :=
    (Text.trim_blanks_append hs.isBlank v).trans hv.trimmed
  have hne : Text.trim (splitLine false (k ++ g ++ v)).1 ≠ [] := by
    rw [hline, hkey]
    exact hk.ne_nil
  rw [entry?_of_key hne, hline, hkey, hvalue, hplain]

/-- A bare key and a value with any of the separators between them, alone in a text, are
read as one entry. -/
theorem read_separated (hw : IsGap w) (hk : BareKey k) (hg : Between v g) (hv : LineValue v) :
    (read (w ++ k ++ g ++ v)).entries = [(String.ofList k, String.ofList (unescape v))] ∧
      (read (w ++ k ++ g ++ v ++ ['\n'])).entries =
        [(String.ofList k, String.ofList (unescape v))] := by
  have hbreak : ∀ c ∈ w ++ k ++ g ++ v, isLineBreak c = false := by
    intro c hc
    simp only [List.mem_append] at hc
    rcases hc with ((hc | hc) | hc) | hc
    · exact hw.not_break c hc
    · exact Text.not_isLineBreak (hk.bare c hc).1
    · exact (hg.not_break c hc).1
    · exact hv.noBreak c hc
  have hne : w ++ k ++ g ++ v ≠ [] := by simp [hk.ne_nil]
  have hone : ∀ {t : List Char}, Text.lines t = [w ++ k ++ g ++ v] →
      (read t).entries = [(String.ofList k, String.ofList (unescape v))] := by
    intro t ht
    rw [read, entries, ht, logicalLines_separated hw hk hg hv, List.filterMap_cons,
      entry?_separated hk hg hv]
    rfl
  exact ⟨hone (Text.lines_of_not_break hne hbreak), hone (Text.lines_append_feed hbreak [])⟩

end Line

/-- A value with a separator and escapes in it, behind an equals sign, a colon and blanks. -/
theorem read_separated_url :
    let w := "  ".toList
    let k := "flyway.url".toList
    let v := "jdbc:h2:x\\=1 \\u".toList
    IsGap w ∧ BareKey k ∧ LineValue v ∧
      ∀ g ∈ ["=".toList, " \t: ".toList, "\t".toList], Between v g ∧
        (read (w ++ k ++ g ++ v)).entries = [("flyway.url", "jdbc:h2:x=1 u")] ∧
          (read (w ++ k ++ g ++ v ++ ['\n'])).entries = [("flyway.url", "jdbc:h2:x=1 u")] := by
  intro w k v
  have hw : IsGap w := by decide
  have hk : BareKey k := ⟨List.forall_iff_forall_mem.1 (by decide +kernel), by decide +kernel⟩
  have hv : LineValue v := by
    refine ⟨List.forall_iff_forall_mem.1 (by decide +kernel), by decide +kernel, fun c hc => ?_,
      by decide +kernel⟩
    obtain rfl := Option.some.inj hc
    decide
  have hplain : String.ofList (unescape v) = "jdbc:h2:x=1 u" := by decide +kernel
  refine ⟨hw, hk, hv, fun g hg => ?_⟩
  have hbetween : Between v g := by
    simp only [List.mem_cons, List.not_mem_nil, or_false] at hg
    rcases hg with rfl | rfl | rfl
    · exact @Between.separator v [] [] '=' (by decide) rfl (by decide)
    · exact @Between.separator v [' ', '\t'] [' '] ':' (by decide) rfl (by decide)
    · exact .blanks (by decide) (.inl (by decide))
  have hread := read_separated hw hk hbetween hv
  rw [hplain, String.ofList_toList] at hread
  exact ⟨hbetween, hread⟩

end MigrationConfig.PropertiesText
