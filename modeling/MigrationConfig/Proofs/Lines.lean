/-
# Lines and logical lines

How a text falls into lines, and lines into logical lines, as far as later proofs
need it: no line has a line break in it, a text up to a line feed is a line of
its own, and complete lines are logical lines one by one.  No character is made up
on the way.
-/
import MigrationConfig.Proofs.Escaped

namespace MigrationConfig

/-! ## Lines -/

namespace Text

theorem isBlank_of_isLineBreak {c : Char} (h : isLineBreak c = true) : isBlank c = true := by
  simp only [isLineBreak, isBlank, Bool.or_eq_true, Bool.and_eq_true, decide_eq_true_eq,
    beq_iff_eq] at h ⊢
  omega

theorem not_isLineBreak {c : Char} (h : isBlank c = false) : isLineBreak c = false := by
  rw [← Bool.not_eq_true]
  intro hbreak
  rw [isBlank_of_isLineBreak hbreak] at h
  cases h

theorem lines_cons {c : Char} (hc : isLineBreak c = false) (s : List Char) :
    lines (c :: s) = consFirst c (lines s) := by
  have hr : c ≠ '\r' := by
    rintro rfl
    exact absurd hc (by decide)
  rw [lines]
  · rw [hc]
    rfl
  · exact fun _ h _ => hr h

theorem lines_pair (t : List Char) : lines ('\r' :: '\n' :: t) = [] :: lines t := rfl

/-- A line break begins a new line, unless it is the first half of a pair. -/
theorem lines_cons_break {c : Char} (hc : isLineBreak c = true) {t : List Char}
    (ht : c = '\r' → t.head? ≠ some '\n') : lines (c :: t) = [] :: lines t := by
  rw [lines]
  · rw [if_pos hc]
  · intro rest h hs
    exact ht h (by rw [hs]; rfl)

theorem lines_break {c : Char} (hc : isLineBreak c = true) (s : List Char) :
    lines (c :: s) = [] :: lines s ∨ lines (c :: s) = lines s := by
  by_cases hpair : c = '\r' → s.head? ≠ some '\n'
  · exact .inl (lines_cons_break hc hpair)
  · obtain ⟨rfl, hs⟩ := Classical.not_imp.1 hpair
    obtain ⟨rest, rfl⟩ := List.head?_eq_some_iff.1 (Classical.not_not.1 hs)
    exact .inr (lines_pair rest)

/-- A text without line breaks belongs to the first line of what follows. -/
theorem lines_append {x s first : List Char} {others : List (List Char)}
    (hx : ∀ c ∈ x, isLineBreak c = false) (hs : lines s = first :: others) :
    lines (x ++ s) = (x ++ first) :: others := by
  induction x with
  | nil => exact hs
  | cons c x ih =>
      rw [List.cons_append, lines_cons (hx c (by simp)),
        ih fun d hd => hx d (List.mem_cons_of_mem _ hd)]
      rfl

/-- A text without line breaks is the line in front of a line feed. -/
theorem lines_append_feed {x : List Char} (hx : ∀ c ∈ x, isLineBreak c = false) (s : List Char) :
    lines (x ++ '\n' :: s) = x :: lines s := by
  have hfeed : lines ('\n' :: s) = [] :: lines s := lines_cons_break (by decide) (by simp)
  rw [lines_append hx hfeed, List.append_nil]

/-- A text without line breaks is one line. -/
theorem lines_of_not_break {x : List Char} (hne : x ≠ []) (hx : ∀ c ∈ x, isLineBreak c = false) :
    lines x = [x] := by
  obtain ⟨front, c, rfl⟩ := (List.eq_nil_or_concat' x).resolve_left hne
  have hlast : lines [c] = [[c]] := by
    rw [lines_cons (hx c (by simp))]
    rfl
  exact lines_append (fun d hd => hx d (by simp [hd])) hlast

theorem not_break_of_mem_lines {s l : List Char} (hl : l ∈ lines s) {c : Char} (hc : c ∈ l) :
    isLineBreak c = false := by
  induction s generalizing l with
  | nil => cases hl
  | cons d s ih =>
      cases hd : isLineBreak d with
      | true =>
          rcases lines_break hd s with h | h
          · rw [h] at hl
            rcases List.mem_cons.1 hl with rfl | hl
            · cases hc
            · exact ih hl hc
          · rw [h] at hl
            exact ih hl hc
      | false =>
          rw [lines_cons hd] at hl
          cases hs : lines s with
          | nil =>
              rw [hs, consFirst, List.mem_singleton] at hl
              rw [hl, List.mem_singleton] at hc
              rw [hc]
              exact hd
          | cons first rest =>
              rw [hs, consFirst] at hl
              rcases List.mem_cons.1 hl with rfl | hl
              · rcases List.mem_cons.1 hc with rfl | hc
                · exact hd
                · exact ih (by rw [hs]; simp) hc
              · exact ih (by rw [hs]; simp [hl]) hc

/-! ### Texts one after the other -/

section Pairs

variable {c d : Char} {rest : List Char}

theorem head?_ne_feed (hpair : ∀ s, d = '\r' → rest = '\n' :: s → False) :
    d = '\r' → rest.head? ≠ some '\n' := by
  intro hd hn
  obtain ⟨s, hs⟩ := List.head?_eq_some_iff.1 hn
  exact hpair s hd hs

/-- Another text completes a pair only where the two halves meet. -/
theorem head?_append_ne_feed (hopen : d = '\r' → rest.head? ≠ some '\n')
    (hmeet : ¬ (d = '\r' ∧ rest = [] ∧ c = '\n')) (t : List Char) :
    d = '\r' → (rest ++ c :: t).head? ≠ some '\n' := by
  intro hd hn
  cases rest with
  | nil => exact hmeet ⟨hd, rfl, Option.some.inj hn⟩
  | cons e rest => exact hopen hd hn

end Pairs

theorem lines_ne_nil {s : List Char} (hs : s ≠ []) : lines s ≠ [] := by
  induction s using lines.induct with
  | case1 => exact absurd rfl hs
  | case2 rest ih => simp [lines_pair]
  | case3 d rest hpair hd ih => simp [lines_cons_break hd (head?_ne_feed hpair)]
  | case4 d rest hpair hd ih =>
      rw [lines_cons (by simpa using hd)]
      cases lines rest <;> simp [consFirst]

/-- A text falls into the lines up to a line break and the lines behind it. -/
theorem lines_append_break {c : Char} (hc : isLineBreak c = true) {t : List Char}
    (ht : c = '\r' → t.head? ≠ some '\n') (s : List Char) :
    lines (s ++ c :: t) = lines (s ++ [c]) ++ lines t := by
  induction s using lines.induct with
  | case1 =>
      rw [List.nil_append, List.nil_append, lines_cons_break hc ht, lines_cons_break hc (by simp)]
      rfl
  | case2 rest ih =>
      simp only [List.cons_append] at ih ⊢
      rw [lines_pair, lines_pair, ih, List.cons_append]
  | case3 d rest hpair hd ih =>
      by_cases hmeet : d = '\r' ∧ rest = [] ∧ c = '\n'
      · obtain ⟨rfl, rfl, rfl⟩ := hmeet
        rfl
      · have hopen := head?_append_ne_feed (head?_ne_feed hpair) hmeet
        rw [List.cons_append, lines_cons_break hd (hopen t), ih, List.cons_append,
          lines_cons_break hd (hopen []), List.cons_append]
  | case4 d rest hpair hd ih =>
      have hd : isLineBreak d = false := by simpa using hd
      obtain ⟨l, ls, hl⟩ := List.exists_cons_of_ne_nil (lines_ne_nil (s := rest ++ [c]) (by simp))
      rw [List.cons_append, List.cons_append, lines_cons hd, lines_cons hd, ih, hl]
      rfl

/-- A line feed at the end of a text ends its last line, or else makes an empty one. -/
theorem lines_concat_feed (s : List Char) :
    lines (s ++ ['\n']) = lines s ∨ lines (s ++ ['\n']) = lines s ++ [[]] := by
  induction s using lines.induct with
  | case1 => exact .inr rfl
  | case2 rest ih =>
      rw [List.cons_append, List.cons_append, lines_pair, lines_pair]
      exact ih.imp (congrArg _) (congrArg _)
  | case3 d rest hpair hd ih =>
      by_cases hmeet : d = '\r' ∧ rest = [] ∧ '\n' = '\n'
      · obtain ⟨rfl, rfl, -⟩ := hmeet
        exact .inl rfl
      · have hopen := head?_ne_feed hpair
        rw [List.cons_append, lines_cons_break hd (head?_append_ne_feed hopen hmeet []),
          lines_cons_break hd hopen]
        exact ih.imp (congrArg _) (congrArg _)
  | case4 d rest hpair hd ih =>
      have hd : isLineBreak d = false := by simpa using hd
      rw [List.cons_append, lines_cons hd, lines_cons hd]
      by_cases hrest : rest = []
      · subst hrest
        exact .inl rfl
      · obtain ⟨l, ls, hl⟩ := List.exists_cons_of_ne_nil (lines_ne_nil hrest)
        rw [hl] at ih ⊢
        exact ih.imp (fun h => by rw [h]) fun h => by rw [h]; rfl

end Text

namespace PropertiesText

/-! ## Logical lines -/

/-- Complete lines are logical lines, except for those that are passed over. -/
theorem logicalLines_complete {ls : List (List Char)}
    (h : ∀ l ∈ ls, Complete (Text.trimStart l)) :
    logicalLines [] ls = (ls.map Text.trimStart).filter fun l => !isPassedOver l := by
  induction ls with
  | nil => rfl
  | cons l rest ih =>
      have hrest := ih fun l' hl' => h l' (by simp [hl'])
      rw [List.map_cons, List.filter_cons, ← hrest, logicalLines]
      cases hpass : isPassedOver (Text.trimStart l) with
      | true => simp [hpass]
      | false => simp [hpass, (h l (by simp)).goesOn]

theorem mem_logicalLines {c : Char} :
    ∀ {ls : List (List Char)} {begun l : List Char}, l ∈ logicalLines begun ls → c ∈ l →
      c ∈ begun ∨ ∃ l' ∈ ls, c ∈ l' := by
  intro ls
  induction ls with
  | nil =>
      intro begun l hl hc
      unfold logicalLines at hl
      split at hl
      · cases hl
      · rw [List.mem_singleton.1 hl] at hc
        exact .inl hc
  | cons raw rest ih =>
      intro begun l hl hc
      have later : (c ∈ begun ∨ ∃ l' ∈ rest, c ∈ l') → c ∈ begun ∨ ∃ l' ∈ raw :: rest, c ∈ l' :=
        fun h => h.imp_right fun ⟨l', hl', hc'⟩ => ⟨l', List.mem_cons_of_mem _ hl', hc'⟩
      have trimmed : (if begun.isEmpty then Text.trimStart raw else Text.trim raw) ⊆ raw := by
        split
        · exact (List.dropWhile_sublist _).subset
        · exact (Text.trim_sublist raw).subset
      rw [logicalLines] at hl
      -- from here on it does not matter how the line was trimmed
      generalize (if begun.isEmpty then Text.trimStart raw else Text.trim raw) = line at hl trimmed
      split at hl
      · exact later (ih hl hc)
      · split at hl
        · rcases ih hl hc with h | ⟨l', hl', hc'⟩
          · rcases List.mem_append.1 h with h | h
            · exact .inl h
            · exact .inr ⟨raw, by simp, trimmed (List.dropLast_subset _ h)⟩
          · exact .inr ⟨l', List.mem_cons_of_mem _ hl', hc'⟩
        · rcases List.mem_cons.1 hl with rfl | hl
          · rcases List.mem_append.1 hc with h | h
            · exact .inl h
            · exact .inr ⟨raw, by simp, trimmed h⟩
          · rcases ih hl hc with h | ⟨l', hl', hc'⟩
            · cases h
            · exact .inr ⟨l', List.mem_cons_of_mem _ hl', hc'⟩

end PropertiesText

end MigrationConfig
