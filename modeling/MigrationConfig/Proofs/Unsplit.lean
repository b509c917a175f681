/-
# Escaped keys are not split

Keys and values are written with different escapes, and one reader resolves both.  That
it gives them back is a matter of single characters.  That it finds a key whole is a
matter of what stands in front of a character.

Of any line the reader makes three parts: the key, separators and blanks, and the value
(`splitLine_parts`).  Whatever it skips in the middle has an even number of backslashes in
front, for nothing is skipped before the key is complete, and no backslash is
skipped.  The writer puts a backslash in front of each equals sign, colon and space of a
key, and all before that backslash is complete; so these have an odd number in
front (`goesOn_front_escapeKey`), and whatever follows the key on its line, they stay in
the key or belong to the value.

The second does happen: blanks other than the space have no escape in a key, and the
first of them ends it.
-/
import Mathlib.Algebra.Ring.Parity
import MigrationConfig.Proofs.EntryLine
import MigrationConfig.Proofs.Split

namespace MigrationConfig.PropertiesText

theorem goesOn_iff_odd {s : List Char} : goesOn s = true ↔ Odd (trailingBackslashes s) := by
  rw [goesOn, beq_iff_eq, Nat.odd_iff]

/-! ## Escaped characters on a line -/

section Escaped

variable {p q k g v : List Char} {c : Char}

/-- Where the key ends, the number of backslashes is even. -/
theorem Parts.key_ne (h : Parts (p ++ c :: q) k g v) (hp : goesOn p = true) : k ≠ p := by
  rintro rfl
  rcases h.ends with ⟨rfl, rfl⟩ | ⟨-, hcomplete⟩
  · have hline := h.line
    simp at hline
  · rw [hcomplete.goesOn] at hp
    cases hp

/-- A character with an odd number of backslashes in front is not skipped. -/
theorem Parts.keeps (h : Parts (p ++ c :: q) k g v) (hp : goesOn p = true) :
    p ++ [c] <+: k ∨ c :: q <:+ v := by
  have hk : k <+: p ++ c :: q := ⟨g ++ v, by rw [h.line, List.append_assoc]⟩
  have hv : v <:+ p ++ c :: q := ⟨k ++ g, h.line.symm⟩
  have hfront : p ++ [c] <+: p ++ c :: q := ⟨q, by rw [List.append_assoc, List.singleton_append]⟩
  have hback : c :: q <:+ p ++ c :: q := ⟨p, rfl⟩
  rcases List.prefix_or_prefix_of_prefix hfront hk with hin | hin
  · exact .inl hin
  rcases List.prefix_concat_iff.1 hin with rfl | ⟨w, rfl⟩
  · exact .inl (List.prefix_refl _)
  rcases List.suffix_or_suffix_of_suffix hback hv with hin | hin
  · exact .inr hin
  rcases List.suffix_cons_iff.1 hin with rfl | ⟨r, rfl⟩
  · exact .inr (List.suffix_refl _)
  -- it stands behind the key and before the value, so that all in front of it is complete
  exfalso
  have hskipped : w ++ c :: r = g := by
    have hline := h.line
    rw [List.append_assoc, List.append_assoc] at hline
    have hrest : w ++ c :: (r ++ v) = g ++ v := List.append_cancel_left hline
    rw [← List.cons_append, ← List.append_assoc] at hrest
    exact List.append_cancel_right hrest
  rcases h.ends with ⟨rfl, -⟩ | ⟨-, hcomplete⟩
  · simp at hskipped
  · have hw : IsFiller w := fun d hd => h.filler d (by simp [← hskipped, hd])
    rw [(hcomplete.append hw.complete).goesOn] at hp
    cases hp

end Escaped

/-! ## Written keys -/

theorem goesOn_front_escapeKeyChar {d c : Char} {p q : List Char}
    (h : escapeKeyChar d = p ++ c :: q) (hc : c ∈ ['=', ':', ' ']) : goesOn p = true := by
  rcases escapeKeyChar_cases d with ⟨hd, -⟩ | ⟨hd, -, hsep, hspace⟩
  · rw [hd] at h
    rcases List.cons_eq_append_iff.1 h with ⟨-, hcons⟩ | ⟨p', rfl, hrest⟩
    · obtain ⟨rfl, -⟩ := List.cons.inj hcons
      exact absurd hc (by decide)
    · rcases List.singleton_eq_append_iff.1 hrest with ⟨rfl, -⟩ | ⟨-, hnil⟩
      · rfl
      · cases hnil
  · rw [hd] at h
    rcases List.singleton_eq_append_iff.1 h with ⟨-, hcons⟩ | ⟨-, hnil⟩
    · obtain ⟨rfl, -⟩ := List.cons.inj hcons
      simp only [isSeparator, Bool.or_eq_false_iff, beq_eq_false_iff_ne] at hsep
      simp [hsep, hspace] at hc
    · cases hnil

/-- In a written key, an equals sign, a colon or a space has an odd number of backslashes
in front: the one that was written for it, behind a complete text. -/
theorem goesOn_front_escapeKey {s p q : List Char} {c : Char} (h : escapeKey s = p ++ c :: q)
    (hc : c ∈ ['=', ':', ' ']) : goesOn p = true := by
  induction s generalizing p with
  | nil =>
      have hnil : p ++ c :: q = [] := h.symm
      simp at hnil
  | cons d s ih =>
      have hd : Complete (escapeKeyChar d) := (escapeKeyChar_complete d).1
      rw [escapeKey_cons] at h
      rcases List.append_eq_append_iff.1 h with ⟨p', rfl, hrest⟩ | ⟨r, hchar, hrest⟩
      · rw [goesOn_append hd.goesOn]
        exact ih hrest
      · rcases List.cons_eq_append_iff.1 hrest with ⟨rfl, hs⟩ | ⟨r', rfl, -⟩
        · -- it would be the first character of what follows, with nothing in front
          cases ih (p := []) hs
        · exact goesOn_front_escapeKeyChar hchar hc

/-- A written key or value resolves to what it was written from, and does not end in an odd
number of backslashes.  A written key is not split at its equals signs, colons and spaces,
whatever follows it on the line: each has an odd number of backslashes in front, the key of the
line does not end there, and the character is in the key with all in front of it, or in
the value with all behind it.  When an equals sign follows, the key ends there, or before at the
first blank other than a space. -/
theorem escape_resolves_unsplit (s : List Char) :
    unescape (escapeValue s) = s ∧ unescape (escapeKey s) = s ∧
      ¬ Odd (trailingBackslashes (escapeValue s)) ∧ ¬ Odd (trailingBackslashes (escapeKey s)) ∧
        (∀ p c q, escapeKey s = p ++ c :: q → c ∈ ['=', ':', ' '] →
          Odd (trailingBackslashes p) ∧
            ∀ t, (splitLine false (escapeKey s ++ t)).1 ≠ p ∧
              (p ++ [c] <+: (splitLine false (escapeKey s ++ t)).1 ∨
                c :: (q ++ t) <:+ (splitLine false (escapeKey s ++ t)).2)) ∧
          ∀ t, (splitLine false (escapeKey s ++ '=' :: t)).1 = escapeKey (s.takeWhile isKeyChar) := by
  have even : ∀ {x : List Char}, Complete x → ¬ Odd (trailingBackslashes x) := by
    intro x hx hodd
    rw [← goesOn_iff_odd, hx.goesOn] at hodd
    cases hodd
  obtain ⟨hvalue, hself⟩ := escapeValue_complete s
  refine ⟨hself, unescape_escapeKey s, even hvalue, even (escapeKey_complete s), ?_, ?_⟩
  · intro p c q h hc
    have hp : goesOn p = true := goesOn_front_escapeKey h hc
    refine ⟨goesOn_iff_odd.1 hp, fun t => ?_⟩
    have hline : escapeKey s ++ t = p ++ c :: (q ++ t) := by
      rw [h, List.append_assoc, List.cons_append]
    obtain ⟨g, hparts⟩ := splitLine_parts (escapeKey s ++ t)
    rw [hline] at hparts ⊢
    exact ⟨hparts.key_ne hp, hparts.keeps hp⟩
  · intro t
    exact (splitLine_escapeKey rfl s).1

/-- A backslash, an equals sign, a tab and another equals sign.  The first equals sign is in the
key, behind three backslashes, the second in the value, for the tab ends the key. -/
theorem escape_resolves_unsplit_tab :
    let s := ['\\', '=', '\t', '=']
    let first := ['\\', '\\', '\\']
    let second := ['\\', '\\', '\\', '=', '\t', '\\']
    escapeKey s = first ++ '=' :: ['\t', '\\', '='] ∧ escapeKey s = second ++ '=' :: [] ∧
      Odd (trailingBackslashes first) ∧ Odd (trailingBackslashes second) ∧
        splitLine false (escapeKey s ++ ['=', 'v']) = (first ++ ['='], ['\\', '=', '=', 'v']) := by
  intro s first second
  have hfirst : escapeKey s = first ++ '=' :: ['\t', '\\', '='] := rfl
  have hsecond : escapeKey s = second ++ '=' :: [] := rfl
  have hequals : '=' ∈ ['=', ':', ' '] := List.mem_cons_self
  obtain ⟨-, -, -, -, hodd, -⟩ := escape_resolves_unsplit s
  exact ⟨hfirst, hsecond, (hodd first '=' _ hfirst hequals).1, (hodd second '=' _ hsecond hequals).1,
    rfl⟩

end MigrationConfig.PropertiesText
