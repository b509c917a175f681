/-
# Escaped texts

What the escapes of a properties text mean, apart from lines and separators.  A
text is *complete* when every backslash in it has a character behind it; a
complete text resolves piece by piece, and a line that is complete does not go
on in the next one.  What the writer makes of a key or a value is complete and
resolves to it again, so that only the trimming in between can lose anything: it
either does nothing or leaves a text that resolves to a shorter one
(`trim_eq_or_shorter`).
-/
import MigrationConfig.Proofs.Token
import MigrationConfig.Property.Reader
import MigrationConfig.Property.Writer

namespace MigrationConfig.PropertiesText

/-! ## Complete texts -/

/-- Every backslash has a character behind it, which it takes the meaning of. -/
inductive Complete : List Char → Prop
  | nil : Complete []
  | plain {c : Char} {s : List Char} : c ≠ '\\' → Complete s → Complete (c :: s)
  | pair (c : Char) {s : List Char} : Complete s → Complete ('\\' :: c :: s)

theorem unescape_cons {c : Char} (hc : c ≠ '\\') (s : List Char) :
    unescape (c :: s) = c :: unescape s := by
  rw [unescape]
  · exact fun h _ => hc h
  · exact fun _ _ h _ => hc h

theorem unescape_pair (c : Char) (s : List Char) :
    unescape ('\\' :: c :: s) = escaped c :: unescape s := rfl

/-- What neither ends a text as a backslash nor has something behind it as one is
no backslash. -/
theorem ne_backslash {c : Char} {s : List Char} (hnil : c = '\\' → s = [] → False)
    (hcons : ∀ d rest, c = '\\' → s = d :: rest → False) : c ≠ '\\' := by
  intro hc
  cases s with
  | nil => exact hnil hc rfl
  | cons d rest => exact hcons d rest hc rfl

theorem Complete.append {x y : List Char} (hx : Complete x) (hy : Complete y) :
    Complete (x ++ y) := by
  induction hx with
  | nil => exact hy
  | plain hc _ ih => exact .plain hc ih
  | pair c _ ih => exact .pair c ih

/-- A complete text resolves on its own. -/
theorem Complete.unescape_append {x : List Char} (hx : Complete x) (y : List Char) :
    unescape (x ++ y) = unescape x ++ unescape y := by
  induction hx with
  | nil => rfl
  | plain hc _ ih => rw [List.cons_append, unescape_cons hc, unescape_cons hc, ih, List.cons_append]
  | pair c _ ih =>
      rw [List.cons_append, List.cons_append, unescape_pair, unescape_pair, ih, List.cons_append]

theorem trailingBackslashes_append (x s : List Char) :
    trailingBackslashes (x ++ s) =
      if trailingBackslashes s = s.length then s.length + trailingBackslashes x
      else trailingBackslashes s := by
  unfold trailingBackslashes
  rw [List.reverse_append, List.takeWhile_append, List.length_reverse]
  split
  · rw [List.length_append, List.length_reverse]
  · rfl

/-- A complete line does not go on. -/
theorem Complete.goesOn {s : List Char} (hs : Complete s) : goesOn s = false := by
  have even : trailingBackslashes s % 2 = 0 := by
    induction hs with
    | nil => rfl
    | @plain c s hc _ ih =>
        have hone : trailingBackslashes [c] = 0 := by
          have hne : (c == '\\') = false := by simpa using hc
          simp [trailingBackslashes, hne]
        rw [show c :: s = [c] ++ s from rfl, trailingBackslashes_append, hone]
        split
        · omega
        · exact ih
    | @pair c s _ ih =>
        have htwo : trailingBackslashes ['\\', c] % 2 = 0 := by
          cases hc : c == '\\' with
          | true => simp [trailingBackslashes, hc]
          | false => simp [trailingBackslashes, hc]
        rw [show '\\' :: c :: s = ['\\', c] ++ s from rfl, trailingBackslashes_append]
        split
        · omega
        · exact ih
  rw [PropertiesText.goesOn, even]
  rfl

/-- Behind a text that does not go on, only what follows decides. -/
theorem goesOn_append {x : List Char} (hx : goesOn x = false) (s : List Char) :
    goesOn (x ++ s) = goesOn s := by
  unfold goesOn at hx ⊢
  rw [trailingBackslashes_append]
  split
  · next h =>
      have heven : trailingBackslashes x % 2 = 0 := by simpa using hx
      rw [h, Nat.add_mod, heven]
      simp
  · rfl

theorem complete_iff {s : List Char} : Complete s ↔ goesOn s = false := by
  refine ⟨Complete.goesOn, fun h => ?_⟩
  induction s using unescape.induct with
  | case1 => exact .nil
  | case2 => exact absurd h (by decide)
  | case3 c rest ih =>
      have hpair : Complete ['\\', c] := .pair c .nil
      rw [show '\\' :: c :: rest = ['\\', c] ++ rest from rfl, goesOn_append hpair.goesOn] at h
      exact .pair c (ih h)
  | case4 c rest hnil hcons ih =>
      have hc := ne_backslash hnil hcons
      have hplain : Complete [c] := .plain hc .nil
      rw [show c :: rest = [c] ++ rest from rfl, goesOn_append hplain.goesOn] at h
      exact .plain hc (ih h)

/-- Without backslashes nothing is escaped. -/
theorem complete_of_not_mem {s : List Char} (h : ∀ c ∈ s, c ≠ '\\') :
    Complete s ∧ unescape s = s := by
  induction s with
  | nil => exact ⟨.nil, rfl⟩
  | cons c s ih =>
      obtain ⟨hs, hu⟩ := ih fun d hd => h d (List.mem_cons_of_mem _ hd)
      have hc := h c (by simp)
      exact ⟨.plain hc hs, by rw [unescape_cons hc, hu]⟩

/-- A text that is written character by character, each of them complete and
resolved to itself, resolves to itself. -/
theorem complete_flatMap {f : Char → List Char} {s : List Char}
    (hf : ∀ c ∈ s, Complete (f c) ∧ unescape (f c) = [c]) :
    Complete (s.flatMap f) ∧ unescape (s.flatMap f) = s := by
  induction s with
  | nil => exact ⟨.nil, rfl⟩
  | cons c s ih =>
      obtain ⟨hc, hu⟩ := hf c (by simp)
      obtain ⟨ihc, ihu⟩ := ih fun d hd => hf d (List.mem_cons_of_mem _ hd)
      rw [List.flatMap_cons]
      exact ⟨hc.append ihc, by rw [hc.unescape_append, hu, ihu, List.singleton_append]⟩

/-! ## Written keys and values -/

theorem escapeKeyChar_complete (c : Char) :
    Complete (escapeKeyChar c) ∧ unescape (escapeKeyChar c) = [c] := by
  unfold escapeKeyChar
  split
  · next h =>
      simp only [Bool.or_eq_true, beq_iff_eq] at h
      refine ⟨.pair c .nil, ?_⟩
      rcases h with ((rfl | rfl) | rfl) | rfl <;> rfl
  · next h =>
      have hc : c ≠ '\\' := by
        rintro rfl
        simp at h
      exact ⟨.plain hc .nil, unescape_cons hc []⟩

theorem escapeValueChar_complete (c : Char) :
    Complete (escapeValueChar c) ∧ unescape (escapeValueChar c) = [c] := by
  unfold escapeValueChar
  split
  · next h => rw [eq_of_beq h]; exact ⟨.pair _ .nil, rfl⟩
  · next hc =>
      split
      · next h => rw [eq_of_beq h]; exact ⟨.pair _ .nil, rfl⟩
      · split
        · next h => rw [eq_of_beq h]; exact ⟨.pair _ .nil, rfl⟩
        · split
          · next h => rw [eq_of_beq h]; exact ⟨.pair _ .nil, rfl⟩
          · split
            · next h => rw [eq_of_beq h]; exact ⟨.pair _ .nil, rfl⟩
            · have hc : c ≠ '\\' := by simpa using hc
              exact ⟨.plain hc .nil, unescape_cons hc []⟩

theorem escapeKey_complete (s : List Char) : Complete (escapeKey s) :=
  (complete_flatMap fun c _ => escapeKeyChar_complete c).1

theorem unescape_escapeKey (s : List Char) : unescape (escapeKey s) = s :=
  (complete_flatMap fun c _ => escapeKeyChar_complete c).2

/-- A space in front is all that is written in another way than elsewhere. -/
theorem escapeValue_eq (s : List Char) :
    (∃ rest, s = ' ' :: rest ∧ escapeValue s = '\\' :: ' ' :: rest.flatMap escapeValueChar) ∨
      (s.head? ≠ some ' ' ∧ escapeValue s = s.flatMap escapeValueChar) := by
  cases s with
  | nil => exact .inr ⟨by simp, rfl⟩
  | cons c rest =>
      by_cases hc : c = ' '
      · subst hc
        exact .inl ⟨rest, rfl, rfl⟩
      · refine .inr ⟨by simpa using hc, ?_⟩
        unfold escapeValue
        split
        · next heq =>
            rw [List.flatMap_cons] at heq
            have hfirst : ∀ rest', escapeValueChar c ≠ ' ' :: rest' := by
              intro rest' h
              have hu := (escapeValueChar_complete c).2
              rw [h, unescape_cons (by decide)] at hu
              exact hc (List.cons.inj hu).1.symm
            cases hchar : escapeValueChar c with
            | nil =>
                have hu := (escapeValueChar_complete c).2
                rw [hchar] at hu
                cases hu
            | cons d ds =>
                rw [hchar, List.cons_append] at heq
                rw [(List.cons.inj heq).1] at hchar
                exact absurd hchar (hfirst ds)
        · rfl

theorem escapeValue_complete (s : List Char) :
    Complete (escapeValue s) ∧ unescape (escapeValue s) = s := by
  rcases escapeValue_eq s with ⟨rest, rfl, h⟩ | ⟨-, h⟩
  · have hrest := complete_flatMap (s := rest) fun c _ => escapeValueChar_complete c
    rw [h]
    exact ⟨.pair _ hrest.1, by rw [unescape_pair, hrest.2]; rfl⟩
  · rw [h]
    exact complete_flatMap fun c _ => escapeValueChar_complete c

/-! ## Trimming before the escapes are resolved -/

theorem length_unescape_concat {c : Char} (hc : c ≠ '\\') (s : List Char) :
    (unescape (s ++ [c])).length = (unescape s).length + 1 := by
  induction s using unescape.induct with
  | case1 => rw [List.nil_append, unescape_cons hc]; rfl
  | case2 => rfl
  | case3 d rest ih =>
      rw [List.cons_append, List.cons_append, unescape_pair, unescape_pair, List.length_cons, ih,
        List.length_cons]
  | case4 d rest h₁ h₂ ih =>
      have hd := ne_backslash h₁ h₂
      rw [List.cons_append, unescape_cons hd, unescape_cons hd, List.length_cons, ih,
        List.length_cons]

theorem ne_backslash_of_isBlank {c : Char} (h : Text.isBlank c = true) : c ≠ '\\' := by
  rintro rfl
  exact absurd h (by decide)

/-- Trimming does nothing, or what is left resolves to a shorter text. -/
theorem trim_eq_or_shorter (s : List Char) :
    Text.trim s = s ∨ (unescape (Text.trim s)).length < (unescape s).length := by
  have le_of : ∀ {x : List Char},
      Text.trim x = x ∨ (unescape (Text.trim x)).length < (unescape x).length →
        (unescape (Text.trim x)).length ≤ (unescape x).length := by
    intro x h
    rcases h with h | h
    · rw [h]
    · exact Nat.le_of_lt h
  -- on the length, for a blank goes at one end or the other
  induction hn : s.length using Nat.strongRecOn generalizing s with
  | ind n ih =>
      by_cases hself : Text.trim s = s
      · exact .inl hself
      · right
        rw [Text.trim_eq_self_iff, not_and_or] at hself
        rcases hself with hstart | hend
        · obtain ⟨c, hc, hblank⟩ : ∃ c, s.head? = some c ∧ Text.isBlank c = true := by
            simpa using hstart
          obtain ⟨rest, rfl⟩ := List.head?_eq_some_iff.1 hc
          rw [Text.trim_cons_blank hblank, unescape_cons (ne_backslash_of_isBlank hblank)]
          have hrest := le_of (ih rest.length (by rw [← hn]; simp) rest rfl)
          exact Nat.lt_succ_of_le hrest
        · obtain ⟨c, hc, hblank⟩ : ∃ c, s.getLast? = some c ∧ Text.isBlank c = true := by
            simpa using hend
          obtain ⟨front, rfl⟩ := List.getLast?_eq_some_iff.1 hc
          rw [Text.trim_concat_blank hblank,
            length_unescape_concat (ne_backslash_of_isBlank hblank)]
          have hfront := le_of (ih front.length (by rw [← hn]; simp) front rfl)
          exact Nat.lt_succ_of_le hfront

/-- What comes out of escapes was there before, or is one of the four control
characters. -/
theorem mem_unescape {c : Char} {s : List Char} (h : c ∈ unescape s) :
    c ∈ s ∨ c ∈ ['\t', '\n', '\r', '\x0c'] := by
  have escaped_cases : ∀ d : Char, escaped d = d ∨ escaped d ∈ ['\t', '\n', '\r', '\x0c'] := by
    intro d
    unfold escaped
    split
    · simp
    · split
      · simp
      · split
        · simp
        · split
          · simp
          · exact .inl rfl
  induction s using unescape.induct with
  | case1 => cases h
  | case2 => cases h
  | case3 d rest ih =>
      rw [unescape_pair] at h
      rcases List.mem_cons.1 h with rfl | h
      · rcases escaped_cases d with hd | hd
        · left
          rw [hd]
          simp
        · exact .inr hd
      · rcases ih h with h | h
        · exact .inl (List.mem_cons_of_mem _ (List.mem_cons_of_mem _ h))
        · exact .inr h
  | case4 d rest h₁ h₂ ih =>
      rw [unescape_cons (ne_backslash h₁ h₂)] at h
      rcases List.mem_cons.1 h with rfl | h
      · simp
      · rcases ih h with h | h
        · exact .inl (List.mem_cons_of_mem _ h)
        · exact .inr h

end MigrationConfig.PropertiesText
