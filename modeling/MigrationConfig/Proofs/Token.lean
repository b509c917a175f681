/-
# Trimmed texts and tokens

Trimming is met in every reader of the library, so what it does is said here
once: a text is its own trimming when no blank stands at either end, and blanks
that are added at an end make no difference.

A list of tokens that is written with commas is read back as it was.  This asks of
the items what a token always has: they are trimmed, they are not empty, and they
have no comma.
-/
import Mathlib.Data.List.DropRight
import MigrationConfig.Text.Token

namespace MigrationConfig.Text

/-! ## Trimming -/

section Trim

variable {s : List Char} {c : Char}

theorem trimStart_eq_self_iff : trimStart s = s ↔ ∀ c, s.head? = some c → isBlank c = false := by
  cases s with
  | nil => simp [trimStart]
  | cons c cs =>
      rw [trimStart, List.dropWhile_eq_self_iff]
      simp

theorem trimEnd_eq_self_iff :
    trimEnd s = s ↔ ∀ c, s.getLast? = some c → isBlank c = false := by
  rw [show trimEnd s = s.rdropWhile isBlank from rfl, List.rdropWhile_eq_self_iff]
  constructor
  · intro h c hc
    have hne : s ≠ [] := by rintro rfl; cases hc
    rw [List.getLast?_eq_some_getLast hne] at hc
    simpa [← Option.some.inj hc] using h hne
  · intro h hne
    simp [h _ (List.getLast?_eq_some_getLast hne)]

theorem trimEnd_isPrefix (s : List Char) : trimEnd s <+: s := List.rdropWhile_prefix isBlank s

theorem trim_isInfix (s : List Char) : trim s <:+: s :=
  (trimEnd_isPrefix _).isInfix.trans (List.dropWhile_suffix _).isInfix

theorem trim_sublist (s : List Char) : (trim s).Sublist s := (trim_isInfix s).sublist

theorem mem_of_mem_trim (h : c ∈ trim s) : c ∈ s := (trim_sublist s).subset h

/-- A text is its own trimming when no blank stands at either end. -/
theorem trim_eq_self_iff :
    trim s = s ↔ (∀ c, s.head? = some c → isBlank c = false) ∧
      ∀ c, s.getLast? = some c → isBlank c = false := by
  rw [← trimStart_eq_self_iff, ← trimEnd_eq_self_iff]
  constructor
  · intro h
    have hstart : trimStart s = s := by
      refine (List.dropWhile_sublist isBlank).eq_of_length_le ?_
      have hle := (trimEnd_isPrefix (trimStart s)).length_le
      rw [show trimEnd (trimStart s) = s from h] at hle
      exact hle
    refine ⟨hstart, ?_⟩
    rw [trim, hstart] at h
    exact h
  · rintro ⟨h₁, h₂⟩
    rw [trim, h₁, h₂]

theorem head?_trim (h : (trim s).head? = some c) : isBlank c = false := by
  have hstart : trimStart (trimStart s) = trimStart s := List.dropWhile_idempotent isBlank s
  obtain ⟨t, ht⟩ := trimEnd_isPrefix (trimStart s)
  refine trimStart_eq_self_iff.1 hstart c ?_
  rw [← ht, List.head?_append]
  rw [trim] at h
  rw [h]
  rfl

theorem getLast?_trim (h : (trim s).getLast? = some c) : isBlank c = false :=
  trimEnd_eq_self_iff.1 (List.rdropWhile_idempotent isBlank (trimStart s)) c h

theorem trim_trim (s : List Char) : trim (trim s) = trim s :=
  trim_eq_self_iff.2 ⟨fun _ => head?_trim, fun _ => getLast?_trim⟩

theorem trim_of_no_blank (h : ∀ c ∈ s, isBlank c = false) : trim s = s :=
  trim_eq_self_iff.2 ⟨fun c hc => h c (List.mem_of_mem_head? hc),
    fun c hc => h c (List.mem_of_mem_getLast? hc)⟩

theorem trim_eq_nil_iff : trim s = [] ↔ ∀ c ∈ s, isBlank c = true := by
  rw [trim, show trimEnd (trimStart s) = (trimStart s).rdropWhile isBlank from rfl,
    List.rdropWhile_eq_nil_iff]
  constructor
  · intro h
    have hnil : trimStart s = [] := by
      cases ht : trimStart s with
      | nil => rfl
      | cons c cs =>
          have hstart : trimStart (trimStart s) = trimStart s :=
            List.dropWhile_idempotent isBlank s
          have hc := trimStart_eq_self_iff.1 hstart c (by rw [ht]; rfl)
          rw [h c (by rw [ht]; simp)] at hc
          cases hc
    exact List.dropWhile_eq_nil_iff.1 hnil
  · intro h c hc
    exact h c ((List.dropWhile_sublist isBlank).subset hc)

theorem trim_cons_blank (h : isBlank c = true) (s : List Char) : trim (c :: s) = trim s := by
  rw [trim, trimStart, List.dropWhile_cons_of_pos h]
  rfl

theorem trimStart_append (hs : trimStart s ≠ []) (t : List Char) :
    trimStart (s ++ t) = trimStart s ++ t := by
  rw [trimStart, List.dropWhile_append, if_neg]
  · rfl
  · rw [List.isEmpty_iff]
    exact hs

theorem trim_concat_blank (h : isBlank c = true) (s : List Char) : trim (s ++ [c]) = trim s := by
  by_cases hs : ∀ c ∈ s, isBlank c = true
  · rw [trim_eq_nil_iff.2 hs, trim_eq_nil_iff]
    intro d hd
    rcases List.mem_append.1 hd with hd | hd
    · exact hs d hd
    · rw [List.mem_singleton.1 hd]
      exact h
  · have hne : trimStart s ≠ [] := by
      intro hnil
      exact hs (List.dropWhile_eq_nil_iff.1 hnil)
    rw [trim, trimStart_append hne]
    exact List.rdropWhile_concat_pos isBlank (trimStart s) c h

theorem trimStart_blanks_append (hs : ∀ c ∈ s, isBlank c = true) (t : List Char) :
    trimStart (s ++ t) = trimStart t :=
  List.dropWhile_append_of_pos hs

theorem trim_blanks_append (hs : ∀ c ∈ s, isBlank c = true) (t : List Char) :
    trim (s ++ t) = trim t := by
  rw [trim, trimStart_blanks_append hs]
  rfl

theorem trim_append_blanks (hs : ∀ c ∈ s, isBlank c = true) (t : List Char) :
    trim (t ++ s) = trim t := by
  induction s generalizing t with
  | nil => rw [List.append_nil]
  | cons c s ih =>
      rw [List.append_cons, ih fun d hd => hs d (List.mem_cons_of_mem _ hd),
        trim_concat_blank (hs c (by simp))]

/-- What is trimmed at the end is blank. -/
theorem exists_trimEnd_append (s : List Char) :
    ∃ blanks, (∀ c ∈ blanks, isBlank c = true) ∧ s = trimEnd s ++ blanks := by
  refine ⟨(s.reverse.takeWhile isBlank).reverse, fun c hc => ?_, ?_⟩
  · exact List.mem_takeWhile_imp (List.mem_reverse.1 hc)
  · rw [trimEnd, ← List.reverse_append, List.takeWhile_append_dropWhile, List.reverse_reverse]

theorem isBlankText_eq_true {t : String} :
    isBlankText t = true ↔ ∀ c ∈ t.toList, isBlank c = true := by
  rw [isBlankText, List.all_eq_true]

end Trim

/-! ## Pieces between separators -/

section Split

variable {a : Char} {s p : List Char}

theorem splitOn_singleton_cons (a c : Char) (rest : List Char) :
    splitOn [a] (c :: rest) =
      if List.isPrefixOf [a] (c :: rest) then [] :: splitOn [a] rest
      else match splitOn [a] rest with
        | [] => [[c]]
        | piece :: pieces => (c :: piece) :: pieces := rfl

theorem splitOn_singleton (a : Char) (s : List Char) : splitOn [a] s = s.splitOn a := by
  induction s with
  | nil => rfl
  | cons c rest ih =>
      rw [splitOn_singleton_cons, List.splitOn_cons_eq_if_modifyHead, ih]
      by_cases hc : c = a
      · simp [hc, List.isPrefixOf]
      · have hne : (a == c) = false := by simpa using Ne.symm hc
        rw [if_neg (by simp [List.isPrefixOf, hne]), if_neg (by simpa using hc)]
        cases hsplit : rest.splitOn a with
        | nil => exact absurd hsplit (List.splitOn_ne_nil a rest)
        | cons piece pieces => rfl

theorem not_mem_of_mem_splitOn (h : p ∈ s.splitOn a) : a ∉ p := by
  induction s generalizing p with
  | nil =>
      rw [List.splitOn_nil, List.mem_singleton] at h
      rw [h]
      simp
  | cons c rest ih =>
      rw [List.splitOn_cons_eq_if_modifyHead] at h
      split at h
      · rcases List.mem_cons.1 h with rfl | h
        · simp
        · exact ih h
      · next hc =>
          cases hsplit : rest.splitOn a with
          | nil => exact absurd hsplit (List.splitOn_ne_nil a rest)
          | cons piece pieces =>
              rw [hsplit, List.modifyHead_cons] at h
              rcases List.mem_cons.1 h with rfl | h
              · have hp : a ∉ piece := ih (by rw [hsplit]; simp)
                have hac : a ≠ c := by rintro rfl; simp at hc
                simp [hp, hac]
              · exact ih (by rw [hsplit]; simp [h])

theorem sublist_of_mem_splitOn (h : p ∈ s.splitOn a) : p.Sublist s := by
  induction s generalizing p with
  | nil =>
      rw [List.splitOn_nil, List.mem_singleton] at h
      rw [h]
  | cons c rest ih =>
      rw [List.splitOn_cons_eq_if_modifyHead] at h
      split at h
      · rcases List.mem_cons.1 h with rfl | h
        · exact List.nil_sublist _
        · exact (ih h).cons c
      · cases hsplit : rest.splitOn a with
        | nil => exact absurd hsplit (List.splitOn_ne_nil a rest)
        | cons piece pieces =>
            rw [hsplit] at h ih
            rw [List.modifyHead_cons] at h
            rcases List.mem_cons.1 h with rfl | h
            · exact (ih (List.mem_cons_self ..)).cons_cons c
            · exact (ih (List.mem_cons_of_mem _ h)).cons c

/-- Every character stands in one of the pieces or is the separator. -/
theorem mem_splitOn {c : Char} (hc : c ∈ s) : c = a ∨ ∃ p ∈ s.splitOn a, c ∈ p := by
  induction s with
  | nil => cases hc
  | cons d rest ih =>
      rw [List.splitOn_cons_eq_if_modifyHead]
      by_cases hd : d = a
      · rw [if_pos (by simpa using hd)]
        rcases List.mem_cons.1 hc with rfl | hc
        · exact .inl hd
        · exact (ih hc).imp_right fun ⟨p, hp, hcp⟩ => ⟨p, List.mem_cons_of_mem _ hp, hcp⟩
      · rw [if_neg (by simpa using hd)]
        cases hsplit : rest.splitOn a with
        | nil => exact absurd hsplit (List.splitOn_ne_nil a rest)
        | cons piece pieces =>
            rw [hsplit] at ih
            rw [List.modifyHead_cons]
            rcases List.mem_cons.1 hc with rfl | hc
            · exact .inr ⟨c :: piece, by simp, by simp⟩
            · rcases ih hc with h | ⟨p, hp, hcp⟩
              · exact .inl h
              · rcases List.mem_cons.1 hp with rfl | hp
                · exact .inr ⟨d :: p, by simp, List.mem_cons_of_mem _ hcp⟩
                · exact .inr ⟨p, List.mem_cons_of_mem _ hp, hcp⟩

end Split

/-! ## Tokens -/

/-- What a token is like: trimmed, not empty, without a comma. -/
structure IsToken (t : String) : Prop where
  trimmed : trim t.toList = t.toList
  nonempty : t ≠ ""
  comma : ',' ∉ t.toList

theorem tokenize_isToken {s t : String} (h : t ∈ tokenize s) : IsToken t := by
  rw [tokenize, tokens, splitOn_singleton, List.mem_map] at h
  obtain ⟨cs, hcs, rfl⟩ := h
  obtain ⟨hmem, hne⟩ := List.mem_filter.1 hcs
  obtain ⟨p, hp, rfl⟩ := List.mem_map.1 hmem
  refine ⟨by rw [String.toList_ofList, trim_trim], fun he => ?_, fun hc => ?_⟩
  · rw [String.ofList_eq_empty_iff] at he
    rw [he] at hne
    cases hne
  · rw [String.toList_ofList] at hc
    exact not_mem_of_mem_splitOn hp (mem_of_mem_trim hc)

theorem tokenize_blank {s : String} (h : isBlankText s = true) : tokenize s = [] := by
  rw [isBlankText_eq_true] at h
  rw [tokenize, List.map_eq_nil_iff, tokens, List.filter_eq_nil_iff]
  intro t ht
  obtain ⟨p, hp, rfl⟩ := List.mem_map.1 ht
  rw [splitOn_singleton] at hp
  have hnil : trim p = [] :=
    trim_eq_nil_iff.2 fun c hc => h c ((sublist_of_mem_splitOn hp).subset hc)
  simp [hnil]

theorem mem_joinComma {xs : List String} {x : String} {c : Char} (hx : x ∈ xs)
    (hc : c ∈ x.toList) : c ∈ (joinComma xs).toList := by
  rw [joinComma, String.toList_intercalate]
  induction xs with
  | nil => cases hx
  | cons y rest ih =>
      cases rest with
      | nil =>
          rw [List.mem_singleton.1 hx] at hc
          simpa [List.intercalate_singleton] using hc
      | cons z zs =>
          rw [List.map_cons, List.map_cons, List.intercalate_cons_cons]
          rcases List.mem_cons.1 hx with rfl | hx
          · simp [hc]
          · exact List.mem_append_right _ (ih hx)

/-- Items without commas are read back from their list one by one, trimmed. -/
theorem tokenize_joinComma_trim {xs : List String}
    (h : ∀ x ∈ xs, ',' ∉ x.toList ∧ trim x.toList ≠ []) :
    tokenize (joinComma xs) = xs.map fun x => String.ofList (trim x.toList) := by
  cases xs with
  | nil => rfl
  | cons x rest =>
      have hsplit : splitOn [','] (joinComma (x :: rest)).toList =
          (x :: rest).map String.toList := by
        rw [splitOn_singleton, joinComma, String.toList_intercalate]
        refine List.splitOn_intercalate ',' ?_ (by simp)
        intro l hl
        obtain ⟨y, hy, rfl⟩ := List.mem_map.1 hl
        exact (h y hy).1
      rw [tokenize, tokens, hsplit, List.map_map, List.filter_eq_self.2, List.map_map]
      · rfl
      · intro l hl
        obtain ⟨y, hy, rfl⟩ := List.mem_map.1 hl
        have hne : trim y.toList ≠ [] := (h y hy).2
        cases ht : trim y.toList with
        | nil => exact absurd ht hne
        | cons c cs => simp [ht]

/-- Tokens are read back from their list. -/
theorem tokenize_joinComma {xs : List String} (h : ∀ x ∈ xs, IsToken x) :
    tokenize (joinComma xs) = xs := by
  rw [tokenize_joinComma_trim]
  · rw [List.map_congr_left (g := id), List.map_id]
    intro x hx
    rw [(h x hx).trimmed, String.ofList_toList]
    rfl
  · intro x hx
    refine ⟨(h x hx).comma, fun hnil => (h x hx).nonempty ?_⟩
    rw [(h x hx).trimmed] at hnil
    exact String.toList_eq_nil_iff.1 hnil

end MigrationConfig.Text
