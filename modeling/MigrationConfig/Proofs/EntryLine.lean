/-
# An entry and its line

An entry that is written on a line comes back with its key up to the first blank that
is no space, without a space at its end, and with its value trimmed of the
blanks that have no escape.  So keys only become shorter, and the values of
keys that are kept do; and an entry that keeps its length is kept.
-/
import MigrationConfig.Proofs.Split

namespace MigrationConfig.PropertiesText

open Text (isBlank isLineBreak)

/-! ## The key of a line -/

/-- A key ends at a blank, except at a space, which is escaped. -/
def isKeyChar (c : Char) : Bool := !isBlank c || c == ' '

theorem escapeKey_cons (c : Char) (k : List Char) :
    escapeKey (c :: k) = escapeKeyChar c ++ escapeKey k := List.flatMap_cons ..

theorem escapeKey_concat (k : List Char) (c : Char) :
    escapeKey (k ++ [c]) = escapeKey k ++ escapeKeyChar c := by
  rw [escapeKey, List.flatMap_append, List.flatMap_singleton]
  rfl

theorem escapeKeyChar_cases (c : Char) :
    escapeKeyChar c = ['\\', c] ∧ isKeyChar c = true ∧ isLineBreak c = false ∨
      escapeKeyChar c = [c] ∧ c ≠ '\\' ∧ isSeparator c = false ∧ c ≠ ' ' := by
  unfold escapeKeyChar
  split
  · next h =>
      left
      simp only [Bool.or_eq_true, beq_iff_eq] at h
      rcases h with ((rfl | rfl) | rfl) | rfl <;> exact ⟨rfl, by decide, by decide⟩
  · next h =>
      right
      simp only [Bool.or_eq_true, beq_iff_eq, not_or] at h
      obtain ⟨⟨⟨h₁, h₂⟩, h₃⟩, h₄⟩ := h
      exact ⟨rfl, h₁, by simp [isSeparator, h₂, h₃], h₄⟩

/-- A character that does not break a line is written without a line break. -/
theorem not_break_of_mem_escapeKeyChar {c d : Char} (hc : isLineBreak c = false)
    (hd : d ∈ escapeKeyChar c) : isLineBreak d = false := by
  rcases escapeKeyChar_cases c with ⟨hself, -⟩ | ⟨hself, -⟩
  · rw [hself] at hd
    rcases List.mem_cons.1 hd with rfl | hd
    · decide
    · rw [List.mem_singleton.1 hd]
      exact hc
  · rw [hself] at hd
    rw [List.mem_singleton.1 hd]
    exact hc

theorem not_break_of_mem_escapeKey {k : List Char} (hk : ∀ c ∈ k, isLineBreak c = false)
    {c : Char} (hc : c ∈ escapeKey k) : isLineBreak c = false := by
  obtain ⟨d, hd, hcd⟩ := List.mem_flatMap.1 hc
  exact not_break_of_mem_escapeKeyChar (hk d hd) hcd

/-- The key of a line is read up to its first character that ends it; if there is none,
what is behind the key is the value. -/
theorem splitLine_escapeKey {t : List Char} (ht : (splitLine false t).1 = []) (k : List Char) :
    (splitLine false (escapeKey k ++ t)).1 = escapeKey (k.takeWhile isKeyChar) ∧
      ((∀ c ∈ k, isKeyChar c = true) →
        (splitLine false (escapeKey k ++ t)).2 = (splitLine false t).2) := by
  induction k with
  | nil => exact ⟨ht, fun _ => rfl⟩
  | cons c k ih =>
      rw [escapeKey_cons, List.append_assoc]
      rcases escapeKeyChar_cases c with ⟨hc, hkey, -⟩ | ⟨hc, hslash, hsep, hspace⟩
      · rw [hc, List.cons_append, List.singleton_append, splitLine_pair,
          List.takeWhile_cons_of_pos hkey, escapeKey_cons, hc, ih.1]
        exact ⟨rfl, fun hall => ih.2 fun d hd => hall d (List.mem_cons_of_mem _ hd)⟩
      · rw [hc, List.singleton_append]
        cases hblank : isBlank c with
        | true =>
            have hend : isKeyChar c = false := by simp [isKeyChar, hblank, hspace]
            rw [splitLine_blank hblank, List.takeWhile_cons_of_neg (by simp [hend])]
            refine ⟨rfl, fun hall => ?_⟩
            rw [hall c (by simp)] at hend
            cases hend
        | false =>
            have hkey : isKeyChar c = true := by simp [isKeyChar, hblank]
            rw [splitLine_plain hslash hsep hblank, List.takeWhile_cons_of_pos hkey, escapeKey_cons,
              hc, ih.1]
            exact ⟨rfl, fun hall => ih.2 fun d hd => hall d (List.mem_cons_of_mem _ hd)⟩

theorem head?_escapeKey {k : List Char} (hk : ∀ c ∈ k, isKeyChar c = true) {c : Char}
    (hc : (escapeKey k).head? = some c) : isBlank c = false := by
  cases k with
  | nil => cases hc
  | cons d k =>
      rw [escapeKey_cons] at hc
      rcases escapeKeyChar_cases d with ⟨hd, -⟩ | ⟨hd, -, -, hspace⟩
      · rw [hd] at hc
        cases hc
        decide
      · have hkey := hk d (by simp)
        rw [hd] at hc
        cases hc
        simpa [isKeyChar, hspace] using hkey

theorem getLast?_escapeKey (k : List Char) : (escapeKey k).getLast? = k.getLast? := by
  cases hk : k.getLast? with
  | none =>
      rw [List.getLast?_eq_none_iff.1 hk]
      rfl
  | some c =>
      obtain ⟨front, rfl⟩ := List.getLast?_eq_some_iff.1 hk
      rw [escapeKey_concat]
      rcases escapeKeyChar_cases c with ⟨hc, -⟩ | ⟨hc, -⟩ <;> simp [hc]

/-- A key comes back without the space at its end, if there is one. -/
theorem unescape_trim_escapeKey {k : List Char} (hk : ∀ c ∈ k, isKeyChar c = true) :
    unescape (Text.trim (escapeKey k)) = if k.getLast? = some ' ' then k.dropLast else k := by
  split
  · next hlast =>
      obtain ⟨front, rfl⟩ := List.getLast?_eq_some_iff.1 hlast
      -- the space is trimmed and leaves its backslash behind, which then means nothing
      have htrim : Text.trim (escapeKey (front ++ [' '])) = escapeKey front ++ ['\\'] := by
        rw [escapeKey_concat, show escapeKeyChar ' ' = ['\\'] ++ [' '] from rfl,
          ← List.append_assoc, Text.trim_concat_blank (by decide), Text.trim_eq_self_iff]
        refine ⟨fun c hc => ?_, fun c hc => ?_⟩
        · cases hfront : escapeKey front with
          | nil =>
              rw [hfront] at hc
              cases hc
              decide
          | cons d ds =>
              refine head?_escapeKey (fun x hx => hk x (by simp [hx])) (k := front) ?_
              rw [hfront] at hc ⊢
              exact hc
        · rw [List.getLast?_concat] at hc
          cases hc
          decide
      rw [htrim, (escapeKey_complete front).unescape_append, unescape_escapeKey,
        List.dropLast_concat]
      exact List.append_nil front
  · next hlast =>
      rw [Text.trim_eq_self_iff.2, unescape_escapeKey]
      refine ⟨fun c hc => head?_escapeKey hk hc, fun c hc => ?_⟩
      rw [getLast?_escapeKey] at hc
      have hkey := hk c (List.mem_of_mem_getLast? hc)
      have hspace : c ≠ ' ' := by
        rintro rfl
        exact hlast hc
      simpa [isKeyChar, hspace] using hkey

/-! ## The value of a line -/

/-- The control characters that a value is written with escapes for. -/
def controls : List Char := ['\t', '\n', '\r', '\x0c']

theorem escapeValueChar_cases (c : Char) :
    (∃ d, escapeValueChar c = ['\\', d] ∧ isBlank d = false ∧ (isBlank c = true → c ∈ controls)) ∨
      escapeValueChar c = [c] ∧ c ∉ controls := by
  unfold escapeValueChar
  split
  · next h => rw [eq_of_beq h]; exact .inl ⟨_, rfl, by decide, by decide⟩
  · split
    · next h => rw [eq_of_beq h]; exact .inl ⟨_, rfl, by decide, by decide⟩
    · split
      · next h => rw [eq_of_beq h]; exact .inl ⟨_, rfl, by decide, by decide⟩
      · split
        · next h => rw [eq_of_beq h]; exact .inl ⟨_, rfl, by decide, by decide⟩
        · split
          · next h => rw [eq_of_beq h]; exact .inl ⟨_, rfl, by decide, by decide⟩
          · next hn hr ht hf =>
              right
              refine ⟨rfl, ?_⟩
              simp only [beq_iff_eq] at hn hr ht hf
              simp [controls, ht, hn, hr, hf]

/-- At both ends a character of a value is written as one that is not blank,
unless it is a blank itself that has no escape. -/
theorem escapeValueChar_ends (c : Char) :
    ∃ x y, (escapeValueChar c).head? = some x ∧ (escapeValueChar c).getLast? = some y ∧
      (isBlank x = false ↔ (isBlank c = true → c ∈ controls)) ∧
      (isBlank y = false ↔ (isBlank c = true → c ∈ controls)) := by
  rcases escapeValueChar_cases c with ⟨d, hd, hnot, hblank⟩ | ⟨hc, hctrl⟩
  · rw [hd]
    exact ⟨'\\', d, rfl, rfl, iff_of_true (by decide) hblank, iff_of_true hnot hblank⟩
  · rw [hc]
    have hself : isBlank c = false ↔ (isBlank c = true → c ∈ controls) := by
      simp [hctrl]
    exact ⟨c, c, rfl, rfl, hself, hself⟩

/-- A value keeps its first character if it is not blank, or is written with an
escape. -/
theorem head?_escapeValue (v : List Char) :
    (∀ c, (escapeValue v).head? = some c → isBlank c = false) ↔
      ∀ c, v.head? = some c → isBlank c = true → c ∈ ' ' :: controls := by
  rcases escapeValue_eq v with ⟨rest, rfl, h⟩ | ⟨hspace, h⟩
  · rw [h]
    constructor
    · intro _ c hc _
      cases hc
      simp
    · intro _ c hc
      cases hc
      decide
  · rw [h]
    cases v with
    | nil => simp
    | cons c v =>
        have hne : c ≠ ' ' := by simpa using hspace
        obtain ⟨x, y, hx, -, hiff, -⟩ := escapeValueChar_ends c
        rw [List.flatMap_cons, List.head?_append, hx]
        simp only [Option.some_or, List.head?_cons, Option.some.injEq, forall_eq', hiff,
          List.mem_cons, hne, false_or]

theorem getLast?_escapeValue_concat (v : List Char) (c : Char) :
    (escapeValue (v ++ [c])).getLast? = (escapeValueChar c).getLast? := by
  have hne : escapeValueChar c ≠ [] := by
    obtain ⟨x, y, hx, -⟩ := escapeValueChar_ends c
    intro hnil
    rw [hnil] at hx
    cases hx
  have hlast : ((v ++ [c]).flatMap escapeValueChar).getLast? = (escapeValueChar c).getLast? := by
    rw [List.flatMap_append, List.flatMap_singleton, List.getLast?_append_of_ne_nil _ hne]
  rcases escapeValue_eq (v ++ [c]) with ⟨rest, hv, h⟩ | ⟨-, h⟩
  · rw [h, ← hlast, hv]
    show ('\\' :: ' ' :: rest.flatMap escapeValueChar).getLast? =
      (' ' :: rest.flatMap escapeValueChar).getLast?
    rw [List.getLast?_cons_cons]
  · rw [h, hlast]

/-- A value keeps its last character if it is not blank, or is written with an
escape. -/
theorem getLast?_escapeValue (v : List Char) :
    (∀ c, (escapeValue v).getLast? = some c → isBlank c = false) ↔
      ∀ c, v.getLast? = some c → isBlank c = true → c ∈ controls := by
  cases hv : v.getLast? with
  | none =>
      rw [List.getLast?_eq_none_iff.1 hv]
      simp [escapeValue]
  | some c =>
      obtain ⟨front, rfl⟩ := List.getLast?_eq_some_iff.1 hv
      obtain ⟨x, y, -, hy, -, hiff⟩ := escapeValueChar_ends c
      rw [getLast?_escapeValue_concat, hy]
      simp only [Option.some.injEq, forall_eq', hiff]

/-- Only the line breaks without an escape are left in a written value. -/
theorem not_break_of_mem_escapeValue {v : List Char}
    (hv : ∀ c ∈ v, isLineBreak c = true → c ∈ controls) {c : Char} (hc : c ∈ escapeValue v) :
    isLineBreak c = false := by
  have hchars : ∀ {s : List Char}, (∀ d ∈ s, isLineBreak d = true → d ∈ controls) →
      c ∈ s.flatMap escapeValueChar → isLineBreak c = false := by
    intro s hs hcs
    obtain ⟨d, hd, hcd⟩ := List.mem_flatMap.1 hcs
    rcases escapeValueChar_cases d with ⟨e, he, hnot, -⟩ | ⟨hkeep, hctrl⟩
    · rw [he] at hcd
      rcases List.mem_cons.1 hcd with rfl | hcd
      · decide
      · rw [List.mem_singleton.1 hcd]
        exact Text.not_isLineBreak hnot
    · rw [hkeep, List.mem_singleton] at hcd
      subst hcd
      rw [← Bool.not_eq_true]
      exact fun hb => hctrl (hs c hd hb)
  rcases escapeValue_eq v with ⟨rest, rfl, h⟩ | ⟨-, h⟩
  · rw [h] at hc
    rcases List.mem_cons.1 hc with rfl | hc
    · decide
    · rcases List.mem_cons.1 hc with rfl | hc
      · decide
      · exact hchars (fun d hd => hv d (List.mem_cons_of_mem _ hd)) hc
  · rw [h] at hc
    exact hchars hv hc

/-! ## What is kept -/

/-- A key that is read as it was written: its blanks are spaces, and none of them
stands at its end. -/
structure KeepsKey (k : List Char) : Prop where
  blanks : ∀ c ∈ k, isBlank c = true → c = ' '
  last : k.getLast? ≠ some ' '

/-- A value that is read as it was written: its line breaks have escapes, and so
have the blanks at its ends, a space in front included. -/
structure KeepsValue (v : List Char) : Prop where
  breaks : ∀ c ∈ v, isLineBreak c = true → c ∈ controls
  first : ∀ c, v.head? = some c → isBlank c = true → c ∈ ' ' :: controls
  last : ∀ c, v.getLast? = some c → isBlank c = true → c ∈ controls

-- with `List.Forall` it is decided character by character, and not over all there are
instance (k : List Char) : Decidable (KeepsKey k) :=
  decidable_of_iff ((k.Forall fun c => isBlank c = true → c = ' ') ∧ k.getLast? ≠ some ' ')
    ⟨fun h => ⟨List.forall_iff_forall_mem.1 h.1, h.2⟩,
      fun h => ⟨List.forall_iff_forall_mem.2 h.blanks, h.last⟩⟩

instance (v : List Char) : Decidable (KeepsValue v) :=
  decidable_of_iff ((v.Forall fun c => isLineBreak c = true → c ∈ controls) ∧
      (v.head?.toList.Forall fun c => isBlank c = true → c ∈ ' ' :: controls) ∧
      v.getLast?.toList.Forall fun c => isBlank c = true → c ∈ controls) <| by
    simp only [List.forall_iff_forall_mem, Option.mem_toList]
    exact ⟨fun h => ⟨h.1, h.2.1, h.2.2⟩, fun h => ⟨h.breaks, h.first, h.last⟩⟩

/-- An entry that is read as it was written. -/
def Keeps (e : String × String) : Prop := KeepsKey e.1.toList ∧ KeepsValue e.2.toList

instance (e : String × String) : Decidable (Keeps e) := instDecidableAnd

/-- An entry as it comes back from a line of its own. -/
def reread (e : String × String) : String × String :=
  (String.ofList (unescape (Text.trim (splitLine false (line e)).1)),
    String.ofList (unescape (Text.trim (splitLine false (line e)).2)))

theorem reread_key (e : String × String) :
    (reread e).1.toList = unescape (Text.trim (escapeKey (e.1.toList.takeWhile isKeyChar))) := by
  rw [reread, String.toList_ofList, line, (splitLine_escapeKey rfl _).1]

theorem takeWhile_isKeyChar (k : List Char) :
    ∀ c ∈ k.takeWhile isKeyChar, isKeyChar c = true :=
  fun _ hc => List.mem_takeWhile_imp hc

theorem isKeyChar_of_keepsKey {k : List Char} (hk : KeepsKey k) : ∀ c ∈ k, isKeyChar c = true := by
  intro c hc
  cases hb : isBlank c with
  | true => simp [isKeyChar, hk.blanks c hc hb]
  | false => simp [isKeyChar, hb]

/-- No key comes back longer, and only a key that is kept comes back as long. -/
theorem length_reread_key (e : String × String) :
    (reread e).1.toList.length ≤ e.1.toList.length ∧
      ((reread e).1.toList.length = e.1.toList.length → KeepsKey e.1.toList) := by
  rw [reread_key, unescape_trim_escapeKey (takeWhile_isKeyChar _)]
  generalize e.1.toList = k
  have hle : (k.takeWhile isKeyChar).length ≤ k.length := (List.takeWhile_sublist _).length_le
  split
  · next hlast =>
      have hpos : 0 < (k.takeWhile isKeyChar).length := by
        rw [List.length_pos_iff]
        intro hnil
        rw [hnil] at hlast
        cases hlast
      rw [List.length_dropLast]
      exact ⟨by omega, fun h => by omega⟩
  · next hlast =>
      refine ⟨hle, fun hlen => ?_⟩
      have hself : k.takeWhile isKeyChar = k := (List.takeWhile_sublist _).eq_of_length hlen
      rw [hself] at hlast
      refine ⟨fun c hc hb => ?_, hlast⟩
      rw [← hself] at hc
      simpa [isKeyChar, hb] using takeWhile_isKeyChar k c hc

theorem reread_value {e : String × String} (hk : KeepsKey e.1.toList) :
    (reread e).2.toList = unescape (Text.trim (escapeValue e.2.toList)) := by
  rw [reread, String.toList_ofList, line]
  rw [(splitLine_escapeKey (t := '=' :: escapeValue e.2.toList) rfl e.1.toList).2
    (isKeyChar_of_keepsKey hk)]
  rfl

theorem trim_escapeValue_iff {v : List Char} :
    Text.trim (escapeValue v) = escapeValue v ↔
      (∀ c, v.head? = some c → isBlank c = true → c ∈ ' ' :: controls) ∧
        ∀ c, v.getLast? = some c → isBlank c = true → c ∈ controls := by
  rw [Text.trim_eq_self_iff, head?_escapeValue, getLast?_escapeValue]

/-- No value of a key that is kept comes back longer, and only one with nothing to
be trimmed comes back as long. -/
theorem length_reread_value {e : String × String} (hk : KeepsKey e.1.toList) :
    (reread e).2.toList.length ≤ e.2.toList.length ∧
      ((reread e).2.toList.length = e.2.toList.length →
        Text.trim (escapeValue e.2.toList) = escapeValue e.2.toList) := by
  rw [reread_value hk]
  have hself := (escapeValue_complete e.2.toList).2
  rcases trim_eq_or_shorter (escapeValue e.2.toList) with h | h
  · rw [h, hself]
    exact ⟨Nat.le_refl _, fun _ => rfl⟩
  · rw [hself] at h
    exact ⟨Nat.le_of_lt h, fun hlen => by omega⟩

/-- An entry that is kept comes back from its line. -/
theorem reread_of_keeps {e : String × String} (he : Keeps e) : reread e = e := by
  obtain ⟨hk, hv⟩ := he
  have hkey : (reread e).1 = e.1 := by
    rw [← String.toList_inj, reread_key]
    have hall : e.1.toList.takeWhile isKeyChar = e.1.toList :=
      List.takeWhile_eq_self_iff.2 (isKeyChar_of_keepsKey hk)
    rw [hall, unescape_trim_escapeKey (isKeyChar_of_keepsKey hk), if_neg hk.last]
  have hvalue : (reread e).2 = e.2 := by
    rw [← String.toList_inj, reread_value hk, trim_escapeValue_iff.2 ⟨hv.first, hv.last⟩,
      (escapeValue_complete e.2.toList).2]
  exact Prod.ext hkey hvalue

end MigrationConfig.PropertiesText
