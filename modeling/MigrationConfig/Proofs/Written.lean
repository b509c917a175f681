/-
# Written properties text, read again

When a property map that was written as properties text is read back as it was:
exactly when each of its entries is kept on a line of its own (`read_write_iff`).

That a map of such entries is read back is a matter of following each entry
through its line.  That a map with another entry is not, wherever that stands
and whatever the others are, takes a count.  A key with a line break falls into
several lines, but none of them has an escape for a line break, so that the key
cannot come back.  Without such keys there is one line for each entry; if all
entries come back then no key has become longer on the way, and so none has
become shorter; the same then holds of the values.
-/
import Mathlib.Algebra.Order.BigOperators.Group.List
import Mathlib.Algebra.Order.Group.Nat
import Mathlib.Data.List.Nodup
import Mathlib.Data.List.Perm.Subperm
import MigrationConfig.Proofs.EntryLine
import MigrationConfig.Proofs.Maps
import MigrationConfig.Proofs.Split

namespace MigrationConfig.PropertiesText

open Text (isBlank isLineBreak)

/-! ## The lines of a written text -/

/-- The lines of entries, each with a line feed behind it. -/
def written (es : List (String × String)) : List Char := es.flatMap fun e => line e ++ ['\n']

theorem written_cons (e : String × String) (es : List (String × String)) :
    written (e :: es) = line e ++ '\n' :: written es := by
  rw [written, List.flatMap_cons, List.append_assoc, List.singleton_append]
  rfl

theorem write_eq_written {m : PropertyMap} (hm : m.entries ≠ []) : write m = written m.entries := by
  rw [write]
  generalize m.entries = es at hm
  induction es with
  | nil => exact absurd rfl hm
  | cons e rest ih =>
      rw [written_cons]
      cases rest with
      | nil => simp [List.intercalate_singleton, written]
      | cons e' rest =>
          rw [List.map_cons, List.map_cons, List.intercalate_cons_cons, List.append_assoc,
            ← List.map_cons, ih (by simp), List.append_assoc, List.singleton_append]

/-- A line of a written text: a part of a key without line breaks, and perhaps the
value behind it. -/
def Fragment (l : List Char) : Prop :=
  ∃ k t, l = escapeKey k ++ t ∧ (∀ c ∈ k, isLineBreak c = false) ∧
    (t = [] ∨ ∃ w, t = '=' :: w ∧ Complete w)

theorem fragment_nil : Fragment [] := ⟨[], [], rfl, by simp, .inl rfl⟩

theorem Fragment.consKey {l : List Char} (hl : Fragment l) {c : Char}
    (hc : isLineBreak c = false) : Fragment (escapeKeyChar c ++ l) := by
  obtain ⟨k, t, rfl, hk, ht⟩ := hl
  refine ⟨c :: k, t, by rw [escapeKey_cons, List.append_assoc], ?_, ht⟩
  intro d hd
  rcases List.mem_cons.1 hd with rfl | hd
  · exact hc
  · exact hk d hd

theorem Fragment.complete {l : List Char} (hl : Fragment l) : Complete l := by
  obtain ⟨k, t, rfl, -, rfl | ⟨w, rfl, hw⟩⟩ := hl
  · rw [List.append_nil]
    exact escapeKey_complete k
  · exact (escapeKey_complete k).append (.plain (by decide) hw)

theorem Fragment.trimStart {l : List Char} (hl : Fragment l) : Fragment (Text.trimStart l) := by
  obtain ⟨k, t, rfl, hk, ht⟩ := hl
  induction k with
  | nil =>
      rcases ht with rfl | ⟨w, rfl, hw⟩
      · exact fragment_nil
      · exact ⟨[], '=' :: w, rfl, by simp, .inr ⟨w, rfl, hw⟩⟩
  | cons c k ih =>
      have hrest := ih fun d hd => hk d (List.mem_cons_of_mem _ hd)
      rw [escapeKey_cons, List.append_assoc]
      rcases escapeKeyChar_cases c with ⟨hc, -⟩ | ⟨hc, -⟩
      · have hself : Text.trimStart (escapeKeyChar c ++ (escapeKey k ++ t)) =
            escapeKeyChar c ++ (escapeKey k ++ t) := by
          rw [hc]
          rfl
        rw [hself, ← List.append_assoc, ← escapeKey_cons]
        exact ⟨c :: k, t, rfl, hk, ht⟩
      · cases hb : isBlank c with
        | true =>
            rw [hc, List.singleton_append, Text.trimStart, List.dropWhile_cons_of_pos hb]
            exact hrest
        | false =>
            have hself : Text.trimStart (escapeKeyChar c ++ (escapeKey k ++ t)) =
                escapeKeyChar c ++ (escapeKey k ++ t) := by
              rw [hc, List.singleton_append, Text.trimStart,
                List.dropWhile_cons_of_neg (by simp [hb])]
            rw [hself, ← List.append_assoc, ← escapeKey_cons]
            exact ⟨c :: k, t, rfl, hk, ht⟩

/-- The key that a part of a written text is read with has no line breaks. -/
theorem Fragment.not_break {l : List Char} (hl : Fragment l) {c : Char}
    (hc : c ∈ unescape (Text.trim (splitLine false l).1)) : isLineBreak c = false := by
  obtain ⟨k, t, rfl, hk, ht⟩ := hl
  have hempty : (splitLine false t).1 = [] := by
    rcases ht with rfl | ⟨w, rfl, -⟩ <;> rfl
  rw [(splitLine_escapeKey hempty k).1,
    unescape_trim_escapeKey (takeWhile_isKeyChar k)] at hc
  have hmem : c ∈ k.takeWhile isKeyChar := by
    split at hc
    · exact List.dropLast_subset _ hc
    · exact hc
  exact hk c ((List.takeWhile_sublist _).subset hmem)

/-- The lines that an entry falls into are parts of a written text. -/
theorem lines_entry {w : List Char} (hw : Complete w) (hbreak : ∀ c ∈ w, isLineBreak c = false)
    (rest k : List Char) :
    ∃ first others, Text.lines (escapeKey k ++ ('=' :: w ++ '\n' :: rest)) = first :: others ∧
      Fragment first ∧ ∀ l ∈ others, Fragment l ∨ l ∈ Text.lines rest := by
  induction k with
  | nil =>
      refine ⟨'=' :: w, Text.lines rest, Text.lines_append_feed ?_ rest,
        ⟨[], '=' :: w, rfl, by simp, .inr ⟨w, rfl, hw⟩⟩, fun l hl => .inr hl⟩
      intro c hc
      rcases List.mem_cons.1 hc with rfl | hc
      · decide
      · exact hbreak c hc
  | cons c k ih =>
      obtain ⟨first, others, hlines, hfirst, hothers⟩ := ih
      rw [escapeKey_cons, List.append_assoc]
      cases hc : isLineBreak c with
      | true =>
          have hself : escapeKeyChar c = [c] := by
            rcases escapeKeyChar_cases c with ⟨-, -, hno⟩ | ⟨hself, -⟩
            · rw [hno] at hc
              cases hc
            · exact hself
          rw [hself, List.singleton_append]
          rcases Text.lines_break hc (escapeKey k ++ ('=' :: w ++ '\n' :: rest)) with h | h
          · rw [h, hlines]
            refine ⟨[], first :: others, rfl, fragment_nil, fun l hl => ?_⟩
            rcases List.mem_cons.1 hl with rfl | hl
            · exact .inl hfirst
            · exact hothers l hl
          · rw [h]
            exact ⟨first, others, hlines, hfirst, hothers⟩
      | false =>
          refine ⟨escapeKeyChar c ++ first, others, Text.lines_append ?_ hlines, hfirst.consKey hc,
            hothers⟩
          exact fun d => not_break_of_mem_escapeKeyChar hc

section Values

variable {es : List (String × String)}
  (hvalues : ∀ e ∈ es, ∀ c ∈ e.2.toList, isLineBreak c = true → c ∈ controls)
include hvalues

theorem fragment_of_mem_lines {l : List Char} (hl : l ∈ Text.lines (written es)) : Fragment l := by
  induction es with
  | nil => cases hl
  | cons e es ih =>
      have hrest := ih fun e' he' => hvalues e' (List.mem_cons_of_mem _ he')
      have hvalue : ∀ c ∈ escapeValue e.2.toList, isLineBreak c = false :=
        fun c => not_break_of_mem_escapeValue (hvalues e (by simp))
      obtain ⟨first, others, hlines, hfirst, hothers⟩ := lines_entry
        (escapeValue_complete e.2.toList).1 hvalue (written es) e.1.toList
      rw [written_cons, line, List.append_assoc, hlines] at hl
      rcases List.mem_cons.1 hl with rfl | hl
      · exact hfirst
      · exact (hothers l hl).elim id hrest

theorem logicalLines_written :
    logicalLines [] (Text.lines (written es)) =
      ((Text.lines (written es)).map Text.trimStart).filter fun l => !isPassedOver l :=
  logicalLines_complete fun _ hl => (fragment_of_mem_lines hvalues hl).trimStart.complete

/-- No key that is read from a written text has a line break. -/
theorem not_break_of_written {k v : String} (h : (k, v) ∈ entries (written es)) {c : Char}
    (hc : c ∈ k.toList) : isLineBreak c = false := by
  obtain ⟨l, hl, he⟩ := List.mem_filterMap.1 h
  rw [logicalLines_written hvalues] at hl
  obtain ⟨l', hl', rfl⟩ := List.mem_map.1 (List.mem_filter.1 hl).1
  cases entry?_eq_some he
  rw [String.toList_ofList] at hc
  exact (fragment_of_mem_lines hvalues hl').trimStart.not_break hc

end Values

/-! ## One line for each entry -/

/-- A key that does not look like a blank or a comment at its start. -/
def Starts (k : List Char) : Prop :=
  ∃ c, k.head? = some c ∧ isBlank c = false ∧ c ≠ '#' ∧ c ≠ '!'

theorem lines_written {es : List (String × String)}
    (hkeys : ∀ e ∈ es, ∀ c ∈ e.1.toList, isLineBreak c = false)
    (hvalues : ∀ e ∈ es, ∀ c ∈ e.2.toList, isLineBreak c = true → c ∈ controls) :
    Text.lines (written es) = es.map line := by
  induction es with
  | nil => rfl
  | cons e es ih =>
      rw [written_cons, Text.lines_append_feed, List.map_cons,
        ih (fun e' he' => hkeys e' (List.mem_cons_of_mem _ he'))
          fun e' he' => hvalues e' (List.mem_cons_of_mem _ he')]
      intro c hc
      rcases List.mem_append.1 hc with hc | hc
      · exact not_break_of_mem_escapeKey (hkeys e (by simp)) hc
      · rcases List.mem_cons.1 hc with rfl | hc
        · decide
        · exact not_break_of_mem_escapeValue (hvalues e (by simp)) hc

/-- What the line of a key starts with: neither a blank nor the mark of a
comment. -/
theorem Starts.escapeKey {k : List Char} (hk : Starts k) (t : List Char) :
    Starts (escapeKey k ++ t) := by
  obtain ⟨c, hc, hblank, hhash, hmark⟩ := hk
  obtain ⟨rest, rfl⟩ := List.head?_eq_some_iff.1 hc
  rw [escapeKey_cons, List.append_assoc]
  rcases escapeKeyChar_cases c with ⟨hself, -⟩ | ⟨hself, -⟩
  · rw [hself]
    exact ⟨'\\', rfl, by decide, by decide, by decide⟩
  · rw [hself]
    exact ⟨c, rfl, hblank, hhash, hmark⟩

theorem Starts.trimStart {l : List Char} (hl : Starts l) : Text.trimStart l = l := by
  obtain ⟨c, hc, hblank, -⟩ := hl
  refine Text.trimStart_eq_self_iff.2 fun d hd => ?_
  rw [hc] at hd
  rw [← Option.some.inj hd]
  exact hblank

theorem Starts.isPassedOver {l : List Char} (hl : Starts l) : isPassedOver l = false := by
  obtain ⟨c, hc, -, hhash, hmark⟩ := hl
  obtain ⟨rest, rfl⟩ := List.head?_eq_some_iff.1 hc
  simp [PropertiesText.isPassedOver, hhash, hmark]

theorem entry?_line {e : String × String} (he : Starts e.1.toList) :
    entry? (line e) = some (reread e) := by
  obtain ⟨c, hc, hblank, -⟩ := he
  obtain ⟨rest, hrest⟩ := List.head?_eq_some_iff.1 hc
  have hsplit := (splitLine_escapeKey (t := '=' :: escapeValue e.2.toList) rfl e.1.toList).1
  have hne : Text.trim (splitLine false (line e)).1 ≠ [] := by
    rw [line, hsplit, ne_eq, Text.trim_eq_nil_iff, hrest,
      List.takeWhile_cons_of_pos (by simp [isKeyChar, hblank]), escapeKey_cons]
    intro hall
    rcases escapeKeyChar_cases c with ⟨hself, -⟩ | ⟨hself, -⟩
    · exact absurd (hall '\\' (by simp [hself])) (by decide)
    · rw [hall c (by simp [hself])] at hblank
      cases hblank
  exact entry?_of_key hne

/-- Without line breaks in keys, every entry comes back from its own line. -/
theorem entries_written {es : List (String × String)}
    (hstart : ∀ e ∈ es, Starts e.1.toList)
    (hkeys : ∀ e ∈ es, ∀ c ∈ e.1.toList, isLineBreak c = false)
    (hvalues : ∀ e ∈ es, ∀ c ∈ e.2.toList, isLineBreak c = true → c ∈ controls) :
    entries (written es) = es.map reread := by
  rw [entries, logicalLines_written hvalues, lines_written hkeys hvalues]
  clear hkeys hvalues
  induction es with
  | nil => rfl
  | cons e es ih =>
      have he := hstart e (by simp)
      have hline : Starts (line e) := he.escapeKey _
      rw [List.map_cons, List.map_cons, hline.trimStart,
        List.filter_cons_of_pos (by simp [hline.isPassedOver]),
        List.filterMap_cons_some (entry?_line he), List.map_cons,
        ih fun e' he' => hstart e' (List.mem_cons_of_mem _ he')]

/-! ## Maps -/

/-- If a list without repetitions is part of its own image, then a size that does not
grow under the map stays the same. -/
theorem size_eq_of_subset_map {α : Type} {l : List α} {f : α → α} (size : α → Nat)
    (hd : l.Nodup) (hsub : l ⊆ l.map f) (hle : ∀ a ∈ l, size (f a) ≤ size a) :
    ∀ a ∈ l, size (f a) = size a := by
  -- the list is a permutation of its image, so the sizes add up to the same sum
  have hperm : l.Perm (l.map f) :=
    (hd.subperm hsub).perm_of_length_le (by simp)
  have hsum : (l.map size).sum = (l.map fun a => size (f a)).sum := by
    rw [(hperm.map size).sum_nat, List.map_map]
    rfl
  clear hperm hsub hd
  induction l with
  | nil =>
      intro a ha
      cases ha
  | cons b l ih =>
      have hb := hle b (by simp)
      have hrest : (l.map fun a => size (f a)).sum ≤ (l.map size).sum :=
        List.sum_le_sum fun a ha => hle a (List.mem_cons_of_mem _ ha)
      rw [List.map_cons, List.map_cons, List.sum_cons, List.sum_cons] at hsum
      intro a ha
      rcases List.mem_cons.1 ha with rfl | ha
      · omega
      · exact ih (fun a ha => hle a (List.mem_cons_of_mem _ ha)) (by omega) a ha

theorem read_write_of_keeps {m : PropertyMap} (hstart : ∀ e ∈ m.entries, Starts e.1.toList)
    (hkeeps : ∀ e ∈ m.entries, Keeps e) : read (write m) = m := by
  by_cases hm : m.entries = []
  · have hwrite : write m = ['\n'] := by
      rw [write, hm]
      rfl
    refine PropertyMap.ext ?_
    rw [hwrite, hm]
    rfl
  · have hentries : entries (write m) = m.entries := by
      rw [write_eq_written hm, entries_written hstart]
      · exact (List.map_congr_left fun e he => reread_of_keeps (hkeeps e he)).trans (List.map_id _)
      · intro e he c hc
        rw [← Bool.not_eq_true]
        intro hb
        have hspace := (hkeeps e he).1.blanks c hc (Text.isBlank_of_isLineBreak hb)
        rw [hspace] at hb
        exact absurd hb (by decide)
      · exact fun e he => (hkeeps e he).2.breaks
    rw [read, hentries, PropertyMap.ofList_entries]

/-- If all entries of a map come back, then they are all kept. -/
theorem keeps_of_subset {m : PropertyMap} (hstart : ∀ e ∈ m.entries, Starts e.1.toList)
    (hback : m.entries ⊆ entries (write m)) : ∀ e ∈ m.entries, Keeps e := by
  by_cases hm : m.entries = []
  · rw [hm]
    simp
  rw [write_eq_written hm] at hback
  have hvalues : ∀ e ∈ m.entries, ∀ c ∈ e.2.toList, isLineBreak c = true → c ∈ controls :=
    fun e he c hc hb => List.mem_cons_of_mem _ (break_of_mem_entries (hback he) (.inr hc) hb)
  have hkeys : ∀ e ∈ m.entries, ∀ c ∈ e.1.toList, isLineBreak c = false :=
    fun e he c hc => not_break_of_written hvalues (hback he) hc
  rw [entries_written hstart hkeys hvalues] at hback
  have hd : m.entries.Nodup := List.Nodup.of_map Prod.fst m.distinct
  -- first the keys: how long a value comes back is known for keys that are kept only
  have hkeepsKey : ∀ e ∈ m.entries, KeepsKey e.1.toList := fun e he =>
    (length_reread_key e).2 (size_eq_of_subset_map (fun e => e.1.toList.length) hd hback
      (fun e _ => (length_reread_key e).1) e he)
  intro e he
  have htrim := (length_reread_value (hkeepsKey e he)).2 (size_eq_of_subset_map
    (fun e => e.2.toList.length) hd hback
    (fun e he => (length_reread_value (hkeepsKey e he)).1) e he)
  obtain ⟨hfirst, hlast⟩ := trim_escapeValue_iff.1 htrim
  exact ⟨hkeepsKey e he, hvalues e he, hfirst, hlast⟩

/-- A written map is read back as it was exactly when all its entries are kept. -/
theorem read_write_iff {m : PropertyMap} (hstart : ∀ e ∈ m.entries, Starts e.1.toList) :
    (∀ k, (read (write m)).get? k = m.get? k) ↔ ∀ e ∈ m.entries, Keeps e := by
  constructor
  · intro h
    refine keeps_of_subset hstart fun e he => ?_
    have hget := PropertyMap.mem_entries.1 (show (e.1, e.2) ∈ m.entries from he)
    rw [← h e.1] at hget
    exact PropertyMap.mem_of_get?_ofList hget
  · intro h k
    rw [read_write_of_keeps hstart h]

/-- An entry alone in a text is read back exactly when it is kept. -/
theorem read_line_iff {e : String × String} (he : Starts e.1.toList) :
    read (line e ++ ['\n']) = .ofList [e] ↔ Keeps e := by
  have hentries : (PropertyMap.ofList [e]).entries = [e] := rfl
  have hwrite : write (.ofList [e]) = line e ++ ['\n'] := by
    rw [write, hentries, List.map_singleton, List.intercalate_singleton]
  have hstart : ∀ e' ∈ (PropertyMap.ofList [e]).entries, Starts e'.1.toList := by
    intro e' he'
    obtain rfl := List.mem_singleton.1 he'
    exact he
  rw [← hwrite]
  constructor
  · intro h
    exact (read_write_iff hstart).1 (fun k => by rw [h]) e (by simp [hentries])
  · intro hkeeps
    refine read_write_of_keeps hstart fun e' he' => ?_
    obtain rfl := List.mem_singleton.1 he'
    exact hkeeps

end MigrationConfig.PropertiesText
