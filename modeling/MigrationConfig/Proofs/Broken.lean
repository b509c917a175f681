/-
# Lines that are broken in two

A logical line may be broken anywhere: a backslash goes to the end of the first part,
and blanks may go in front of the second.  The two parts are read as the one line was,
with one exception.  A line that continues another is trimmed at both ends before its
last character is looked at, a line that begins one only in front; so a backslash with
blanks behind it is the last character of the second part and is none of the whole
line.  Broken there, the line takes the next line of the text along.

Hence a break changes nothing, whatever follows, exactly when trimming the second
part does not make it go on (`read_broken_iff`).  That it does change something
otherwise is seen from a following line with a key that is longer than all others: the
whole line leaves this key alone, the broken one loses it.
-/
import Mathlib.Algebra.Order.BigOperators.Group.List
import Mathlib.Algebra.Order.Group.Nat
import MigrationConfig.Proofs.Scan
import MigrationConfig.Proofs.Split

namespace MigrationConfig.PropertiesText

open Text (isBlank isLineBreak)

/-- A text `pre`, and a line behind it that is broken into `a` and `b`, the second part
indented by `w`. -/
structure Break (pre a b w : List Char) : Prop where
  /-- the line is on a line of its own -/
  starts : pre = [] ∨ ∃ front c, pre = front ++ [c] ∧ isLineBreak c = true
  closed : Closed pre
  noBreak : ∀ c ∈ a ++ b, isLineBreak c = false
  /-- the first part is neither blank nor the beginning of a comment -/
  begins : isPassedOver (Text.trimStart a) = false
  even : goesOn a = false
  second : ∀ c, b.head? = some c → isBlank c = false
  indent : IsGap w

/-! ## The two ways to take the line -/

theorem goesOn_trimStart (s : List Char) : goesOn (Text.trimStart s) = goesOn s := by
  have hblanks : Complete (s.takeWhile isBlank) :=
    (complete_of_not_mem fun c hc => ne_backslash_of_isBlank (List.mem_takeWhile_imp hc)).1
  have hs : s.takeWhile isBlank ++ Text.trimStart s = s := List.takeWhile_append_dropWhile
  conv_rhs => rw [← hs, goesOn_append hblanks.goesOn]

/-- What goes on ends in a backslash, so nothing is trimmed off. -/
theorem trimEnd_of_goesOn {b : List Char} (hb : goesOn b = true) : Text.trimEnd b = b := by
  refine Text.trimEnd_eq_self_iff.2 fun c hc => ?_
  obtain ⟨front, rfl⟩ := List.getLast?_eq_some_iff.1 hc
  cases hblank : isBlank c with
  | false => rfl
  | true =>
      have hne : (c == '\\') = false := beq_eq_false_iff_ne.2 (ne_backslash_of_isBlank hblank)
      simp [goesOn, trailingBackslashes, hne] at hb

section Break

variable {pre a b w : List Char} (h : Break pre a b w)
include h

theorem Break.start_ne_nil : Text.trimStart a ≠ [] := by
  intro hnil
  have hbegins := h.begins
  rw [hnil] at hbegins
  cases hbegins

theorem Break.start_even : goesOn (Text.trimStart a) = false :=
  (goesOn_trimStart a).trans h.even

/-- The whole line. -/
theorem Break.takeLine_whole :
    takeLine [] (a ++ b) =
      if goesOn b then (none, Text.trimStart a ++ b.dropLast)
      else (some (Text.trimStart a ++ b), []) := by
  have hstart : Text.trimStart (a ++ b) = Text.trimStart a ++ b :=
    Text.trimStart_append h.start_ne_nil b
  rw [takeLine_first (by rw [hstart]; exact isPassedOver_append h.begins b), hstart,
    goesOn_append h.start_even]
  cases hb : goesOn b with
  | false => rfl
  | true =>
      have hne : b ≠ [] := by
        rintro rfl
        exact absurd hb (by decide)
      rw [List.dropLast_append_of_ne_nil hne]

/-- The first part of the broken line. -/
theorem Break.takeLine_first : takeLine [] (a ++ ['\\']) = (none, Text.trimStart a) := by
  have hstart : Text.trimStart (a ++ ['\\']) = Text.trimStart a ++ ['\\'] :=
    Text.trimStart_append h.start_ne_nil ['\\']
  have hon : goesOn (Text.trimStart a ++ ['\\']) = true := goesOn_append h.start_even ['\\']
  rw [PropertiesText.takeLine_first (by rw [hstart]; exact isPassedOver_append h.begins ['\\']),
    hstart, if_pos hon, List.dropLast_concat]

/-- Its second part. -/
theorem Break.takeLine_second :
    takeLine (Text.trimStart a) (w ++ b) =
      if goesOn (Text.trimEnd b) then (none, Text.trimStart a ++ (Text.trimEnd b).dropLast)
      else (some (Text.trimStart a ++ Text.trimEnd b), []) := by
  have htrim : Text.trim (w ++ b) = Text.trimEnd b := by
    rw [Text.trim_blanks_append h.indent.isBlank, Text.trim, Text.trimStart_eq_self_iff.2 h.second]
  rw [takeLine_next h.start_ne_nil, htrim]

/-! ## The texts -/

/-- Whatever the line is, it is read behind the text in front. -/
theorem Break.entries_behind {t : List Char} (ht : t.head? ≠ some '\n') :
    entries (pre ++ t) = entries pre ++ entries t := by
  have hlines : Text.lines (pre ++ t) = Text.lines pre ++ Text.lines t := by
    rcases h.starts with rfl | ⟨front, c, rfl, hc⟩
    · rfl
    · rw [List.append_assoc, List.singleton_append]
      exact Text.lines_append_break hc (fun _ => ht) front
  rw [entries, hlines, logicalLines_append h.closed, List.filterMap_append]
  rfl

theorem Break.head?_ne (t : List Char) : (a ++ t).head? ≠ some '\n' := by
  cases ha : a with
  | nil =>
      have hne := h.start_ne_nil
      rw [ha] at hne
      exact absurd rfl hne
  | cons c a =>
      intro hc
      obtain rfl := Option.some.inj hc
      have hbreak := h.noBreak '\n' (by simp [ha])
      exact absurd hbreak (by decide)

/-- The entries of a text with the whole line. -/
theorem Break.entries_whole (suf : List Char) :
    entries (pre ++ (a ++ b ++ '\n' :: suf)) = entries pre ++
      (if goesOn b then logicalLines (Text.trimStart a ++ b.dropLast) (Text.lines suf)
        else (Text.trimStart a ++ b) :: logicalLines [] (Text.lines suf)).filterMap entry? := by
  rw [h.entries_behind (by rw [List.append_assoc]; exact h.head?_ne _)]
  have hlines : Text.lines (a ++ b ++ '\n' :: suf) = (a ++ b) :: Text.lines suf :=
    Text.lines_append_feed h.noBreak suf
  congr 1
  rw [entries, hlines, logicalLines_cons, h.takeLine_whole]
  cases goesOn b <;> rfl

/-- The entries of a text with the broken line. -/
theorem Break.entries_broken (suf : List Char) :
    entries (pre ++ (a ++ '\\' :: '\n' :: (w ++ b ++ '\n' :: suf))) = entries pre ++
      (if goesOn (Text.trimEnd b) then
          logicalLines (Text.trimStart a ++ (Text.trimEnd b).dropLast) (Text.lines suf)
        else (Text.trimStart a ++ Text.trimEnd b) ::
          logicalLines [] (Text.lines suf)).filterMap entry? := by
  rw [h.entries_behind (h.head?_ne _)]
  have hfirst : ∀ c ∈ a ++ ['\\'], isLineBreak c = false := by
    intro c hc
    rcases List.mem_append.1 hc with hc | hc
    · exact h.noBreak c (List.mem_append_left _ hc)
    · rw [List.mem_singleton.1 hc]
      decide
  have hsecond : ∀ c ∈ w ++ b, isLineBreak c = false := by
    intro c hc
    rcases List.mem_append.1 hc with hc | hc
    · exact h.indent.not_break c hc
    · exact h.noBreak c (List.mem_append_right _ hc)
  have hlines : Text.lines (a ++ '\\' :: '\n' :: (w ++ b ++ '\n' :: suf)) =
      (a ++ ['\\']) :: (w ++ b) :: Text.lines suf := by
    rw [List.append_cons, Text.lines_append_feed hfirst, Text.lines_append_feed hsecond]
  congr 1
  rw [entries, hlines, logicalLines_cons, h.takeLine_first, logicalLines_cons,
    h.takeLine_second]
  cases goesOn (Text.trimEnd b) <;> rfl

/-- A second part that goes on either way, or neither way, makes no difference. -/
theorem Break.entries_eq (hb : goesOn (Text.trimEnd b) = goesOn b) (suf : List Char) :
    entries (pre ++ (a ++ b ++ '\n' :: suf)) =
      entries (pre ++ (a ++ '\\' :: '\n' :: (w ++ b ++ '\n' :: suf))) := by
  rw [h.entries_whole, h.entries_broken, hb]
  cases hon : goesOn b with
  | true => rw [trimEnd_of_goesOn hon]
  | false =>
      obtain ⟨blanks, hblanks, hself⟩ := Text.exists_trimEnd_append b
      have hcomplete : Complete (Text.trimStart a ++ Text.trimEnd b) :=
        complete_iff.2 ((goesOn_append h.start_even _).trans (hb.trans hon))
      have hentry : entry? (Text.trimStart a ++ b) =
          entry? (Text.trimStart a ++ Text.trimEnd b) := by
        conv_lhs => rw [hself, ← List.append_assoc]
        exact entry?_append_blanks hcomplete hblanks
      rw [if_neg Bool.false_ne_true, if_neg Bool.false_ne_true, List.filterMap_cons,
        List.filterMap_cons, hentry]

end Break

/-! ## A key that gets lost -/

/-- A key of more than `n` characters. -/
def longKey (n : Nat) : List Char := List.replicate (n + 1) 'z'

theorem eq_of_mem_longKey {n : Nat} {c : Char} (hc : c ∈ longKey n) : c = 'z' :=
  List.eq_of_mem_replicate hc

theorem longKey_bare (n : Nat) :
    ∀ c ∈ longKey n, isBlank c = false ∧ isSeparator c = false ∧ c ≠ '\\' := by
  intro c hc
  rw [eq_of_mem_longKey hc]
  decide

theorem unescape_longKey (n : Nat) : unescape (longKey n) = longKey n :=
  (complete_of_not_mem fun c hc => (longKey_bare n c hc).2.2).2

theorem lines_longKey (n : Nat) : Text.lines (longKey n) = [longKey n] := by
  refine Text.lines_of_not_break (by simp [longKey]) fun c hc => ?_
  rw [eq_of_mem_longKey hc]
  decide

theorem length_unescape_le (s : List Char) : (unescape s).length ≤ s.length := by
  induction s using unescape.induct with
  | case1 => exact Nat.le_refl _
  | case2 => exact Nat.zero_le _
  | case3 c rest ih =>
      rw [unescape_pair]
      simp only [List.length_cons]
      omega
  | case4 c rest hnil hcons ih =>
      rw [unescape_cons (ne_backslash hnil hcons)]
      exact Nat.succ_le_succ ih

theorem unescape_ne_nil {x : List Char} (hx : Complete x) (hne : x ≠ []) : unescape x ≠ [] := by
  cases hx with
  | nil => exact absurd rfl hne
  | plain hc _ => simp [unescape_cons hc]
  | pair c _ => simp [unescape_pair]

theorem splitLine_longKey (n : Nat) : splitLine false (longKey n) = (longKey n, []) := by
  have h := splitLine_bare (longKey_bare n) []
  rw [List.append_nil] at h
  rw [h]
  exact Prod.ext (List.append_nil _) rfl

theorem entry?_longKey (n : Nat) :
    entry? (longKey n) = some (String.ofList (longKey n), "") := by
  have htrim : Text.trim (longKey n) = longKey n :=
    Text.trim_of_no_blank fun c hc => (longKey_bare n c hc).1
  have hne : Text.trim (splitLine false (longKey n)).1 ≠ [] := by
    rw [splitLine_longKey, htrim]
    exact List.cons_ne_nil _ _
  rw [entry?_of_key hne, splitLine_longKey, htrim, unescape_longKey]
  rfl

/-- A long key is the end of whatever line is begun. -/
theorem logicalLines_longKey (begun : List Char) (n : Nat) :
    logicalLines begun [longKey n] = [begun ++ longKey n] := by
  have hblank : ∀ c ∈ longKey n, isBlank c = false := fun c hc => (longKey_bare n c hc).1
  have htrim : Text.trim (longKey n) = longKey n := Text.trim_of_no_blank hblank
  have hstart : Text.trimStart (longKey n) = longKey n :=
    Text.trimStart_eq_self_iff.2 fun c hc => hblank c (List.mem_of_mem_head? hc)
  have hpass : isPassedOver (longKey n) = false := rfl
  have hon : goesOn (longKey n) = false :=
    (complete_of_not_mem fun c hc => (longKey_bare n c hc).2.2).1.goesOn
  rw [logicalLines_cons, takeLine, hstart, htrim, ite_self]
  simp [hpass, hon, logicalLines]

/-- A long key is not read any more when something complete stands in front of it. -/
theorem ne_longKey {x : List Char} {n : Nat} {e : String × String} (hx : Complete x)
    (hne : x ≠ []) (hfirst : ∀ c, x.head? = some c → isBlank c = false) (hlen : x.length ≤ n)
    (he : entry? (x ++ longKey n) = some e) : e.1 ≠ String.ofList (longKey n) := by
  cases entry?_eq_some he
  intro heq
  have hlength := congrArg List.length (String.ofList_injective heq)
  rw [show (longKey n).length = n + 1 from List.length_replicate] at hlength
  have tooShort : ∀ {k rest : List Char} {c : Char}, x = k ++ c :: rest →
      (splitLine false (x ++ longKey n)).1 = k → False := by
    intro k rest c hk hsplit
    have hle := (length_unescape_le (Text.trim k)).trans (Text.trim_sublist k).length_le
    have hlt : k.length < x.length := by simp [hk]
    rw [hsplit] at hlength
    omega
  cases hx.splits with
  | inKey h =>
      have htrim : Text.trim (x ++ longKey n) = x ++ longKey n := by
        refine Text.trim_eq_self_iff.2 ⟨fun c hc => ?_, fun c hc => ?_⟩
        · rw [List.head?_append_of_ne_nil _ hne] at hc
          exact hfirst c hc
        · rw [List.getLast?_append_of_ne_nil _ (by simp [longKey])] at hc
          exact (longKey_bare n c (List.mem_of_mem_getLast? hc)).1
      rw [h, splitLine_longKey, htrim, hx.unescape_append, unescape_longKey, List.length_append,
        show (longKey n).length = n + 1 from List.length_replicate] at hlength
      have hpos := List.length_pos_iff.2 (unescape_ne_nil hx hne)
      omega
  | atSeparator _ hk h => exact tooShort hk (by rw [h])
  | atBlank _ hk h => exact tooShort hk (by rw [h])

theorem goesOn_concat (s : List Char) : goesOn (s ++ ['\\']) = !goesOn s := by
  have hone : trailingBackslashes ['\\'] = 1 := rfl
  unfold goesOn
  rw [trailingBackslashes_append, hone, if_pos (by rfl), List.length_singleton]
  rcases Nat.mod_two_eq_zero_or_one (trailingBackslashes s) with h | h
  · rw [Nat.add_mod, h]
    rfl
  · rw [Nat.add_mod, h]
    rfl

/-- Without its last backslash a line does not go on. -/
theorem goesOn_dropLast {b : List Char} (hb : goesOn b = true) : goesOn b.dropLast = false := by
  cases hlast : b.getLast? with
  | none =>
      rw [List.getLast?_eq_none_iff.1 hlast] at hb
      exact absurd hb (by decide)
  | some c =>
      obtain ⟨front, rfl⟩ := List.getLast?_eq_some_iff.1 hlast
      by_cases hc : c = '\\'
      · rw [hc, goesOn_concat] at hb
        rw [List.dropLast_concat]
        simpa using hb
      · simp [goesOn, trailingBackslashes, hc] at hb

/-- Where trimming makes the second part go on, a line that follows may get lost. -/
theorem Break.exists_read_ne {pre a b w : List Char} (h : Break pre a b w)
    (htrim : goesOn (Text.trimEnd b) = true) (hb : goesOn b = false) :
    ∃ suf, read (pre ++ (a ++ b ++ '\n' :: suf)) ≠
      read (pre ++ (a ++ '\\' :: '\n' :: (w ++ b ++ '\n' :: suf))) := by
  -- the begun line, and a key that is longer than it and than all keys in front
  let begun := Text.trimStart a ++ (Text.trimEnd b).dropLast
  let n := ((entries pre).map fun e => e.1.toList.length).sum + begun.length
  refine ⟨longKey n, fun heq => ?_⟩
  have hkept : String.ofList (longKey n) ∈
      (read (pre ++ (a ++ b ++ '\n' :: longKey n))).keys := by
    rw [read, PropertyMap.mem_keys_ofList, h.entries_whole, hb, if_neg Bool.false_ne_true,
      lines_longKey, logicalLines_longKey, List.nil_append]
    refine List.mem_map.2 ⟨(String.ofList (longKey n), ""), List.mem_append_right _ ?_, rfl⟩
    exact List.mem_filterMap.2 ⟨longKey n, by simp, entry?_longKey n⟩
  rw [heq, read, PropertyMap.mem_keys_ofList, h.entries_broken, htrim, if_pos rfl,
    lines_longKey, logicalLines_longKey] at hkept
  obtain ⟨e, he, hkey⟩ := List.mem_map.1 hkept
  rcases List.mem_append.1 he with he | he
  · have hle : e.1.toList.length ≤ ((entries pre).map fun e => e.1.toList.length).sum :=
      List.le_sum_of_mem (List.mem_map_of_mem he)
    rw [hkey, String.toList_ofList, longKey, List.length_replicate] at hle
    omega
  · obtain ⟨l, hl, he⟩ := List.mem_filterMap.1 he
    rw [List.mem_singleton.1 hl] at he
    have hcomplete : Complete begun :=
      complete_iff.2 ((goesOn_append h.start_even _).trans (goesOn_dropLast htrim))
    have hne : begun ≠ [] := List.append_ne_nil_of_left_ne_nil h.start_ne_nil _
    have hfirst : ∀ c, begun.head? = some c → isBlank c = false := by
      intro c hc
      rw [List.head?_append_of_ne_nil _ h.start_ne_nil] at hc
      exact Text.trimStart_eq_self_iff.1 (List.dropWhile_idempotent isBlank a) c hc
    exact ne_longKey hcomplete hne hfirst (Nat.le_add_left ..) he hkey

/-- Breaking a line changes nothing, whatever follows, exactly when trimming the second
part does not make it go on. -/
theorem read_broken_iff {pre a b w : List Char} (h : Break pre a b w) :
    (∀ suf, read (pre ++ (a ++ b ++ '\n' :: suf)) =
        read (pre ++ (a ++ '\\' :: '\n' :: (w ++ b ++ '\n' :: suf)))) ↔
      goesOn (Text.trimEnd b) = goesOn b := by
  constructor
  · intro hall
    cases htrim : goesOn (Text.trimEnd b) with
    | false =>
        cases hb : goesOn b with
        | false => rfl
        | true =>
            rw [trimEnd_of_goesOn hb, hb] at htrim
            cases htrim
    | true =>
        cases hb : goesOn b with
        | true => rfl
        | false =>
            obtain ⟨suf, hne⟩ := h.exists_read_ne htrim hb
            exact absurd (hall suf) hne
  · intro hb suf
    rw [read, h.entries_eq hb]
    rfl

/-- A list of locations is broken behind a comma. -/
theorem read_broken_locations :
    Break "k=v\n".toList "flyway.locations=filesystem:a, ".toList "filesystem:b".toList
        "    ".toList ∧
      ∀ suf, read ("k=v\n".toList ++ ("flyway.locations=filesystem:a, ".toList ++
          "filesystem:b".toList ++ '\n' :: suf)) =
        read ("k=v\n".toList ++ ("flyway.locations=filesystem:a, ".toList ++
          '\\' :: '\n' :: ("    ".toList ++ "filesystem:b".toList ++ '\n' :: suf))) := by
  have h : Break "k=v\n".toList "flyway.locations=filesystem:a, ".toList
      "filesystem:b".toList "    ".toList := by
    refine ⟨.inr ⟨"k=v".toList, '\n', by decide +kernel, by decide⟩, by decide +kernel,
      List.forall_iff_forall_mem.1 (by decide +kernel), by decide +kernel, by decide +kernel, ?_,
      by decide +kernel⟩
    intro c hc
    obtain rfl := Option.some.inj hc
    decide
  exact ⟨h, (read_broken_iff h).2 (by decide +kernel)⟩

/-- The second part ends in a backslash and a blank; broken in front of it, the line takes
the next property along. -/
theorem read_broken_swallows :
    let a := "a=".toList
    let b := "x\\ ".toList
    let suf := "c=d\n".toList
    Break [] a b [] ∧ read ([] ++ (a ++ b ++ '\n' :: suf)) = .ofList [("a", "x"), ("c", "d")] ∧
      read ([] ++ (a ++ '\\' :: '\n' :: ([] ++ b ++ '\n' :: suf))) = .ofList [("a", "xc=d")] ∧
        read ([] ++ (a ++ b ++ '\n' :: suf)) ≠
          read ([] ++ (a ++ '\\' :: '\n' :: ([] ++ b ++ '\n' :: suf))) := by
  intro a b suf
  have h : Break [] a b [] := by
    refine ⟨.inl rfl, by decide +kernel, List.forall_iff_forall_mem.1 (by decide +kernel),
      by decide +kernel, by decide +kernel, ?_, by decide⟩
    intro c hc
    obtain rfl := Option.some.inj hc
    decide
  exact ⟨h, by decide +kernel, by decide +kernel, by decide +kernel⟩

end MigrationConfig.PropertiesText
