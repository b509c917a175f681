/-
# Where a line is split

The key of a line ends at its first separator or blank that has no backslash in
front.  Only separators and blanks are lost between the key and the value
(`splitLine_parts`), and no character is made up; so the entries of a text have no line
breaks but those that an escape stands for.

For a line that begins with a complete text there are two cases (`Splits`):
the key ends in that text, and what follows belongs to the value; or all of it belongs
to the key, and what follows is split as if it stood alone.

So blanks behind a complete line make no difference to its entry
(`entry?_append_blanks`), for they are trimmed off wherever they come to stand.  Behind a
backslash they would.
-/
import MigrationConfig.Proofs.Lines

namespace MigrationConfig.PropertiesText

open Text (isBlank)

/-! ## Runs of blanks -/

/-- A run of spaces and tabs. -/
def IsGap (w : List Char) : Prop := ∀ c ∈ w, c = ' ' ∨ c = '\t'

instance (w : List Char) : Decidable (IsGap w) :=
  List.decidableBAll (fun c => c = ' ' ∨ c = '\t') w

theorem IsGap.isBlank {w : List Char} (hw : IsGap w) : ∀ c ∈ w, isBlank c = true := by
  intro c hc
  rcases hw c hc with rfl | rfl <;> decide

theorem IsGap.not_break {w : List Char} (hw : IsGap w) :
    ∀ c ∈ w, Text.isLineBreak c = false := by
  intro c hc
  rcases hw c hc with rfl | rfl <;> decide

/-- Blanks behind blanks make no difference. -/
theorem afterBlanks_append {w : List Char} (hw : ∀ c ∈ w, isBlank c = true) (t : List Char) :
    afterBlanks (w ++ t) = afterBlanks t := by
  rw [afterBlanks, Text.trimStart_blanks_append hw]
  rfl

theorem not_separator_of_isBlank {c : Char} (hc : isBlank c = true) : isSeparator c = false := by
  rw [isSeparator, Bool.or_eq_false_iff, beq_eq_false_iff_ne, beq_eq_false_iff_ne]
  refine ⟨?_, ?_⟩ <;> rintro rfl <;> exact absurd hc (by decide)

/-- One separator behind blanks is dropped. -/
theorem afterBlanks_separator {c : Char} (hc : isSeparator c = true) (t : List Char) :
    afterBlanks (c :: t) = t := by
  have hblank : isBlank c = false := by
    rw [← Bool.not_eq_true]
    intro h
    rw [not_separator_of_isBlank h] at hc
    cases hc
  have hstart : Text.trimStart (c :: t) = c :: t :=
    List.dropWhile_cons_of_neg (by simp [hblank])
  rw [afterBlanks, hstart]
  exact if_pos hc

/-- What begins with neither a blank nor a separator stays as it is. -/
theorem afterBlanks_eq_self {t : List Char}
    (ht : ∀ c, t.head? = some c → isBlank c = false ∧ isSeparator c = false) :
    afterBlanks t = t := by
  have hstart : Text.trimStart t = t :=
    Text.trimStart_eq_self_iff.2 fun c hc => (ht c hc).1
  rw [afterBlanks, hstart]
  cases t with
  | nil => rfl
  | cons c t => exact if_neg (by simp [(ht c rfl).2])

theorem afterBlanks_blanks {s : List Char} (hs : ∀ c ∈ s, isBlank c = true) :
    afterBlanks s = [] := by
  have hnil : Text.trimStart s = [] := List.dropWhile_eq_nil_iff.2 hs
  rw [afterBlanks, hnil]

/-! ## One character -/

theorem splitLine_pair (c : Char) (s : List Char) :
    splitLine false ('\\' :: c :: s) =
      ('\\' :: c :: (splitLine false s).1, (splitLine false s).2) := rfl

theorem splitLine_separator {c : Char} (hc : isSeparator c = true) (s : List Char) :
    splitLine false (c :: s) = ([], s) := by
  have hslash : (c == '\\') = false := by
    rw [beq_eq_false_iff_ne]
    rintro rfl
    exact absurd hc (by decide)
  rw [splitLine, if_neg Bool.false_ne_true, hslash, if_neg Bool.false_ne_true, if_pos hc]

theorem splitLine_blank {c : Char} (hc : isBlank c = true) (s : List Char) :
    splitLine false (c :: s) = ([], afterBlanks s) := by
  have hslash : (c == '\\') = false := beq_eq_false_iff_ne.2 (ne_backslash_of_isBlank hc)
  have hsep : isSeparator c = false := not_separator_of_isBlank hc
  rw [splitLine, if_neg Bool.false_ne_true, hslash, if_neg Bool.false_ne_true, hsep,
    if_neg Bool.false_ne_true, if_pos hc]

theorem splitLine_plain {c : Char} (hslash : c ≠ '\\') (hsep : isSeparator c = false)
    (hblank : isBlank c = false) (s : List Char) :
    splitLine false (c :: s) = (c :: (splitLine false s).1, (splitLine false s).2) := by
  rw [splitLine, if_neg Bool.false_ne_true, if_neg (by simpa using hslash), hsep,
    if_neg Bool.false_ne_true, hblank, if_neg Bool.false_ne_true]

/-! ## The parts of a line -/

/-- Separators and blanks. -/
def IsFiller (g : List Char) : Prop := ∀ c ∈ g, isSeparator c = true ∨ isBlank c = true

theorem IsFiller.complete {g : List Char} (hg : IsFiller g) : Complete g := by
  refine (complete_of_not_mem fun c hc => ?_).1
  rcases hg c hc with hsep | hblank
  · rintro rfl
    exact absurd hsep (by decide)
  · exact ne_backslash_of_isBlank hblank

/-- Behind the blanks that end a key, only blanks and separators are skipped. -/
theorem exists_filler_afterBlanks (s : List Char) :
    ∃ g, s = g ++ afterBlanks s ∧ IsFiller g := by
  have hparts : s.takeWhile isBlank ++ Text.trimStart s = s := List.takeWhile_append_dropWhile
  have hblanks : IsFiller (s.takeWhile isBlank) :=
    fun c hc => .inr (List.mem_takeWhile_imp hc)
  unfold afterBlanks
  split
  · next hnil =>
      rw [hnil] at hparts
      exact ⟨s.takeWhile isBlank, hparts.symm, hblanks⟩
  · next c rest hcons =>
      rw [hcons] at hparts
      split
      · next hc =>
          refine ⟨s.takeWhile isBlank ++ [c], ?_, fun d hd => ?_⟩
          · rw [List.append_assoc, List.singleton_append, hparts]
          · rcases List.mem_append.1 hd with hd | hd
            · exact hblanks d hd
            · rw [List.mem_singleton.1 hd]
              exact .inl hc
      · exact ⟨s.takeWhile isBlank, hparts.symm, hblanks⟩

/-- The key `k` and the value `v` of a line, with `g` between them: the key is all of the
line, or it is complete where it ends. -/
structure Parts (l k g v : List Char) : Prop where
  line : l = k ++ g ++ v
  filler : IsFiller g
  ends : g = [] ∧ v = [] ∨ g ≠ [] ∧ Complete k

/-- A complete text in front goes to the key. -/
theorem Parts.behind {u l k g v : List Char} (h : Parts l k g v) (hu : Complete u) :
    Parts (u ++ l) (u ++ k) g v where
  line := by rw [h.line, List.append_assoc, List.append_assoc, List.append_assoc]
  filler := h.filler
  ends := h.ends.imp_right fun ⟨hg, hk⟩ => ⟨hg, hu.append hk⟩

theorem parts_whole (l : List Char) : Parts l l [] [] :=
  ⟨by simp, fun _ hc => absurd hc List.not_mem_nil, .inl ⟨rfl, rfl⟩⟩

/-- The key is empty when the first character of the line is skipped. -/
theorem parts_empty {c : Char} {l g v : List Char} (hl : l = g ++ v) (hg : IsFiller (c :: g)) :
    Parts (c :: l) [] (c :: g) v :=
  ⟨congrArg (c :: ·) hl, hg, .inr ⟨List.cons_ne_nil c g, .nil⟩⟩

/-- A line is its key, separators and blanks that are skipped, and its value. -/
theorem splitLine_parts (l : List Char) :
    ∃ g, Parts l (splitLine false l).1 g (splitLine false l).2 := by
  induction l using unescape.induct with
  | case1 => exact ⟨[], parts_whole []⟩
  | case2 => exact ⟨[], parts_whole ['\\']⟩
  | case3 c rest ih =>
      obtain ⟨g, hg⟩ := ih
      rw [splitLine_pair]
      exact ⟨g, hg.behind (u := ['\\', c]) (.pair c .nil)⟩
  | case4 c rest hnil hcons ih =>
      have hslash := ne_backslash hnil hcons
      cases hsep : isSeparator c with
      | true =>
          have hone : IsFiller [c] := by
            intro d hd
            rw [List.mem_singleton.1 hd]
            exact .inl hsep
          rw [splitLine_separator hsep]
          exact ⟨[c], parts_empty rfl hone⟩
      | false =>
          cases hblank : isBlank c with
          | true =>
              obtain ⟨g, hrest, hg⟩ := exists_filler_afterBlanks rest
              have hall : IsFiller (c :: g) := by
                intro d hd
                rcases List.mem_cons.1 hd with rfl | hd
                · exact .inr hblank
                · exact hg d hd
              rw [splitLine_blank hblank]
              exact ⟨c :: g, parts_empty hrest hall⟩
          | false =>
              obtain ⟨g, hg⟩ := ih
              rw [splitLine_plain hslash hsep hblank]
              exact ⟨g, hg.behind (u := [c]) (.plain hslash .nil)⟩

theorem mem_splitLine {c : Char} {l : List Char}
    (h : c ∈ (splitLine false l).1 ∨ c ∈ (splitLine false l).2) : c ∈ l := by
  obtain ⟨g, hparts⟩ := splitLine_parts l
  rw [hparts.line, List.mem_append, List.mem_append]
  exact h.imp_left .inl

/-! ## Entries -/

theorem entry?_eq (l : List Char) :
    entry? l =
      if (Text.trim (splitLine false l).1).isEmpty then none
      else some (String.ofList (unescape (Text.trim (splitLine false l).1)),
        String.ofList (unescape (Text.trim (splitLine false l).2))) := rfl

/-- A line with a key has an entry. -/
theorem entry?_of_key {l : List Char} (h : Text.trim (splitLine false l).1 ≠ []) :
    entry? l = some (String.ofList (unescape (Text.trim (splitLine false l).1)),
      String.ofList (unescape (Text.trim (splitLine false l).2))) := by
  rw [entry?_eq]
  exact if_neg (by simpa using h)

theorem entry?_eq_some {l : List Char} {e : String × String} (h : entry? l = some e) :
    e = (String.ofList (unescape (Text.trim (splitLine false l).1)),
      String.ofList (unescape (Text.trim (splitLine false l).2))) := by
  rw [entry?_eq] at h
  split at h
  · cases h
  · exact (Option.some.inj h).symm

/-- A line break that comes out of a text was written as an escape. -/
theorem break_of_mem_entries {text : List Char} {k v : String} (h : (k, v) ∈ entries text)
    {c : Char} (hc : c ∈ k.toList ∨ c ∈ v.toList) (hb : Text.isLineBreak c = true) :
    c ∈ ['\n', '\r', '\x0c'] := by
  obtain ⟨l, hl, he⟩ := List.mem_filterMap.1 h
  have hbreaks : ∀ {x : List Char}, (∀ {d}, d ∈ x → d ∈ l) → c ∈ unescape (Text.trim x) →
      c ∈ ['\n', '\r', '\x0c'] := by
    intro x hx hcx
    rcases mem_unescape hcx with hcx | hcx
    · rcases mem_logicalLines hl (hx (Text.mem_of_mem_trim hcx)) with h | ⟨l', hl', hc'⟩
      · cases h
      · rw [Text.not_break_of_mem_lines hl' hc'] at hb
        cases hb
    · rcases List.mem_cons.1 hcx with rfl | hcx
      · exact absurd hb (by decide)
      · exact hcx
  cases entry?_eq_some he
  rw [String.toList_ofList, String.toList_ofList] at hc
  rcases hc with hc | hc
  · exact hbreaks (fun hd => mem_splitLine (.inl hd)) hc
  · exact hbreaks (fun hd => mem_splitLine (.inr hd)) hc

/-! ## A complete beginning -/

/-- What a text does to the key of a line that begins with it. -/
inductive Splits (x : List Char) : Prop where
  /-- all of it belongs to the key -/
  | inKey (h : ∀ t, splitLine false (x ++ t) = (x ++ (splitLine false t).1, (splitLine false t).2))
  /-- the key ends at a separator of the text -/
  | atSeparator {k rest : List Char} {c : Char} (hc : isSeparator c = true)
      (hx : x = k ++ c :: rest) (h : ∀ t, splitLine false (x ++ t) = (k, rest ++ t))
  /-- the key ends at a blank of the text -/
  | atBlank {k rest : List Char} {c : Char} (hc : isBlank c = true)
      (hx : x = k ++ c :: rest) (h : ∀ t, splitLine false (x ++ t) = (k, afterBlanks (rest ++ t)))

/-- A part of the key in front changes nothing. -/
theorem Splits.behind {u x : List Char}
    (hu : ∀ t, splitLine false (u ++ t) = (u ++ (splitLine false t).1, (splitLine false t).2))
    (hx : Splits x) : Splits (u ++ x) := by
  cases hx with
  | inKey h =>
      refine .inKey fun t => ?_
      rw [List.append_assoc, hu, h, List.append_assoc]
  | @atSeparator k rest c hc hx h =>
      refine .atSeparator (k := u ++ k) hc (by rw [hx, List.append_assoc]) fun t => ?_
      rw [List.append_assoc, hu, h]
  | @atBlank k rest c hc hx h =>
      refine .atBlank (k := u ++ k) hc (by rw [hx, List.append_assoc]) fun t => ?_
      rw [List.append_assoc, hu, h]

theorem Complete.splits {x : List Char} (hx : Complete x) : Splits x := by
  induction hx with
  | nil => exact .inKey fun t => rfl
  | @plain c s hc _ ih =>
      cases hsep : isSeparator c with
      | true => exact .atSeparator (k := []) hsep rfl fun t => splitLine_separator hsep (s ++ t)
      | false =>
          cases hblank : isBlank c with
          | true => exact .atBlank (k := []) hblank rfl fun t => splitLine_blank hblank (s ++ t)
          | false => exact ih.behind (u := [c]) fun t => splitLine_plain hc hsep hblank t
  | @pair c s _ ih => exact ih.behind (u := ['\\', c]) fun t => splitLine_pair c t

/-- A text without separators, blanks and backslashes belongs to the key. -/
theorem splitLine_bare {k : List Char}
    (hk : ∀ c ∈ k, isBlank c = false ∧ isSeparator c = false ∧ c ≠ '\\') (t : List Char) :
    splitLine false (k ++ t) = (k ++ (splitLine false t).1, (splitLine false t).2) := by
  have hcomplete : Complete k := (complete_of_not_mem fun c hc => (hk c hc).2.2).1
  cases hcomplete.splits with
  | inKey h => exact h t
  | atSeparator hc hx _ =>
      rw [(hk _ (by rw [hx]; simp)).2.1] at hc
      cases hc
  | atBlank hc hx _ =>
      rw [(hk _ (by rw [hx]; simp)).1] at hc
      cases hc

/-! ## Blanks at the end -/

theorem trim_afterBlanks_append {s : List Char} (hs : ∀ c ∈ s, isBlank c = true)
    (rest : List Char) :
    Text.trim (afterBlanks (rest ++ s)) = Text.trim (afterBlanks rest) := by
  by_cases hrest : ∀ c ∈ rest, isBlank c = true
  · rw [afterBlanks_blanks hrest, afterBlanks_blanks]
    exact fun c hc => (List.mem_append.1 hc).elim (hrest c) (hs c)
  · have hne : Text.trimStart rest ≠ [] := fun hnil => hrest (List.dropWhile_eq_nil_iff.1 hnil)
    obtain ⟨c, cs, hstart⟩ := List.exists_cons_of_ne_nil hne
    rw [afterBlanks, afterBlanks, Text.trimStart_append hne, hstart, List.cons_append]
    dsimp only
    split
    · exact Text.trim_append_blanks hs cs
    · exact Text.trim_append_blanks hs (c :: cs)

/-- Blanks behind a complete line change neither its key nor its trimmed value. -/
theorem splitLine_append_blanks {l s : List Char} (hl : Complete l)
    (hs : ∀ c ∈ s, isBlank c = true) :
    (splitLine false (l ++ s)).1 = (splitLine false l).1 ∧
      Text.trim (splitLine false (l ++ s)).2 = Text.trim (splitLine false l).2 := by
  have hblanks : splitLine false s = ([], []) := by
    cases s with
    | nil => rfl
    | cons c s =>
        rw [splitLine_blank (hs c (by simp)),
          afterBlanks_blanks fun d hd => hs d (List.mem_cons_of_mem _ hd)]
  have hself : splitLine false l = splitLine false (l ++ []) := by rw [List.append_nil]
  rw [hself]
  cases hl.splits with
  | inKey h =>
      rw [h, h, hblanks]
      exact ⟨rfl, rfl⟩
  | @atSeparator k rest c hc hx h =>
      rw [h, h, List.append_nil]
      exact ⟨rfl, Text.trim_append_blanks hs rest⟩
  | @atBlank k rest c hc hx h =>
      rw [h, h, List.append_nil]
      exact ⟨rfl, trim_afterBlanks_append hs rest⟩

theorem entry?_append_blanks {l s : List Char} (hl : Complete l)
    (hs : ∀ c ∈ s, isBlank c = true) : entry? (l ++ s) = entry? l := by
  obtain ⟨hkey, hvalue⟩ := splitLine_append_blanks hl hs
  rw [entry?_eq, entry?_eq, hkey, hvalue]

end MigrationConfig.PropertiesText
