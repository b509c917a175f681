/-
# Lines taken one by one

Reading the lines of a text carries one thing along: the line that has been begun
and goes on.  What a line does to it is said here once (`takeLine`), as a step with
two results, the logical line that ends and the line that is begun afterwards.  The
logical lines of a text are what the steps yield, and at the end what is left.

A text that leaves nothing begun is *closed*.  Whatever follows a closed text is read
as if it stood alone (`read_append`), and this is the only thing that two texts can
have to do with each other: a comment that ends in a backslash, or a blank line, leaves
nothing behind.
-/
import MigrationConfig.Proofs.Lines
import MigrationConfig.Proofs.Maps

namespace MigrationConfig.PropertiesText

/-! ## One line -/

/-- What a line does to the begun one: the logical line that it ends, if it ends one, and
the line that is begun afterwards. -/
def takeLine (begun raw : List Char) : Option (List Char) × List Char :=
  let line := if begun.isEmpty then Text.trimStart raw else Text.trim raw
  if begun.isEmpty && isPassedOver line then (none, begun)
  else if goesOn line then (none, begun ++ line.dropLast)
  else (some (begun ++ line), [])

theorem logicalLines_cons (begun raw : List Char) (rest : List (List Char)) :
    logicalLines begun (raw :: rest) =
      (takeLine begun raw).1.toList ++ logicalLines (takeLine begun raw).2 rest := by
  rw [logicalLines, takeLine]
  -- how the line is trimmed does not matter here
  generalize (if begun.isEmpty then Text.trimStart raw else Text.trim raw) = line
  cases begun.isEmpty && isPassedOver line with
  | true => rfl
  | false => cases goesOn line <;> rfl

theorem isPassedOver_append {l : List Char} (hl : isPassedOver l = false) (t : List Char) :
    isPassedOver (l ++ t) = false := by
  cases l with
  | nil => cases hl
  | cons c l => exact hl

/-- A line that begins a logical line. -/
theorem takeLine_first {raw : List Char} (h : isPassedOver (Text.trimStart raw) = false) :
    takeLine [] raw =
      if goesOn (Text.trimStart raw) then (none, (Text.trimStart raw).dropLast)
      else (some (Text.trimStart raw), []) := by
  simp [takeLine, h]

/-- A line that continues another. -/
theorem takeLine_next {begun : List Char} (hb : begun ≠ []) (raw : List Char) :
    takeLine begun raw =
      if goesOn (Text.trim raw) then (none, begun ++ (Text.trim raw).dropLast)
      else (some (begun ++ Text.trim raw), []) := by
  simp [takeLine, hb]

/-! ## All lines -/

/-- The line that is begun when lines have been taken. -/
def begunAfter (begun : List Char) (ls : List (List Char)) : List Char :=
  ls.foldl (fun begun raw => (takeLine begun raw).2) begun

theorem begunAfter_append (begun : List Char) (ls ls' : List (List Char)) :
    begunAfter begun (ls ++ ls') = begunAfter (begunAfter begun ls) ls' :=
  List.foldl_append

/-- Lines that leave nothing begun do not touch those that follow. -/
theorem logicalLines_append {begun : List Char} {ls : List (List Char)}
    (h : begunAfter begun ls = []) (ls' : List (List Char)) :
    logicalLines begun (ls ++ ls') = logicalLines begun ls ++ logicalLines [] ls' := by
  induction ls generalizing begun with
  | nil =>
      have hb : begun = [] := h
      rw [hb]
      rfl
  | cons raw rest ih =>
      rw [List.cons_append, logicalLines_cons, logicalLines_cons, ih h, List.append_assoc]

/-- A text that leaves nothing begun: its last line is passed over, or ends a logical
line. -/
def Closed (text : List Char) : Prop := begunAfter [] (Text.lines text) = []

instance (text : List Char) : Decidable (Closed text) :=
  inferInstanceAs (Decidable (begunAfter [] (Text.lines text) = []))

/-- A line feed behind a closed text makes no difference. -/
theorem logicalLines_concat_feed {s : List Char} (hs : Closed s) :
    begunAfter [] (Text.lines (s ++ ['\n'])) = [] ∧
      logicalLines [] (Text.lines (s ++ ['\n'])) = logicalLines [] (Text.lines s) := by
  rcases Text.lines_concat_feed s with h | h
  · rw [h]
    exact ⟨hs, rfl⟩
  · have hblank : begunAfter [] (Text.lines s ++ [[]]) = begunAfter [] (Text.lines s) := by
      rw [begunAfter_append, hs]
      rfl
    rw [h, hblank, logicalLines_append hs]
    exact ⟨hs, List.append_nil _⟩

/-- The entries of a text that follows a closed one on a new line. -/
theorem entries_append {s : List Char} (hs : Closed s) (t : List Char) :
    entries (s ++ '\n' :: t) = entries s ++ entries t := by
  obtain ⟨hclosed, hsame⟩ := logicalLines_concat_feed hs
  have hlines : Text.lines (s ++ '\n' :: t) = Text.lines (s ++ ['\n']) ++ Text.lines t :=
    Text.lines_append_break (by decide) (by simp) s
  rw [entries, hlines, logicalLines_append hclosed, hsame, List.filterMap_append]
  rfl

/-- What follows a closed text overrides it. -/
theorem read_append {s : List Char} (hs : Closed s) (t : List Char) :
    read (s ++ '\n' :: t) = (read s).union (read t) := by
  rw [read, entries_append hs, PropertyMap.ofList_append]
  rfl

end MigrationConfig.PropertiesText
