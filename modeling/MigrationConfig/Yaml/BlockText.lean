/-
# Block scalars

A literal or folded text that is set off by its indentation.  Its header may
give the indentation and say what becomes of the line ends behind the text: one
of them is kept, all are, or none.  A folded text has spaces in the place of
single line ends between lines that start at its margin.
-/
import MigrationConfig.Yaml.Cursor
import MigrationConfig.Yaml.Fault

namespace MigrationConfig.Yaml

/-- What becomes of the line ends behind a block scalar. -/
inductive Chomping where
  | clip
  | keep
  | strip
  deriving DecidableEq

namespace BlockText

/-- The chomping that a mark stands for. -/
def chomping? (c : Cursor) : Option Chomping :=
  match c.next? with
  | some '+' => some .keep
  | some '-' => some .strip
  | _ => none

/-- The digit that gives the indentation: absent, or from one to nine. -/
def increment? (c : Cursor) : Except Fault (Option Nat) :=
  match c.next? with
  | none => .ok none
  | some x =>
      if x == '0' then .error .malformed
      else if x.isDigit then .ok (some (x.toNat - '0'.toNat))
      else .ok none

/-- The header of a block scalar behind its mark: chomping and indentation in
either order, then nothing but a comment. -/
def header (c : Cursor) : Except Fault (Chomping × Option Nat × Cursor) := do
  let (chomping, increment, c) ← match chomping? c with
    | some ch => do
        let c := c.step
        let n ← increment? c
        pure (ch, n, if n.isSome then c.step else c)
    | none => do
        match ← increment? c with
        | none => pure (Chomping.clip, none, c)
        | some n =>
            let c := c.step
            match chomping? c with
            | some ch => pure (ch, some n, c.step)
            | none => pure (Chomping.clip, some n, c)
  if !c.endsAt 0 isSpaceOrBreak then throw .malformed
  let c := (c.skipWhile (· == ' ')).skipComment
  if !c.endsAt 0 isBreak then throw .malformed
  return (chomping, increment, (c.lineEnd?.map Prod.snd).getD c)

/-- Goes past spaces up to a column. -/
def toColumn (indent : Nat) (c : Cursor) : Cursor :=
  c.skip (min (indent - c.column) (c.rest.takeWhile (· == ' ')).length)

/-- The line ends of empty lines, and the place after them, at most `indent`
columns into the next line. -/
def emptyLines (indent : Nat) : Nat → Cursor → List Char × Cursor
  | 0, c => ([], c)
  | steps + 1, c =>
      let c := toColumn indent c
      match c.lineEnd? with
      | none => ([], c)
      | some (e, c) =>
          let (es, c) := emptyLines indent steps c
          (e :: es, c)

/-- The line ends of leading blank lines, and the widest indentation among them
and the line after them. -/
def leadingLines : Nat → Cursor → List Char × Nat × Cursor
  | 0, c => ([], 0, c)
  | steps + 1, c =>
      let (spaces, c) := c.span (· == ' ')
      let width := if spaces.isEmpty then 0 else c.column
      match c.lineEnd? with
      | none => ([], width, c)
      | some (e, c) =>
          let (es, w, c) := leadingLines steps c
          (e :: es, max width w, c)

/-- What is read of a block scalar: its text without the last line end, that
line end if there is one, and those of the empty lines behind it. -/
structure Body where
  text : List Char
  last : Option Char
  trailing : List Char
  cursor : Cursor

/-- The lines at the margin `indent`, after empty lines with the ends `ends`. -/
def body (folded : Bool) (indent : Nat) : Nat → List Char → Cursor → Body
  | 0, ends, c => ⟨[], none, ends, c⟩
  | steps + 1, ends, c =>
      if c.column != indent || c.atEnd then ⟨[], none, ends, c⟩
      else
        let startsAtMargin := !c.sees isWhite
        let (line, c) := c.span fun x => !isBreak x
        let (last, c) := match c.lineEnd? with
          | some (e, c) => (some e, c)
          | none => (none, c)
        let (next, c) := emptyLines indent (c.rest.length + 1) c
        if c.column == indent && !c.atEnd then
          let folds := folded && last == some '\n' && startsAtMargin && !c.sees isWhite
          let joint := if folds then (if next.isEmpty then [' '] else []) else last.toList
          let b := body folded indent steps next c
          { b with text := ends ++ line ++ joint ++ b.text }
        else ⟨ends ++ line, last, next, c⟩

/-- Reads a block scalar from its mark on, inside a block at the column
`parent`. -/
def read (folded : Bool) (parent : Int) (c : Cursor) : Except Fault (List Char × Cursor) := do
  let (chomping, increment, c) ← header c.step
  let least := max 1 (parent + 1).toNat
  let (ends, indent, c) := match increment with
    | some n =>
        let indent := least + n - 1
        let (ends, c) := emptyLines indent (c.rest.length + 1) c
        (ends, indent, c)
    | none =>
        let (ends, width, c) := leadingLines (c.rest.length + 1) c
        (ends, max least width, c)
  let b := body folded indent (c.rest.length + 1) ends c
  let kept := match chomping with
    | .strip => []
    | .clip => b.last.toList
    | .keep => b.last.toList ++ b.trailing
  return (b.text ++ kept, b.cursor)

end BlockText

end MigrationConfig.Yaml
