/-
# Upper and lower case

The full case mappings: a character may grow to several, and the lower case of
a capital sigma depends on its neighbours.  Comparisons that only ask for an
ASCII word use `asciiLower`; no other character has a lower case within the
words that are asked for.
-/
import MigrationConfig.Text.CaseTable

namespace MigrationConfig.Text

/-- The character that a table of shifts maps `n` to. -/
def Shift.apply (table : List Shift) (n : Nat) : Nat :=
  match table.find? fun s => s.first ≤ n && n ≤ s.last && (n - s.first) % s.step == 0 with
  | some s => (Int.ofNat n + s.offset).toNat
  | none => n

/-- The upper case of one character. -/
def upperChar (c : Char) : List Char :=
  match CaseTable.upperExpansions.lookup c.toNat with
  | some cs => cs.map Char.ofNat
  | none => [Char.ofNat (Shift.apply CaseTable.upperShifts c.toNat)]

/-- The upper case of a text. -/
def upper (s : List Char) : List Char := s.flatMap upperChar

/-- The character lies in one of the closed ranges. -/
def inRanges (ranges : List (Nat × Nat)) (c : Char) : Bool :=
  ranges.any fun r => r.1 ≤ c.toNat && c.toNat ≤ r.2

/-- The next character that is not case-ignorable is a cased one. -/
def meetsCased (s : List Char) : Bool :=
  match s.dropWhile (inRanges CaseTable.ignorableRanges) with
  | [] => false
  | c :: _ => inRanges CaseTable.casedRanges c

/-- The lower case of one character that stands after `before` (nearest first)
and in front of `after`.  A capital sigma at the end of a word becomes a final
one; a capital I with a dot keeps the dot as a combining mark. -/
def lowerChar (before : List Char) (c : Char) (after : List Char) : List Char :=
  if c.toNat == 0x3A3 then
    [Char.ofNat (if meetsCased before && !meetsCased after then 0x3C2 else 0x3C3)]
  else if c.toNat == 0x130 then [Char.ofNat 0x69, Char.ofNat 0x307]
  else [Char.ofNat (Shift.apply CaseTable.lowerShifts c.toNat)]

/-- The lower case of the text that follows `before` (nearest first). -/
def lowerAfter (before : List Char) : List Char → List Char
  | [] => []
  | c :: after => lowerChar before c after ++ lowerAfter (c :: before) after

/-- The lower case of a text. -/
def lower (s : List Char) : List Char := lowerAfter [] s

/-- The lower case of the ASCII letters; all else is kept. -/
def asciiLower (s : List Char) : List Char :=
  s.map fun c => if 0x41 ≤ c.toNat && c.toNat ≤ 0x5A then Char.ofNat (c.toNat + 32) else c

end MigrationConfig.Text
