/-
# Tokens

Lists are written in one text with a separator between their items.  Reading
such a text cuts it at every separator, from the left and without overlap, trims
the pieces and drops the blank ones.
-/
import MigrationConfig.Text.Blank

namespace MigrationConfig.Text

/-- Cuts a text at `sep`; `skip` more characters belong to the separator that
was met last. -/
def splitFrom (sep : List Char) : Nat → List Char → List (List Char)
  | _, [] => [[]]
  | skip + 1, _ :: rest => splitFrom sep skip rest
  | 0, c :: rest =>
      if sep.isPrefixOf (c :: rest) then [] :: splitFrom sep (sep.length - 1) rest
      else match splitFrom sep 0 rest with
        | [] => [[c]]
        | piece :: pieces => (c :: piece) :: pieces

/-- The pieces of a text between the occurrences of a non-empty separator. -/
def splitOn (sep s : List Char) : List (List Char) := splitFrom sep 0 s

/-- The tokens of a text: its pieces, trimmed, without the blank ones. -/
def tokens (sep s : List Char) : List (List Char) :=
  ((splitOn sep s).map trim).filter fun t => !t.isEmpty

/-- The tokens of a text with commas. -/
def tokenize (s : String) : List String := (tokens [','] s.toList).map String.ofList

/-- The text of a list: its items with a comma between them. -/
def joinComma (items : List String) : String := ",".intercalate items

end MigrationConfig.Text
