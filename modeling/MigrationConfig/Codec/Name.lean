/-
# Names of encodings

A name is looked up without regard to case and punctuation: letters are taken
in lower case, every run of characters other than ASCII letters, digits and
dots counts as one underscore, and such a run at either end counts as nothing.
-/
import MigrationConfig.Codec.Registry

namespace MigrationConfig.Codec

/-- The character belongs to a word of a name. -/
def isNameChar (c : Char) : Bool :=
  let n := c.toNat
  (0x30 ≤ n && n ≤ 0x39) || (0x41 ≤ n && n ≤ 0x5A) || (0x61 ≤ n && n ≤ 0x7A) || c == '.'

/-- Lower case of an ASCII letter. -/
def foldChar (c : Char) : Char :=
  if 0x41 ≤ c.toNat && c.toNat ≤ 0x5A then Char.ofNat (c.toNat + 32) else c

/-- The words of a name joined by underscores; `pending` tells that a run of
punctuation has been passed after a word. -/
def foldName (started pending : Bool) : List Char → List Char
  | [] => []
  | c :: rest =>
      if isNameChar c then
        (if pending && started then ['_'] else []) ++ foldChar c :: foldName true false rest
      else foldName started true rest

/-- The spelling that names are compared in. -/
def fold (name : String) : List Char := foldName false false name.toList

/-- The spelling with underscores for dots. -/
def undotted (s : List Char) : List Char := s.map fun c => if c == '.' then '_' else c

/-- The encoding of a folded spelling: by an alias, by an alias with underscores
for dots, or by its own spelling. -/
def find? (s : List Char) : Option Entry :=
  let byAlias (s : List Char) := registry.find? fun e => e.aliases.any fun a => a.toList == s
  match byAlias s with
  | some e => some e
  | none =>
      match byAlias (undotted s) with
      | some e => some e
      | none => registry.find? fun e => e.modules.any fun a => a.toList == s

/-- Looks an encoding up by any of its names. -/
def lookup? (name : String) : Option Entry := find? (fold name)

end MigrationConfig.Codec
