/-
# Paths

A path is an optional root and a list of components.  Writing one drops empty
components and single dots, so that two spellings of one path are equal; a
component of two dots is kept, for what it names depends on the file tree.
-/
import MigrationConfig.Text.Token

namespace MigrationConfig

/-- A path: the slashes it starts with, and its components. -/
structure Path where
  root : String
  parts : List String
  deriving DecidableEq, Inhabited

namespace Path

/-- The root of a path text: no slash, two slashes exactly, or one. -/
def rootOf (s : List Char) : String :=
  match s with
  | '/' :: '/' :: '/' :: _ => "/"
  | '/' :: '/' :: _ => "//"
  | '/' :: _ => "/"
  | _ => ""

def ofString (s : String) : Path :=
  ⟨rootOf s.toList,
    ((Text.splitOn ['/'] s.toList).filter fun p => !p.isEmpty && p != ['.']).map String.ofList⟩

/-- Writes a path; the path without root and components is a single dot. -/
def toString (p : Path) : String :=
  if p.parts.isEmpty && p.root.isEmpty then "." else p.root ++ "/".intercalate p.parts

instance : ToString Path := ⟨toString⟩

/-- The path without its last component. -/
def parent (p : Path) : Path := { p with parts := p.parts.dropLast }

/-- The path with one more component. -/
def child (p : Path) (name : String) : Path := { p with parts := p.parts ++ [name] }

def fileName (p : Path) : String := p.parts.getLast?.getD ""

/-- The extension of the last component: from its last dot on, unless the dot
is its first or its last character. -/
def suffix (p : Path) : List Char :=
  let reversed := p.fileName.toList.reverse
  let tail := reversed.takeWhile (· != '.')
  let stem := (reversed.dropWhile (· != '.')).drop 1
  if tail.isEmpty || stem.isEmpty then [] else '.' :: tail.reverse

end Path

end MigrationConfig
