/-
# Documents

The data that a structured settings file holds: scalars, lists and mappings, and
seldom pairs and sets.
A document has two texts.  Its *literal* is how it is shown to the user inside a
list or a mapping; its *plain* text is the literal, but for a text that stands
alone, which is written as it is.

A mapping is flattened to a property map: the keys on the way to a leaf are
joined by dots, and the leaf is written as a setting would be.  Entries that
collide follow the rule of property maps, first place and last value.

A collection may stand inside itself.  A literal shows dots there, so it is
finite; properties and the items of a list go on without end, and such a mapping
is not flattened.
-/
import MigrationConfig.Decimal.FloatText
import MigrationConfig.Property.Map
import MigrationConfig.Text.Quoted
import MigrationConfig.Text.Token
import MigrationConfig.Timestamp

namespace MigrationConfig

/-- A value without parts. -/
inductive Scalar where
  | null
  | flag (b : Bool)
  | number (n : Int)
  | real (x : Float)
  | text (s : String)
  | bytes (bs : List UInt8)
  | stamp (t : Timestamp)
  /-- what is shown of a collection at a place inside itself -/
  | recurrence (ofMapping : Bool)

/-- A scalar, a list or a pair of documents, a set of scalars, or a mapping from
scalars to documents. -/
inductive Document where
  | scalar (s : Scalar)
  | list (items : List Document)
  | pair (first second : Document)
  | set (members : List Scalar)
  | mapping (entries : List (Scalar × Document))

namespace Scalar

/-- The integer that a scalar is equal to: truth counts as one, falsehood as
zero, and a float as the integer it is, if it is one. -/
def integer? : Scalar → Option Int
  | .flag b => some (if b then 1 else 0)
  | .number n => some n
  | .real x => Decimal.integer? x
  | _ => none

/-- Two scalars are the same key.  Numbers are compared by value, whatever they
are written as, and truth values count as numbers; a float that is no number is
not even the same as itself. -/
def sameKey (a b : Scalar) : Bool :=
  match a, b with
  | .null, .null => true
  | .text s, .text t => s == t
  | .bytes s, .bytes t => s == t
  | .stamp s, .stamp t => s.agrees t
  | .real x, .real y => x == y
  | a, b => match a.integer?, b.integer? with
      | some m, some n => m == n
      | _, _ => false

instance : BEq Scalar := ⟨sameKey⟩

def literal : Scalar → String
  | .null => "None"
  | .flag b => if b then "True" else "False"
  | .number n => Text.integerText n
  | .real x => Decimal.floatText x
  | .text s => Text.quoted s
  | .bytes bs => Text.quotedBytes bs
  | .stamp t => t.literal
  | .recurrence ofMapping => if ofMapping then "\x7b...\x7d" else "[...]"

def plain : Scalar → String
  | .text s => s
  | .stamp t => t.text
  | s => s.literal

/-- An integer of more digits than can be written. -/
def isTooLong : Scalar → Bool
  | .number n => Nat.pow 10 Text.digitLimit ≤ n.natAbs
  | _ => false

end Scalar

namespace Document

def text (s : String) : Document := .scalar (.text s)

def number (n : Int) : Document := .scalar (.number n)

/-- The document that stands for absence. -/
def null : Document := .scalar .null

instance : Inhabited Document := ⟨null⟩

def texts (xs : List String) : Document := .list (xs.map text)

def ofText? : Option String → Document
  | none => null
  | some s => text s

/-- The document stands for absence. -/
def isNull : Document → Bool
  | .scalar .null => true
  | _ => false

/-- The literal of a set; between its braces an empty one would be a mapping. -/
def setLiteral : List Scalar → String
  | [] => "set()"
  | members => "\x7b" ++ ", ".intercalate (members.map Scalar.literal) ++ "\x7d"

mutual

def literal : Document → String
  | .scalar s => s.literal
  | .list items => "[" ++ ", ".intercalate (literals items) ++ "]"
  | .pair a b => "(" ++ literal a ++ ", " ++ literal b ++ ")"
  | .set members => setLiteral members
  | .mapping entries => "\x7b" ++ ", ".intercalate (entryLiterals entries) ++ "\x7d"

def literals : List Document → List String
  | [] => []
  | d :: ds => literal d :: literals ds

/-- The literals of the entries of a mapping. -/
def entryLiterals : List (Scalar × Document) → List String
  | [] => []
  | (k, d) :: rest => (k.literal ++ ": " ++ literal d) :: entryLiterals rest

end

def plain : Document → String
  | .scalar s => s.plain
  | d => d.literal

mutual

/-- A document written as the value of a setting: truth values in lower case,
the items of a list or a pair with commas between them, all else as plain text. -/
def settingText : Document → String
  | .scalar (.flag b) => if b then "true" else "false"
  | .scalar s => s.plain
  | .list items => Text.joinComma (settingTexts items)
  | .pair a b => Text.joinComma [settingText a, settingText b]
  | .set members => setLiteral members
  | .mapping entries => literal (.mapping entries)

/-- The items of a list, each written as a setting. -/
def settingTexts : List Document → List String
  | [] => []
  | d :: ds => settingText d :: settingTexts ds

end

/-- The key of an entry below `parent`; an empty parent adds nothing. -/
def dotted (parent : String) (key : Scalar) : String :=
  if parent.isEmpty then key.plain else parent ++ "." ++ key.plain

/-- Flattens the entries of a mapping below `parent`, on top of `flat`.  A
mapping is flattened on its own first and then laid over what is there; a null
adds no entry. -/
def flattenOver (flat : PropertyMap) (parent : String) :
    List (Scalar × Document) → PropertyMap
  | [] => flat
  | (k, .mapping entries) :: rest =>
      flattenOver (flat.union (flattenOver .empty (dotted parent k) entries)) parent rest
  | (_, .scalar .null) :: rest => flattenOver flat parent rest
  | (k, d) :: rest => flattenOver (flat.insert (dotted parent k) (settingText d)) parent rest

/-- The property map of a mapping. -/
def flatten (entries : List (Scalar × Document)) (parent : String) : PropertyMap :=
  flattenOver .empty parent entries

mutual

/-- An integer somewhere in the document has more digits than can be written. -/
def hasTooLong : Document → Bool
  | .scalar s => s.isTooLong
  | .list items => anyTooLong items
  | .pair a b => hasTooLong a || hasTooLong b
  | .set members => members.any Scalar.isTooLong
  | .mapping entries => anyEntryTooLong entries

/-- One of the documents has an integer that is too long. -/
def anyTooLong : List Document → Bool
  | [] => false
  | d :: ds => hasTooLong d || anyTooLong ds

/-- One of the entries has an integer that is too long. -/
def anyEntryTooLong : List (Scalar × Document) → Bool
  | [] => false
  | (k, d) :: rest => k.isTooLong || hasTooLong d || anyEntryTooLong rest

end

/-- What has no end, because it stands inside itself: the text of a list, the
properties of a mapping, or the way to a text. -/
inductive Endless where
  | list
  | mapping
  | text
  deriving DecidableEq

/-- What keeps a document from being written. -/
inductive Obstacle where
  | endless (what : Endless)
  /-- an integer has more digits than can be written -/
  | tooLong
  deriving DecidableEq

/-- A long integer is an obstacle. -/
def lengthObstacle? (isLong : Bool) : Option Obstacle := if isLong then some .tooLong else none

mutual

/-- The first obstacle on the way through the value of a setting: a list that stands
inside itself, with nothing but lists and pairs between, or a long integer. -/
def obstacle? : Document → Option Obstacle
  | .scalar (.recurrence _) => some (.endless .list)
  | .scalar s => lengthObstacle? s.isTooLong
  | .list items => itemsObstacle? items
  | .pair a b => (obstacle? a).orElse fun _ => obstacle? b
  | .set members => lengthObstacle? (members.any Scalar.isTooLong)
  | .mapping entries => lengthObstacle? (anyEntryTooLong entries)

/-- The first obstacle on the way through the items of a list. -/
def itemsObstacle? : List Document → Option Obstacle
  | [] => none
  | d :: ds => (obstacle? d).orElse fun _ => itemsObstacle? ds

end

/-- The first obstacle on the way through the entries of a mapping: a mapping that
stands inside itself, with nothing but mappings between, or an obstacle in a key or in
a value. -/
def entriesObstacle? : List (Scalar × Document) → Option Obstacle
  | [] => none
  | (k, .scalar (.recurrence _)) :: _ =>
      (lengthObstacle? k.isTooLong).orElse fun _ => some (.endless .mapping)
  | (k, .mapping entries) :: rest =>
      ((lengthObstacle? k.isTooLong).orElse fun _ => entriesObstacle? entries).orElse fun _ =>
        entriesObstacle? rest
  | (k, d) :: rest =>
      ((lengthObstacle? k.isTooLong).orElse fun _ => obstacle? d).orElse fun _ =>
        entriesObstacle? rest

end Document

end MigrationConfig
