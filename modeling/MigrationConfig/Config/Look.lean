/-
# What is seen of a provider

A provider may be anything, and is seen as far as it can be told: a text, a path
and a pattern all look like a text, a table looks like a list of pairs, and a
stream only tells whether it is closed.  Two providers look alike when what is
seen of them is equal, where truth values count as numbers.
-/
import MigrationConfig.Setting.Argument

namespace MigrationConfig

/-- What is seen of anything. -/
inductive Look where
  | null
  | flag (b : Bool)
  | number (n : Int)
  | real (x : Float)
  | text (s : String)
  | list (items : List Look)
  | version (v : Version)
  | override (o : ErrorOverride)
  | descriptor (d : Descriptor)
  /-- a stream, by whether it is closed -/
  | stream (isClosed : Bool)
  | object (i : Instance)

namespace Look

/-- Integers are seen as numbers up to this size, and as the text of their digits
beyond, where numbers lose their last digits on the way to many readers. -/
def exactLimit : Nat := Nat.pow 2 53

def ofInt (n : Int) : Look :=
  if n.natAbs < exactLimit then number n else text (Text.integerText n)

def ofScalar : Scalar → Look
  | .null => null
  | .flag b => flag b
  | .number n => ofInt n
  | .real x => real x
  | s => text s.plain

/-- What is seen of an entry of a table. -/
def ofEntry (e : String × String) : Look := list [text e.1, text e.2]

mutual

def ofProvider (h : Host) : Provider → Look
  | .scalar s => ofScalar s
  | .list items => list (ofProviders h items)
  | .table m => list (m.entries.map ofEntry)
  | .path p => text p.toString
  | .version v => version v
  | .pattern p => text p.text
  | .override o => override o
  | .descriptor d => descriptor { d with loader := none }
  | .stream id => stream (h.isClosed id)
  | .object i => object i

def ofProviders (h : Host) : List Provider → List Look
  | [] => []
  | p :: ps => ofProvider h p :: ofProviders h ps

end

/-- The number that a look counts as. -/
def number? : Look → Option Int
  | flag b => some (if b then 1 else 0)
  | number n => some n
  | _ => none

mutual

def same : Look → Look → Bool
  | null, null => true
  | real x, real y => Decimal.floatText x == Decimal.floatText y
  | text s, text t => s == t
  | list xs, list ys => sameItems xs ys
  | version v, version w => v == w
  | override o, override p => o == p
  | descriptor d, descriptor e => d == e
  | stream a, stream b => a == b
  | object i, object j => i == j
  | a, b => match a.number?, b.number? with
      | some m, some n => m == n
      | _, _ => false

def sameItems : List Look → List Look → Bool
  | [], [] => true
  | x :: xs, y :: ys => same x y && sameItems xs ys
  | _, _ => false

end

end Look

end MigrationConfig
