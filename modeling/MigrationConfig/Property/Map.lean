/-
# Property maps

A flat mapping from property keys to text, in order of insertion.  The keys are
distinct by construction, so that a map is determined by its entries and every
statement about "the value of a key" has one answer.
-/
import MigrationConfig.Property.Entries

namespace MigrationConfig

/-- A mapping from keys to values, both text, in order of insertion. -/
structure PropertyMap where
  entries : List (String × String)
  distinct : (Entries.keys entries).Nodup

namespace PropertyMap

def empty : PropertyMap := ⟨[], List.Pairwise.nil⟩

instance : Inhabited PropertyMap := ⟨empty⟩

/-- Two maps are equal when they have the same entries in the same order. -/
instance : DecidableEq PropertyMap := fun a b =>
  match decEq a.entries b.entries with
  | isTrue h => isTrue (by cases a; cases b; simp_all)
  | isFalse h => isFalse fun h' => h (h' ▸ rfl)

def keys (m : PropertyMap) : List String := Entries.keys m.entries

def size (m : PropertyMap) : Nat := m.entries.length

def isEmpty (m : PropertyMap) : Bool := m.entries.isEmpty

def get? (m : PropertyMap) (k : String) : Option String := Entries.get? k m.entries

/-- Gives a key a value; a key that is there keeps its place. -/
def insert (m : PropertyMap) (k v : String) : PropertyMap :=
  ⟨Entries.put k v m.entries, Entries.nodup_keys_put m.distinct⟩

/-- Inserts pairs one by one. -/
def insertAll (m : PropertyMap) (pairs : List (String × String)) : PropertyMap :=
  pairs.foldl (fun m e => m.insert e.1 e.2) m

/-- The map that a list of pairs describes: of a repeated key the first place
and the last value count. -/
def ofList (pairs : List (String × String)) : PropertyMap := empty.insertAll pairs

/-- The first map overridden by the second. -/
def union (a b : PropertyMap) : PropertyMap := a.insertAll b.entries

/-- The entries that satisfy a test. -/
def filter (p : String × String → Bool) (m : PropertyMap) : PropertyMap :=
  ⟨m.entries.filter p, (m.distinct.sublist ((List.filter_sublist).map Prod.fst))⟩

/-- The map without a key. -/
def erase (m : PropertyMap) (k : String) : PropertyMap := m.filter fun e => e.1 != k

@[simp] theorem get?_empty (k : String) : empty.get? k = none := rfl

theorem get?_insert (m : PropertyMap) (k k' v : String) :
    (m.insert k v).get? k' = if k == k' then some v else m.get? k' :=
  Entries.get?_put

@[simp] theorem insertAll_nil (m : PropertyMap) : m.insertAll [] = m := rfl

theorem insertAll_cons (m : PropertyMap) (e : String × String)
    (rest : List (String × String)) :
    m.insertAll (e :: rest) = (m.insert e.1 e.2).insertAll rest := rfl

end PropertyMap

end MigrationConfig
