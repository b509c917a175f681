/-
# Encodings under their normalized names

A configuration keeps the normalized name of an encoding, and a copy hands that
name in again.  It has to be found, and to lead to the same name: this is a fact
about the registry as a whole (`lookup?_name`), for a spelling of one encoding
could well be the name of another.

The fact is checked entry by entry.  Comparing every name with every spelling
character by character is slow, so spellings are compared by a number first.
-/
import MigrationConfig.Setting.Kind

namespace MigrationConfig.Codec

/-! ## A faster search -/

/-- A number for a spelling; spellings with different numbers differ. -/
def spellingNumber (s : List Char) : Nat := s.foldl (fun n c => 256 * n + c.toNat) 0

/-- A spelling with the given number is among some names. -/
def spells (names : List String) (number : Nat) (s : List Char) : Bool :=
  names.any fun a => Nat.beq (spellingNumber a.toList) number && a.toList == s

theorem spells_eq (names : List String) (s : List Char) :
    spells names (spellingNumber s) s = names.any fun a => a.toList == s := by
  unfold spells
  congr 1
  funext a
  by_cases h : a.toList = s
  · subst h
    simp
  · simp [h]

/-- The encoding of a spelling, by its aliases or else by its own spellings. -/
def search? (s : List Char) : Option Entry :=
  (registry.find? fun e => spells e.aliases (spellingNumber s) s).or
    (registry.find? fun e => spells e.modules (spellingNumber s) s)

/-- Without a dot, aliases are looked through only once. -/
theorem find?_eq_search? {s : List Char} (hs : undotted s = s) : find? s = search? s := by
  simp only [find?, search?, spells_eq, hs]
  cases registry.find? fun e => e.aliases.any fun a => a.toList == s <;> rfl

/-! ## The registry -/

theorem undotted_registry : ∀ e ∈ registry, undotted (fold e.name) = fold e.name := by
  decide +kernel

theorem search?_registry : ∀ e ∈ registry, (search? (fold e.name)).map Entry.name = some e.name := by
  decide +kernel

/-- No encoding has a null character in its name. -/
theorem registry_names : ∀ e ∈ registry, e.name.toList.contains '\x00' = false := by
  decide +kernel

theorem mem_registry_of_lookup? {name : String} {e : Entry} (h : lookup? name = some e) :
    e ∈ registry := by
  unfold lookup? find? at h
  simp only at h
  split at h
  · next hf => cases h; exact List.mem_of_find?_eq_some hf
  · split at h
    · next hf => cases h; exact List.mem_of_find?_eq_some hf
    · exact List.mem_of_find?_eq_some h

/-- An encoding is known under its normalized name, too. -/
theorem lookup?_name {e : Entry} (he : e ∈ registry) :
    (lookup? e.name).map Entry.name = some e.name := by
  rw [lookup?, find?_eq_search? (undotted_registry e he)]
  exact search?_registry e he

end MigrationConfig.Codec

namespace MigrationConfig.Kind

theorem acceptEncoding_eq_ok {name : Option String} {s : String} :
    acceptEncoding name = .ok s ↔
      ∃ n e, name = some n ∧ n.toList.contains '\x00' = false ∧ Codec.lookup? n = some e ∧
        e.name = s := by
  unfold acceptEncoding
  cases name with
  | none => simp
  | some n =>
      by_cases hz : '\x00' ∈ n.toList
      · simp [hz]
      · cases he : Codec.lookup? n <;> simp [hz, he]

theorem acceptEncoding_registry {e : Codec.Entry} (he : e ∈ Codec.registry) :
    acceptEncoding (some e.name) = .ok e.name := by
  obtain ⟨e', he', hname⟩ := Option.map_eq_some_iff.1 (Codec.lookup?_name he)
  exact acceptEncoding_eq_ok.2 ⟨e.name, e', rfl, Codec.registry_names e he, he', hname⟩

/-- The name that an encoding is kept under is accepted as it is. -/
theorem acceptEncoding_again {name : Option String} {s : String}
    (h : acceptEncoding name = .ok s) : acceptEncoding (some s) = .ok s := by
  obtain ⟨n, e, -, -, he, rfl⟩ := acceptEncoding_eq_ok.1 h
  exact acceptEncoding_registry (Codec.mem_registry_of_lookup? he)

end MigrationConfig.Kind
