/-
# A namespace and the rest of a map

Taking a namespace out of a map sorts the entries into two parts, by their keys alone: an
entry goes into the namespace if something follows the root in its key, and stays where it
is otherwise.  So nothing is lost and nothing is kept twice, whatever the root is; it may
be empty, be a key itself, or come again in a name.

The names are laid over those that are known already.  These keep their places, and the new
ones follow in the order of the map.

Two roots of which no key has names under both do not get in each other's way (`Apart`):
taking out the one namespace leaves the other as it is, so either may be taken first.
-/
import MigrationConfig.Proofs.Residue

namespace MigrationConfig.Namespace

variable {root r s key : String}

/-! ## What stays -/

/-- A key has no name when it does not begin with the root, or is the root. -/
theorem name?_eq_none : name? root key = none ↔ ¬ root.toList <+: key.toList ∨ key = root := by
  constructor
  · intro hnone
    by_contra hkey
    obtain ⟨hbegins, hbare⟩ := not_or.1 hkey
    obtain ⟨t, ht⟩ := not_not.1 hbegins
    have happend : key = root ++ String.ofList t := by
      rw [← String.toList_inj, String.toList_append, String.toList_ofList, ht]
    have hname : String.ofList t ≠ "" := by
      intro hempty
      rw [hempty, String.append_empty] at happend
      exact hbare happend
    cases hnone.symm.trans (name?_eq_some.2 ⟨hname, happend⟩)
  · intro hkey
    cases hn : name? root key with
    | none => rfl
    | some n =>
        obtain ⟨hname, rfl⟩ := name?_eq_some.1 hn
        rcases hkey with hbegins | hbare
        · exact absurd ⟨n.toList, String.toList_append.symm⟩ hbegins
        · rw [String.append_eq_left_iff] at hbare
          exact absurd hbare hname

theorem entries_outside (root : String) (m : PropertyMap) :
    (outside root m).entries =
      m.entries.filter fun e => ¬ root.toList <+: e.1.toList ∨ e.1 = root := by
  refine List.filter_congr fun e _ => ?_
  rw [Bool.eq_iff_iff, Option.isNone_iff_eq_none, name?_eq_none, decide_eq_true_eq]

/-! ## What is taken out -/

/-- The root in front of the names gives the entries back that were taken out. -/
theorem map_members (root : String) (m : PropertyMap) :
    (members root m).map (fun e => (root ++ e.1, e.2)) =
      m.entries.filter fun e => (name? root e.1).isSome := by
  rw [members, List.map_filterMap, ← List.filterMap_eq_filter]
  refine List.filterMap_congr fun e _ => ?_
  cases hn : name? root e.1 with
  | none => simp [Option.guard, hn]
  | some n =>
      obtain ⟨-, hkey⟩ := name?_eq_some.1 hn
      simp [Option.guard, hn, ← hkey]

/-- A map with a root in front of all its keys. -/
def under (root : String) (m : PropertyMap) : PropertyMap :=
  .ofList (m.entries.map fun e => (root ++ e.1, e.2))

theorem under_extract (root : String) (m : PropertyMap) :
    under root (extract m root .empty).1 = m.filter fun e => (name? root e.1).isSome := by
  have hnames : (extract m root .empty).1.entries = members root m :=
    PropertyMap.entries_ofList (nodup_members root m)
  rw [under, hnames, map_members]
  exact PropertyMap.ofList_entries (m.filter fun e => (name? root e.1).isSome)

/-- The names that are known keep their places, the others follow in the order of the map. -/
theorem keys_extract (m : PropertyMap) (root : String) (current : PropertyMap) :
    ∃ news, (extract m root current).1.keys = current.keys ++ news ∧
      (news.map (root ++ ·)).Sublist m.keys := by
  refine ⟨_, PropertyMap.keys_insertAll (nodup_members root m) current, ?_⟩
  have hall : (Entries.keys (members root m)).map (root ++ ·) =
      Entries.keys (m.entries.filter fun e => (name? root e.1).isSome) := by
    rw [← map_members, Entries.keys, Entries.keys, List.map_map, List.map_map]
    rfl
  have hnames : ((Entries.keys (members root m)).map (root ++ ·)).Sublist m.keys := by
    rw [hall]
    exact List.filter_sublist.map Prod.fst
  exact (List.filter_sublist.map (root ++ ·)).trans hnames

/-! ## Two namespaces -/

/-- No key has names under both roots. -/
def Apart (r s : String) : Prop := ∀ key, name? r key = none ∨ name? s key = none

theorem Apart.symm (h : Apart r s) : Apart s r := fun key => (h key).symm

theorem Apart.members_outside (h : Apart r s) (m : PropertyMap) :
    members r (outside s m) = members r m := by
  have hstays : ∀ key, (name? r key).isSome = true → (name? s key).isNone = true := by
    intro key hkey
    rcases h key with hr | hs
    · rw [hr] at hkey
      cases hkey
    · rw [hs]
      rfl
  exact members_filter hstays m

/-- What is taken out does not depend on what has been taken out before. -/
theorem Apart.extract_outside (h : Apart r s) (m current : PropertyMap) :
    (extract (outside s m) r current).1 = (extract m r current).1 := by
  rw [extract, extract, h.members_outside]

theorem outside_outside (r s : String) (m : PropertyMap) :
    outside r (outside s m) = outside s (outside r m) :=
  m.filter_comm _ _

theorem apart_roots : Apart placeholderRoot driverPropertyRoot := by
  intro key
  cases hn : name? driverPropertyRoot key with
  | none => exact .inr rfl
  | some n =>
      obtain ⟨-, rfl⟩ := name?_eq_some.1 hn
      exact .inl (Config.name?_placeholder_of_driver n)

/-- A namespace and the rest are a partition of a map: what stays are the entries whose keys
do not begin with the root or are the root, a name has the value of its key or else the one
it had, and the root in front of the names gives the map back.  Of the two namespaces of the
library either may be taken first. -/
theorem extract_partitions (m : PropertyMap) (root : String) (current : PropertyMap) :
    (extract m root current).2.entries =
      m.entries.filter (fun e => ¬ root.toList <+: e.1.toList ∨ e.1 = root) ∧
    (∀ n, (extract m root current).1.get? n =
      (if n = "" then none else m.get? (root ++ n)).or (current.get? n)) ∧
    (∃ news, (extract m root current).1.keys = current.keys ++ news ∧
      (news.map (root ++ ·)).Sublist m.keys) ∧
    ((under root (extract m root .empty).1).union (extract m root .empty).2).entries.Perm
      m.entries ∧
    (under root (extract m root .empty).1).keys.Disjoint (extract m root .empty).2.keys ∧
    ∀ placeholders properties : PropertyMap,
      let first := extract m placeholderRoot placeholders
      let second := extract first.2 driverPropertyRoot properties
      let first' := extract m driverPropertyRoot properties
      let second' := extract first'.2 placeholderRoot placeholders
      first.1 = second'.1 ∧ second.1 = first'.1 ∧ second.2 = second'.2 := by
  have hrest : (extract m root .empty).2 = m.filter fun e => !(name? root e.1).isSome := by
    refine PropertyMap.ext (List.filter_congr fun e _ => ?_)
    rw [Option.not_isSome]
  obtain ⟨hperm, hdisjoint⟩ := m.union_filter_not fun e => (name? root e.1).isSome
  refine ⟨entries_outside root m, get?_extract m root current, keys_extract m root current,
    ?_, ?_, fun placeholders properties => ⟨?_, ?_, ?_⟩⟩
  · rw [under_extract, hrest]
    exact hperm
  · rw [under_extract, hrest]
    exact hdisjoint
  · exact (apart_roots.extract_outside m placeholders).symm
  · exact apart_roots.symm.extract_outside m properties
  · exact outside_outside driverPropertyRoot placeholderRoot m

end MigrationConfig.Namespace
