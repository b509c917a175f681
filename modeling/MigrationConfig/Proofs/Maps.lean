/-
# Look-ups in maps and namespaces

What a map says of a key, through everything that is done to maps: filters,
insertions of several pairs, and the namespaces that are taken out and laid over
what is known already.  A namespace is met here from both sides, as the keys that
begin with a root and as the names that the root is put in front of.
-/
import Mathlib.Data.List.Induction
import Mathlib.Data.List.Nodup
import MigrationConfig.Property.Namespace

namespace MigrationConfig

/-! ## Entries -/

namespace Entries

variable {α β : Type} [BEq α] [LawfulBEq α]

theorem get?_eq_none {k : α} {m : List (α × β)} : get? k m = none ↔ k ∉ keys m := by
  induction m with
  | nil => simp [get?, keys]
  | cons e rest ih =>
      rw [get?_cons, keys_cons, List.mem_cons, not_or, ← ih]
      by_cases h : e.1 = k
      · simp [h]
      · simp [h, Ne.symm h]

theorem mem_of_get? {k : α} {v : β} {m : List (α × β)} (h : get? k m = some v) : (k, v) ∈ m := by
  induction m with
  | nil => cases h
  | cons e rest ih =>
      rw [get?_cons] at h
      split at h
      · next he =>
          obtain rfl := eq_of_beq he
          obtain rfl := Option.some.inj h
          exact List.mem_cons_self ..
      · exact List.mem_cons_of_mem _ (ih h)

theorem get?_of_mem {k : α} {v : β} {m : List (α × β)} (hd : (keys m).Nodup) (h : (k, v) ∈ m) :
    get? k m = some v := by
  induction m with
  | nil => cases h
  | cons e rest ih =>
      obtain ⟨hnew, hrest⟩ := List.nodup_cons.1 hd
      rw [get?_cons]
      rcases List.mem_cons.1 h with rfl | hr
      · simp
      · have hk : k ∈ keys rest := List.mem_map_of_mem hr
        have hne : e.1 ≠ k := fun hc => hnew (hc ▸ hk)
        rw [if_neg (by simpa using hne)]
        exact ih hrest hr

omit [BEq α] [LawfulBEq α] in
/-- Of different keys none has been there before. -/
theorem not_mem_keys_of_nodup {m rest : List (α × β)} {e : α × β}
    (hd : (keys (m ++ e :: rest)).Nodup) : e.1 ∉ keys m := by
  rw [keys, List.map_append, List.map_cons, List.nodup_middle, List.nodup_cons] at hd
  exact fun hm => hd.1 (List.mem_append_left _ hm)

/-- A new key goes to the end. -/
theorem put_new {k : α} {v : β} {m : List (α × β)} (h : k ∉ keys m) :
    put k v m = m ++ [(k, v)] := by
  induction m with
  | nil => rfl
  | cons e rest ih =>
      rw [keys_cons, List.mem_cons, not_or] at h
      rw [put_cons, if_neg (by simpa using Ne.symm h.1), ih h.2, List.cons_append]

/-- Pairs with new keys go to the end. -/
theorem foldl_put {pairs m : List (α × β)} (hd : (keys (m ++ pairs)).Nodup) :
    pairs.foldl (fun m e => put e.1 e.2 m) m = m ++ pairs := by
  induction pairs generalizing m with
  | nil => rw [List.foldl_nil, List.append_nil]
  | cons e rest ih =>
      have happend : m ++ [e] ++ rest = m ++ e :: rest := List.append_assoc m [e] rest
      rw [List.foldl_cons, put_new (not_mem_keys_of_nodup hd), ih (happend.symm ▸ hd), happend]

/-- Pairs with different keys are entries as they are. -/
theorem ofPairs_eq_self {pairs : List (α × β)} (hd : (keys pairs).Nodup) :
    ofPairs pairs = pairs :=
  foldl_put hd

/-- A key that is there keeps its place. -/
theorem keys_put_of_mem {k : α} (v : β) {m : List (α × β)} (h : k ∈ keys m) :
    keys (put k v m) = keys m := by
  induction m with
  | nil => cases h
  | cons e rest ih =>
      rw [put_cons]
      by_cases he : e.1 = k
      · rw [if_pos (beq_iff_eq.2 he), keys_cons, keys_cons]
      · have hrest : k ∈ keys rest := (List.mem_cons.1 h).resolve_left (Ne.symm he)
        rw [if_neg (by simpa using he), keys_cons, keys_cons, ih hrest]

/-- Of two values for one key the second counts. -/
theorem put_put (k : α) (v w : β) (m : List (α × β)) : put k w (put k v m) = put k w m := by
  induction m with
  | nil => simp [put]
  | cons e rest ih =>
      rw [put_cons, put_cons]
      cases he : e.1 == k with
      | true => simp [put_cons, he]
      | false => simp [put_cons, he, ih]

/-- A key that is there takes its value before or after another key takes its own. -/
theorem put_comm {k k' : α} (v w : β) {m : List (α × β)} (hk : k ∈ keys m) (hne : k' ≠ k) :
    put k' w (put k v m) = put k v (put k' w m) := by
  induction m with
  | nil => cases hk
  | cons e rest ih =>
      by_cases he : e.1 = k
      · simp [put_cons, he, beq_eq_false_iff_ne.2 hne.symm]
      · have hrest : k ∈ keys rest := (List.mem_cons.1 hk).resolve_left (Ne.symm he)
        cases he' : e.1 == k' with
        | true => simp [put_cons, he, he']
        | false => simp [put_cons, he, he', ih hrest]

/-- A filter on keys keeps the value of a key that it keeps. -/
theorem get?_filter (q : α → Bool) (k : α) (m : List (α × β)) :
    get? k (m.filter fun e => q e.1) = if q k then get? k m else none := by
  induction m with
  | nil => simp [get?]
  | cons e rest ih =>
      rw [List.filter_cons]
      by_cases he : e.1 = k
      · subst he
        cases hq : q e.1 with
        | true => simp [get?_cons]
        | false =>
            rw [if_neg (by simp), ih, hq]
            rfl
      · cases hq : q e.1 with
        | true => simp [get?_cons, he, ih]
        | false => simp [get?_cons, he, ih]

end Entries

/-! ## Property maps -/

namespace PropertyMap

theorem ext {a b : PropertyMap} (h : a.entries = b.entries) : a = b := by
  cases a
  cases b
  congr

theorem mem_entries {m : PropertyMap} {k v : String} : (k, v) ∈ m.entries ↔ m.get? k = some v :=
  ⟨Entries.get?_of_mem m.distinct, Entries.mem_of_get?⟩

theorem mem_keys {m : PropertyMap} {k : String} : k ∈ m.keys ↔ (m.get? k).isSome := by
  rw [Option.isSome_iff_ne_none, ne_eq, get?, Entries.get?_eq_none, Classical.not_not]
  rfl

/-- The keys in their order and their values determine a map. -/
theorem ext_of_keys {a b : PropertyMap} (hkeys : a.keys = b.keys)
    (hvalues : ∀ k, a.get? k = b.get? k) : a = b := by
  have hentries : ∀ m : PropertyMap,
      m.entries = m.keys.map fun k => (k, (m.get? k).getD "") := by
    intro m
    rw [keys, Entries.keys, List.map_map]
    refine (List.map_id _).symm.trans (List.map_congr_left fun e he => ?_)
    rw [Function.comp_apply, mem_entries.1 he]
    rfl
  refine ext ?_
  rw [hentries a, hentries b, hkeys]
  exact List.map_congr_left fun k _ => by rw [hvalues k]

theorem get?_filter (m : PropertyMap) (q : String → Bool) (k : String) :
    (m.filter fun e => q e.1).get? k = if q k then m.get? k else none :=
  Entries.get?_filter q k m.entries

theorem get?_insertAll {pairs : List (String × String)} (hd : (Entries.keys pairs).Nodup)
    (m : PropertyMap) (k : String) :
    (m.insertAll pairs).get? k = (Entries.get? k pairs).or (m.get? k) := by
  induction pairs generalizing m with
  | nil => rfl
  | cons e rest ih =>
      obtain ⟨hnew, hrest⟩ := List.nodup_cons.1 hd
      rw [insertAll_cons, ih hrest, get?_insert, Entries.get?_cons]
      by_cases he : e.1 = k
      · subst he
        have hn : Entries.get? e.1 rest = none := Entries.get?_eq_none.2 hnew
        simp [hn]
      · simp [he]

/-- Of pairs that are put one after the other, the last one with a key counts. -/
theorem get?_insertAll_last (pairs : List (String × String)) (m : PropertyMap)
    (k : String) :
    (m.insertAll pairs).get? k =
      ((pairs.reverse.find? fun e => e.1 == k).map Prod.snd).or (m.get? k) := by
  induction pairs generalizing m with
  | nil => rfl
  | cons e rest ih =>
      rw [insertAll_cons, ih, get?_insert, List.reverse_cons, List.find?_append,
        List.find?_singleton]
      cases rest.reverse.find? fun e => e.1 == k with
      | some e' => rfl
      | none => split <;> rfl

/-- A value was inserted or was there before. -/
theorem mem_of_get?_insertAll {pairs : List (String × String)} {m : PropertyMap} {k v : String}
    (h : (m.insertAll pairs).get? k = some v) : (k, v) ∈ pairs ∨ m.get? k = some v := by
  induction pairs generalizing m with
  | nil => exact .inr h
  | cons e rest ih =>
      rw [insertAll_cons] at h
      rcases ih h with h | h
      · exact .inl (List.mem_cons_of_mem _ h)
      · rw [get?_insert] at h
        split at h
        · next he =>
            left
            rw [← eq_of_beq he, ← Option.some.inj h]
            exact List.mem_cons_self ..
        · exact .inr h

theorem mem_of_get?_ofList {pairs : List (String × String)} {k v : String}
    (h : (ofList pairs).get? k = some v) : (k, v) ∈ pairs :=
  (mem_of_get?_insertAll h).resolve_right (by simp)

theorem mem_keys_insertAll {m : PropertyMap} {k : String} {pairs : List (String × String)} :
    k ∈ (m.insertAll pairs).keys ↔ k ∈ m.keys ∨ k ∈ Entries.keys pairs := by
  induction pairs generalizing m with
  | nil => simp [Entries.keys]
  | cons e rest ih =>
      rw [insertAll_cons, ih, Entries.keys_cons, List.mem_cons]
      show k ∈ Entries.keys (Entries.put e.1 e.2 m.entries) ∨ _ ↔ _
      rw [Entries.mem_keys_put, or_assoc, or_left_comm]
      rfl

theorem mem_keys_ofList {k : String} {pairs : List (String × String)} :
    k ∈ (ofList pairs).keys ↔ k ∈ Entries.keys pairs := by
  rw [ofList, mem_keys_insertAll]
  exact or_iff_right (by simp [keys, empty, Entries.keys])

/-- Of several pairs with one key the first one gives the place. -/
theorem keys_ofList (pairs : List (String × String)) :
    (ofList pairs).keys = (Entries.keys pairs).eraseDups := by
  induction pairs using List.reverseRecOn with
  | nil => rfl
  | append_singleton pairs e ih =>
      have hinsert : ofList (pairs ++ [e]) = (ofList pairs).insert e.1 e.2 := List.foldl_concat ..
      have hkeys : Entries.keys (pairs ++ [e]) = Entries.keys pairs ++ [e.1] := List.map_append
      rw [hinsert, hkeys, List.eraseDups_append, ← ih]
      by_cases hmem : e.1 ∈ Entries.keys pairs
      · have hnone : List.removeAll [e.1] (Entries.keys pairs) = [] := by
          simp [List.removeAll, hmem]
        rw [hnone, List.eraseDups_nil, List.append_nil]
        exact Entries.keys_put_of_mem e.2 (mem_keys_ofList.2 hmem)
      · have hself : List.removeAll [e.1] (Entries.keys pairs) = [e.1] := by
          simp [List.removeAll, hmem]
        have hnew : e.1 ∉ (ofList pairs).keys := fun h => hmem (mem_keys_ofList.1 h)
        rw [hself, List.eraseDups_cons, List.filter_nil, List.eraseDups_nil]
        exact (congrArg Entries.keys (Entries.put_new hnew)).trans List.map_append

theorem entries_insertAll {pairs : List (String × String)} (m : PropertyMap)
    (hd : (Entries.keys (m.entries ++ pairs)).Nodup) :
    (m.insertAll pairs).entries = m.entries ++ pairs := by
  have hput : (m.insertAll pairs).entries =
      pairs.foldl (fun m e => Entries.put e.1 e.2 m) m.entries :=
    (List.foldl_hom PropertyMap.entries fun _ _ => rfl).symm
  rw [hput, Entries.foldl_put hd]

theorem entries_ofList {pairs : List (String × String)} (hd : (Entries.keys pairs).Nodup) :
    (ofList pairs).entries = pairs :=
  entries_insertAll empty hd

theorem ofList_entries (m : PropertyMap) : ofList m.entries = m :=
  ext (entries_ofList m.distinct)

/-- Of two maps the second is asked first. -/
theorem get?_union (a b : PropertyMap) (k : String) :
    (a.union b).get? k = (b.get? k).or (a.get? k) :=
  get?_insertAll b.distinct a k

/-! ### Maps one after the other -/

/-- The keys that are there keep their places, the others follow. -/
theorem keys_insertAll {pairs : List (String × String)} (hd : (Entries.keys pairs).Nodup)
    (m : PropertyMap) :
    (m.insertAll pairs).keys =
      m.keys ++ (Entries.keys pairs).filter fun k => (m.get? k).isNone := by
  induction pairs generalizing m with
  | nil => exact (List.append_nil _).symm
  | cons e rest ih =>
      obtain ⟨hnew, hrest⟩ := List.nodup_cons.1 hd
      have hlater : (Entries.keys rest).filter (fun k => ((m.insert e.1 e.2).get? k).isNone) =
          (Entries.keys rest).filter fun k => (m.get? k).isNone := by
        refine List.filter_congr fun k hk => ?_
        have hne : e.1 ≠ k := fun h => hnew (h ▸ hk)
        rw [get?_insert, if_neg (by simpa using hne)]
      rw [insertAll_cons, ih hrest, hlater, Entries.keys_cons]
      cases h : m.get? e.1 with
      | some v =>
          have hkeys : (m.insert e.1 e.2).keys = m.keys :=
            Entries.keys_put_of_mem e.2 (mem_keys.2 (by rw [h]; rfl))
          rw [hkeys, List.filter_cons_of_neg (by simp [h])]
      | none =>
          have hkeys : (m.insert e.1 e.2).keys = m.keys ++ [e.1] :=
            (congrArg Entries.keys (Entries.put_new (Entries.get?_eq_none.1 h))).trans
              List.map_append
          rw [hkeys, List.filter_cons_of_pos (by simp [h]), List.append_assoc,
            List.singleton_append]

theorem keys_union (a b : PropertyMap) :
    (a.union b).keys = a.keys ++ b.keys.filter fun k => (a.get? k).isNone :=
  keys_insertAll b.distinct a

theorem insert_insert (m : PropertyMap) (k v w : String) :
    (m.insert k v).insert k w = m.insert k w :=
  ext (Entries.put_put k v w m.entries)

/-- A key that is there takes its value before or after pairs of other keys are inserted. -/
theorem insertAll_insert {k : String} (v : String) {pairs : List (String × String)}
    {m : PropertyMap} (hk : k ∈ m.keys) (hnew : k ∉ Entries.keys pairs) :
    (m.insert k v).insertAll pairs = (m.insertAll pairs).insert k v := by
  induction pairs generalizing m with
  | nil => rfl
  | cons e rest ih =>
      rw [Entries.keys_cons, List.mem_cons, not_or] at hnew
      have hcomm : (m.insert k v).insert e.1 e.2 = (m.insert e.1 e.2).insert k v :=
        ext (Entries.put_comm v e.2 hk (Ne.symm hnew.1))
      rw [insertAll_cons, hcomm, insertAll_cons]
      exact ih (Entries.mem_keys_put.2 (.inr hk)) hnew.2

theorem insertAll_put (k v : String) {pairs : List (String × String)}
    (hd : (Entries.keys pairs).Nodup) (m : PropertyMap) :
    m.insertAll (Entries.put k v pairs) = (m.insertAll pairs).insert k v := by
  induction pairs generalizing m with
  | nil => rfl
  | cons e rest ih =>
      obtain ⟨hnew, hrest⟩ := List.nodup_cons.1 hd
      rw [Entries.put_cons]
      by_cases he : e.1 = k
      · subst he
        have hmem : e.1 ∈ (m.insert e.1 e.2).keys := Entries.mem_keys_put.2 (.inl rfl)
        rw [if_pos (beq_self_eq_true e.1), insertAll_cons, insertAll_cons,
          ← insertAll_insert v hmem hnew, insert_insert]
      · rw [if_neg (by simpa using he), insertAll_cons, insertAll_cons, ih hrest]

theorem union_insert (a b : PropertyMap) (k v : String) :
    a.union (b.insert k v) = (a.union b).insert k v :=
  insertAll_put k v b.distinct a

theorem union_insertAll (a b : PropertyMap) (pairs : List (String × String)) :
    a.union (b.insertAll pairs) = (a.union b).insertAll pairs := by
  induction pairs generalizing b with
  | nil => rfl
  | cons e rest ih => rw [insertAll_cons, ih, union_insert, insertAll_cons]

theorem union_assoc (a b c : PropertyMap) : (a.union b).union c = a.union (b.union c) :=
  (union_insertAll a b c.entries).symm

theorem empty_union (m : PropertyMap) : empty.union m = m := ofList_entries m

/-- Pairs that follow other pairs override them as a map overrides a map. -/
theorem ofList_append (ps qs : List (String × String)) :
    ofList (ps ++ qs) = (ofList ps).union (ofList qs) := by
  have happend : ofList (ps ++ qs) = (ofList ps).insertAll qs := List.foldl_append
  rw [happend, ofList, ofList, union_insertAll]
  rfl

/-! ### Maps without regard to order -/

variable {a b : PropertyMap}

/-- The entries that pass a test and those that fail it are all entries. -/
theorem union_filter_not (m : PropertyMap) (p : String × String → Bool) :
    ((m.filter p).union (m.filter fun e => !p e)).entries.Perm m.entries ∧
      (m.filter p).keys.Disjoint (m.filter fun e => !p e).keys := by
  have hperm : (m.entries.filter p ++ m.entries.filter fun e => !p e).Perm m.entries :=
    List.filter_append_perm p m.entries
  have hkeys : (Entries.keys (m.entries.filter p ++ m.entries.filter fun e => !p e)).Nodup :=
    (hperm.map Prod.fst).nodup_iff.2 m.distinct
  constructor
  · have hunion : ((m.filter p).union (m.filter fun e => !p e)).entries =
        m.entries.filter p ++ m.entries.filter fun e => !p e :=
      entries_insertAll (m.filter p) hkeys
    rw [hunion]
    exact hperm
  · rw [Entries.keys, List.map_append] at hkeys
    exact List.disjoint_of_nodup_append hkeys

/-- The same entries in another order say the same of every key. -/
theorem get?_of_perm (h : a.entries.Perm b.entries) (k : String) : a.get? k = b.get? k := by
  apply Option.ext
  intro v
  rw [← mem_entries, ← mem_entries, h.mem_iff]

/-- What a map says of every key determines it but for the order. -/
theorem perm_of_get? (h : ∀ k, a.get? k = b.get? k) : a.entries.Perm b.entries := by
  have nodup : ∀ m : PropertyMap, m.entries.Nodup := fun m => List.Nodup.of_map _ m.distinct
  refine (List.perm_ext_iff_of_nodup (nodup a) (nodup b)).2 ?_
  rintro ⟨k, v⟩
  rw [mem_entries, mem_entries, h k]

end PropertyMap

/-! ## Namespaces -/

namespace Namespace

theorem dropRoot_eq_some {root s t : List Char} : dropRoot root s = some t ↔ s = root ++ t := by
  induction root generalizing s with
  | nil => simp [dropRoot]
  | cons r rs ih =>
      cases s with
      | nil => simp [dropRoot]
      | cons c cs =>
          by_cases h : r = c
          · simp [dropRoot, h, ih]
          · simp [dropRoot, h, Ne.symm h]

theorem beginsWith_iff {root s : String} : beginsWith root s = true ↔ ∃ t, s = root ++ t := by
  rw [beginsWith, Option.isSome_iff_exists]
  constructor
  · rintro ⟨t, ht⟩
    refine ⟨.ofList t, ?_⟩
    rw [← String.toList_inj, String.toList_append, String.toList_ofList, dropRoot_eq_some.1 ht]
  · rintro ⟨t, rfl⟩
    exact ⟨t.toList, dropRoot_eq_some.2 String.toList_append⟩

/-- The names of a namespace are what follows its root, if anything does. -/
theorem name?_eq_some {root key n : String} :
    name? root key = some n ↔ n ≠ "" ∧ key = root ++ n := by
  have hkey : ∀ cs,
      (key = root ++ String.ofList cs ↔ dropRoot root.toList key.toList = some cs) := by
    intro cs
    rw [dropRoot_eq_some, ← String.toList_inj, String.toList_append, String.toList_ofList]
  unfold name?
  constructor
  · intro h
    split at h
    · next c cs hc =>
        obtain rfl := Option.some.inj h
        refine ⟨fun he => ?_, (hkey _).2 hc⟩
        rw [String.ofList_eq_empty_iff] at he
        cases he
    · cases h
  · rintro ⟨hn, h⟩
    rw [← String.ofList_toList (s := n)] at h hn ⊢
    rw [(hkey _).1 h]
    cases hc : n.toList with
    | nil => rw [hc] at hn; exact absurd rfl hn
    | cons c cs => rfl

/-- Each name comes from one key. -/
theorem nodup_members (root : String) (m : PropertyMap) :
    (Entries.keys (members root m)).Nodup := by
  -- the names that are taken out stand for keys that are there, so they do not repeat either
  have step : ∀ l : List (String × String), (Entries.keys l).Nodup →
      (Entries.keys (l.filterMap fun e => (name? root e.1).map fun n => (n, e.2))).Nodup ∧
        ∀ n ∈ Entries.keys (l.filterMap fun e => (name? root e.1).map fun n => (n, e.2)),
          root ++ n ∈ Entries.keys l := by
    intro l
    induction l with
    | nil => intro _; exact ⟨List.nodup_nil, by intro n hn; cases hn⟩
    | cons e rest ih =>
        intro hd
        obtain ⟨hnew, hrest⟩ := List.nodup_cons.1 hd
        obtain ⟨ih₁, ih₂⟩ := ih hrest
        rw [List.filterMap_cons]
        cases hn : name? root e.1 with
        | none => exact ⟨ih₁, fun n h => List.mem_cons_of_mem _ (ih₂ n h)⟩
        | some n =>
            obtain ⟨-, hk⟩ := name?_eq_some.1 hn
            refine ⟨List.nodup_cons.2 ⟨fun hm => hnew ?_, ih₁⟩, ?_⟩
            · rw [hk]
              exact ih₂ n hm
            · intro n' hn'
              rcases List.mem_cons.1 hn' with rfl | hr
              · exact List.mem_cons.2 (.inl hk.symm)
              · exact List.mem_cons_of_mem _ (ih₂ n' hr)
  exact (step m.entries m.distinct).1

theorem get?_members (root : String) (m : PropertyMap) (n : String) :
    Entries.get? n (members root m) = if n = "" then none else m.get? (root ++ n) := by
  have mem : ∀ v, (n, v) ∈ members root m ↔ n ≠ "" ∧ m.get? (root ++ n) = some v := by
    intro v
    rw [members, List.mem_filterMap]
    constructor
    · rintro ⟨⟨k, w⟩, hm, he⟩
      obtain ⟨n', hn', he'⟩ := Option.map_eq_some_iff.1 he
      cases he'
      obtain ⟨hne, hk⟩ := name?_eq_some.1 hn'
      exact ⟨hne, PropertyMap.mem_entries.1 (hk ▸ hm)⟩
    · rintro ⟨hne, hv⟩
      refine ⟨(root ++ n, v), PropertyMap.mem_entries.2 hv, ?_⟩
      rw [name?_eq_some.2 ⟨hne, rfl⟩]
      rfl
  apply Option.ext
  intro v
  constructor
  · intro h
    obtain ⟨hne, hv⟩ := (mem v).1 (Entries.mem_of_get? h)
    rw [if_neg hne, hv]
  · intro h
    split at h
    · cases h
    · next hne => exact Entries.get?_of_mem (nodup_members root m) ((mem v).2 ⟨hne, h⟩)

/-- The names of a namespace are laid over those that were known. -/
theorem get?_extract (m : PropertyMap) (root : String) (current : PropertyMap) (n : String) :
    (extract m root current).1.get? n =
      (if n = "" then none else m.get? (root ++ n)).or (current.get? n) := by
  rw [← get?_members]
  exact PropertyMap.get?_insertAll (nodup_members root m) current n

/-- What is not under the root stays. -/
theorem get?_outside (root : String) (m : PropertyMap) (k : String) :
    (outside root m).get? k = if (name? root k).isSome then none else m.get? k := by
  rw [outside, PropertyMap.get?_filter m (fun k => (name? root k).isNone) k]
  cases name? root k <;> rfl

end Namespace

end MigrationConfig
