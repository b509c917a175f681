/-
# The leaves of a mapping

A mapping is flattened from within: what is under a key is flattened on its own, and the
result is laid over what is there already.  Seen from without this is one walk over the
leaves of the mapping, depth first, that assigns to the path of each leaf its text
(`flatten_walks`).  Places and values come out the same, because a map laid over another
one is as good as its entries inserted one by one, and the map that is built under a key is
itself built by such insertions.

The way to a leaf is a list of keys.  It is written with dots between them, but a parent
that is written as nothing, however many keys it has, adds no dot: the keys in front that
are empty do not count (`rendered`).

A leaf may have no text, for an integer in it is too long or it stands inside itself.  The
walk ends there, as flattening does.
-/
import MigrationConfig.Proofs.Maps
import MigrationConfig.Source.File

namespace MigrationConfig.Document

variable {path : List String} {parent : String} {k : Scalar} {d : Document}
  {entries rest : List (Scalar × Document)}

/-! ## Leaves and their paths -/

/-- The keys of a mapping, and of the mappings under them, are texts. -/
def TextKeys : List (Scalar × Document) → Prop
  | [] => True
  | (k, .mapping entries) :: rest => (∃ s, k = .text s) ∧ TextKeys entries ∧ TextKeys rest
  | (k, _) :: rest => (∃ s, k = .text s) ∧ TextKeys rest

/-- The leaves of a mapping that `path` leads to, depth first, each with the path to it. -/
def leaves (path : List String) : List (Scalar × Document) → List (List String × Document)
  | [] => []
  | (k, .mapping entries) :: rest => leaves (path ++ [k.plain]) entries ++ leaves path rest
  | (k, d) :: rest => (path ++ [k.plain], d) :: leaves path rest

/-- A path in one text: its keys with dots between them, without the empty ones in front. -/
def rendered (path : List String) : String := ".".intercalate (path.dropWhile String.isEmpty)

/-- The leaf that counts at a key: the last one with this path that is not null. -/
def lastLeaf? (ls : List (List String × Document)) (key : String) : Option Document :=
  ((ls.filter fun l => !l.2.isNull).reverse.find? fun l => rendered l.1 == key).map Prod.snd

/-- What keeps a leaf from being written.  A collection that comes again in the place of a
mapping is one. -/
def leafObstacle? : Document → Option Obstacle
  | .scalar (.recurrence _) => some (.endless .mapping)
  | d => obstacle? d

def Obstacle.error : Obstacle → Error
  | .endless what => .value (.endless what)
  | .tooLong => .value .tooLongToWrite

/-- A step of the walk: the text of a leaf is assigned to its path, and a null is passed
over. -/
def assign (flat : PropertyMap) (leaf : List String × Document) : Except Error PropertyMap :=
  match leafObstacle? leaf.2 with
  | some o => .error o.error
  | none => .ok (if leaf.2.isNull then flat else flat.insert (rendered leaf.1) leaf.2.settingText)

/-- The mapping of one level in which each leaf stands under its path. -/
def oneLevel (ls : List (List String × Document)) : List (Scalar × Document) :=
  (Entries.ofPairs (ls.map fun l => (rendered l.1, l.2))).map fun e => (.text e.1, e.2)

/-- A path is written as nothing only if all its keys are empty. -/
theorem rendered_eq_empty : rendered path = "" ↔ path.dropWhile String.isEmpty = [] := by
  constructor
  · intro hempty
    cases hpath : path.dropWhile String.isEmpty with
    | nil => rfl
    | cons s rest =>
        have hs : s ≠ "" := by
          simpa [hpath] using List.head?_dropWhile_not String.isEmpty path
        rw [rendered, hpath] at hempty
        cases rest with
        | nil =>
            rw [String.intercalate_singleton] at hempty
            exact absurd hempty hs
        | cons t rest =>
            rw [String.intercalate_cons_cons] at hempty
            simp at hempty
  · intro hpath
    rw [rendered, hpath, String.intercalate_nil]

theorem rendered_concat (path : List String) (k : Scalar) :
    rendered (path ++ [k.plain]) = dotted (rendered path) k := by
  by_cases hpath : path.dropWhile String.isEmpty = []
  · rw [dotted, rendered_eq_empty.2 hpath, if_pos (by rfl), rendered,
      List.dropWhile_append, hpath]
    cases hk : k.plain.isEmpty with
    | true => simp [String.isEmpty_iff.1 hk]
    | false => simp [hk]
  · have hne : rendered path ≠ "" := fun h => hpath (rendered_eq_empty.1 h)
    rw [dotted, if_neg (by simpa using hne), rendered, List.dropWhile_append,
      if_neg (by simpa using hpath),
      String.intercalate_append_of_ne_nil hpath (List.cons_ne_nil _ _),
      String.intercalate_singleton, rendered]

/-! ## Flattening is a walk -/

/-- The assignments of a walk: the texts of the leaves that are not null, with their paths. -/
def assignments (ls : List (List String × Document)) : List (String × String) :=
  (ls.filter fun l => !l.2.isNull).map fun l => (rendered l.1, l.2.settingText)

theorem eq_null_of_isNull (h : d.isNull = true) : d = null := by
  unfold isNull at h
  split at h
  · rfl
  · cases h

theorem flattenOver_leaf (flat : PropertyMap) (parent : String) (k : Scalar)
    (rest : List (Scalar × Document)) (hd : ∀ es, d ≠ .mapping es) :
    flattenOver flat parent ((k, d) :: rest) =
      flattenOver (if d.isNull then flat else flat.insert (dotted parent k) d.settingText)
        parent rest := by
  cases hnull : d.isNull with
  | true =>
      rw [eq_null_of_isNull hnull, null, flattenOver, if_pos rfl]
  | false =>
      rw [flattenOver, if_neg Bool.false_ne_true]
      · exact hd
      · rintro rfl
        cases hnull

theorem leaves_leaf (path : List String) (k : Scalar) (rest : List (Scalar × Document))
    (hd : ∀ es, d ≠ .mapping es) :
    leaves path ((k, d) :: rest) = (path ++ [k.plain], d) :: leaves path rest := by
  rw [leaves]
  exact hd

theorem assignments_append (ls ls' : List (List String × Document)) :
    assignments (ls ++ ls') = assignments ls ++ assignments ls' := by
  rw [assignments, List.filter_append, List.map_append]
  rfl

theorem assignments_cons (l : List String × Document) (ls : List (List String × Document)) :
    assignments (l :: ls) =
      if l.2.isNull then assignments ls
      else (rendered l.1, l.2.settingText) :: assignments ls := by
  rw [assignments, List.filter_cons]
  cases l.2.isNull <;> rfl

/-- What is flattened under a path is the same as the leaves assigned one by one. -/
theorem flattenOver_leaves (flat : PropertyMap) (path : List String)
    (entries : List (Scalar × Document)) :
    flattenOver flat (rendered path) entries =
      flat.insertAll (assignments (leaves path entries)) := by
  -- the map under a key is built from the empty one, so `flat` has to be free in the hypotheses
  induction path, entries using leaves.induct generalizing flat with
  | case1 path => rw [flattenOver, leaves]; rfl
  | case2 path k entries rest ih ihrest =>
      have hunder : flat.union (flattenOver .empty (dotted (rendered path) k) entries) =
          flat.insertAll (assignments (leaves (path ++ [k.plain]) entries)) := by
        rw [← rendered_concat, ih, PropertyMap.union_insertAll]
        rfl
      rw [flattenOver, hunder, ihrest, leaves, assignments_append]
      exact (List.foldl_append ..).symm
  | case3 path k d rest hd ihrest =>
      rw [flattenOver_leaf _ _ _ _ hd, ihrest, leaves_leaf _ _ _ hd, assignments_cons]
      split
      · rfl
      · rw [PropertyMap.insertAll_cons, rendered_concat]

theorem textKeys_leaf (k : Scalar) (rest : List (Scalar × Document))
    (hd : ∀ es, d ≠ .mapping es) :
    TextKeys ((k, d) :: rest) ↔ (∃ s, k = .text s) ∧ TextKeys rest := by
  rw [TextKeys]
  exact hd

theorem isTooLong_of_text (hk : ∃ s, k = .text s) : k.isTooLong = false := by
  obtain ⟨s, rfl⟩ := hk
  rfl

theorem entriesObstacle?_leaf (rest : List (Scalar × Document)) (hk : k.isTooLong = false)
    (hd : ∀ es, d ≠ .mapping es) :
    entriesObstacle? ((k, d) :: rest) = (leafObstacle? d).or (entriesObstacle? rest) := by
  -- only a collection that comes again is another obstacle here than it is in a list
  by_cases hmark : ∃ b, d = .scalar (.recurrence b)
  · obtain ⟨b, rfl⟩ := hmark
    rw [entriesObstacle?, hk]
    rfl
  · have hleaf : leafObstacle? d = obstacle? d := by
      rw [leafObstacle?]
      intro b hb
      exact hmark ⟨b, hb⟩
    rw [entriesObstacle?, hk, hleaf]
    · cases obstacle? d <;> rfl
    · intro b hb
      exact hmark ⟨b, hb⟩
    · exact hd

/-- The first obstacle in a mapping is the first one at a leaf. -/
theorem entriesObstacle?_leaves (path : List String) {entries : List (Scalar × Document)}
    (h : TextKeys entries) :
    entriesObstacle? entries = (leaves path entries).findSome? fun l => leafObstacle? l.2 := by
  induction path, entries using leaves.induct with
  | case1 path => rw [entriesObstacle?, leaves, List.findSome?_nil]
  | case2 path k entries rest ih ihrest =>
      rw [TextKeys] at h
      obtain ⟨hk, hentries, hrest⟩ := h
      rw [entriesObstacle?, isTooLong_of_text hk, ih hentries, ihrest hrest, leaves,
        List.findSome?_append]
      cases (leaves (path ++ [k.plain]) entries).findSome? fun l => leafObstacle? l.2 <;> rfl
  | case3 path k d rest hd ihrest =>
      obtain ⟨hk, hrest⟩ := (textKeys_leaf k rest hd).1 h
      rw [entriesObstacle?_leaf rest (isTooLong_of_text hk) hd, ihrest hrest, leaves_leaf _ _ _ hd,
        List.findSome?_cons]
      cases leafObstacle? d <;> rfl

/-- A walk ends at the first leaf that has no text, or has assigned the texts of all leaves. -/
theorem foldlM_assign (ls : List (List String × Document)) (flat : PropertyMap) :
    ls.foldlM assign flat =
      match ls.findSome? fun l => leafObstacle? l.2 with
      | some o => .error o.error
      | none => .ok (flat.insertAll (assignments ls)) := by
  induction ls generalizing flat with
  | nil => rfl
  | cons l ls ih =>
      rw [List.foldlM_cons, assign, List.findSome?_cons, assignments_cons]
      cases leafObstacle? l.2 with
      | some o => rfl
      | none =>
          cases l.2.isNull with
          | true => exact ih flat
          | false => exact ih (flat.insert (rendered l.1) l.2.settingText)

theorem rendered_root (parent : String) : rendered [parent] = parent := by
  rw [rendered, List.dropWhile_cons]
  split
  · next hempty =>
      rw [String.isEmpty_iff.1 hempty]
      rfl
  · exact String.intercalate_singleton

theorem flatten_eq_foldlM (parent : String) (h : TextKeys entries) :
    SettingsFile.flatten entries parent = (leaves [parent] entries).foldlM assign .empty := by
  have hflatten : flatten entries parent = .ofList (assignments (leaves [parent] entries)) := by
    rw [flatten]
    conv_lhs => rw [← rendered_root parent]
    exact flattenOver_leaves .empty [parent] entries
  rw [SettingsFile.flatten, entriesObstacle?_leaves [parent] h, foldlM_assign, hflatten]
  cases (leaves [parent] entries).findSome? fun l => leafObstacle? l.2 with
  | none => rfl
  | some o => cases o <;> rfl

/-! ## What a walk leaves -/

/-- A path has the place where it came first. -/
theorem keys_assignments (ls : List (List String × Document)) :
    (PropertyMap.ofList (assignments ls)).keys =
      ((ls.filter fun l => !l.2.isNull).map fun l => rendered l.1).eraseDups := by
  rw [PropertyMap.keys_ofList, Entries.keys, assignments, List.map_map]
  rfl

/-- A path has the text of the last leaf there. -/
theorem get?_assignments (ls : List (List String × Document)) (key : String) :
    (PropertyMap.ofList (assignments ls)).get? key = (lastLeaf? ls key).map settingText := by
  rw [PropertyMap.ofList, PropertyMap.get?_insertAll_last, PropertyMap.get?_empty, Option.or_none,
    assignments, ← List.map_reverse, List.find?_map, lastLeaf?, Option.map_map, Option.map_map]
  rfl

/-! ## One level -/

theorem ne_mapping_of_mem_leaves {l : List String × Document} (hl : l ∈ leaves path entries) :
    ∀ es, l.2 ≠ .mapping es := by
  induction path, entries using leaves.induct with
  | case1 path =>
      rw [leaves] at hl
      cases hl
  | case2 path k entries rest ih ihrest =>
      rw [leaves] at hl
      exact (List.mem_append.1 hl).elim ih ihrest
  | case3 path k d rest hd ihrest =>
      rw [leaves_leaf _ _ _ hd] at hl
      rcases List.mem_cons.1 hl with rfl | hl
      · exact hd
      · exact ihrest hl

/-- The leaves of a mapping without mappings in it are its entries. -/
theorem leaves_flat (path : List String) {es : List (String × Document)}
    (hes : ∀ e ∈ es, ∀ entries, e.2 ≠ .mapping entries) :
    TextKeys (es.map fun e => (.text e.1, e.2)) ∧
      leaves path (es.map fun e => (.text e.1, e.2)) = es.map fun e => (path ++ [e.1], e.2) := by
  induction es with
  | nil =>
      rw [List.map_nil, List.map_nil, leaves, TextKeys]
      exact ⟨trivial, rfl⟩
  | cons e es ih =>
      obtain ⟨he, hes⟩ := List.forall_mem_cons.1 hes
      obtain ⟨htext, hleaves⟩ := ih hes
      rw [List.map_cons, List.map_cons, leaves_leaf _ _ _ he, hleaves, textKeys_leaf _ _ he]
      exact ⟨⟨⟨e.1, rfl⟩, htext⟩, rfl⟩

theorem rendered_single (key : String) : rendered ["", key] = key := rendered_root key

theorem assign_rendered (flat : PropertyMap) (l : List String × Document) :
    assign flat (["", rendered l.1], l.2) = assign flat l := by
  rw [assign, assign, rendered_single]

/-- Where no two leaves have one path, the leaves and the mapping of one level are assigned
alike. -/
theorem flatten_oneLevel (h : TextKeys entries)
    (hd : ((leaves [parent] entries).map fun l => rendered l.1).Nodup) :
    SettingsFile.flatten (oneLevel (leaves [parent] entries)) "" =
      SettingsFile.flatten entries parent := by
  have hkeys : (Entries.keys
      ((leaves [parent] entries).map fun l => (rendered l.1, l.2))).Nodup := by
    rw [Entries.keys, List.map_map]
    exact hd
  have hleaf : ∀ e ∈ (leaves [parent] entries).map (fun l => (rendered l.1, l.2)),
      ∀ es, e.2 ≠ .mapping es := by
    intro e he
    obtain ⟨l, hl, rfl⟩ := List.mem_map.1 he
    exact ne_mapping_of_mem_leaves hl
  obtain ⟨htext, hleaves⟩ := leaves_flat [""] hleaf
  rw [oneLevel, Entries.ofPairs_eq_self hkeys, flatten_eq_foldlM "" htext, hleaves,
    flatten_eq_foldlM parent h, List.map_map, List.foldlM_map]
  exact congrArg (fun f => List.foldlM f .empty _) (funext₂ assign_rendered)

/-- A mapping is flattened by one walk over its leaves: the text of each is assigned to its
path, where a null does nothing.  If all leaves have texts there is a map in the end, where a
path has the place at which it came first and the text that came last.  And where no path
comes twice, the mapping of one level that has the paths for its keys is flattened to the
same map. -/
theorem flatten_walks (entries : List (Scalar × Document)) (parent : String)
    (h : TextKeys entries) :
    SettingsFile.flatten entries parent = (leaves [parent] entries).foldlM assign .empty ∧
    ((∀ l ∈ leaves [parent] entries, leafObstacle? l.2 = none) →
      ∃ m, SettingsFile.flatten entries parent = .ok m ∧
        m.keys = (((leaves [parent] entries).filter fun l => !l.2.isNull).map fun l =>
          rendered l.1).eraseDups ∧
        ∀ key, m.get? key = (lastLeaf? (leaves [parent] entries) key).map settingText) ∧
    (((leaves [parent] entries).map fun l => rendered l.1).Nodup →
      SettingsFile.flatten (oneLevel (leaves [parent] entries)) "" =
        SettingsFile.flatten entries parent) := by
  refine ⟨flatten_eq_foldlM parent h, fun hfree => ?_, flatten_oneLevel h⟩
  have hnone : (leaves [parent] entries).findSome? (fun l => leafObstacle? l.2) = none :=
    List.findSome?_eq_none_iff.2 hfree
  refine ⟨.ofList (assignments (leaves [parent] entries)), ?_, keys_assignments _,
    get?_assignments _⟩
  rw [flatten_eq_foldlM parent h, foldlM_assign, hnone]
  rfl

/-- A list takes the place of a text that has the same path, and a null leaves a text alone.
Keys that are empty are in front of others, between them and behind them. -/
theorem flatten_walks_colliding :
    let colliding : List (Scalar × Document) :=
      [(.text "a.b", text "1"), (.text "c", text "2"),
        (.text "a", .mapping [(.text "b", texts ["x", "y"])]), (.text "c", null)]
    let apart : List (Scalar × Document) :=
      [(.text "", .mapping [(.text "", .mapping [(.text "a", texts [])]),
        (.text "a", .mapping [(.text "", .scalar (.flag true))])]), (.text "b", null)]
    TextKeys colliding ∧
      SettingsFile.flatten colliding "" = .ok (.ofList [("a.b", "x,y"), ("c", "2")]) ∧
    TextKeys apart ∧ ((leaves [""] apart).map fun l => rendered l.1) = ["a", "a.", "b"] ∧
      SettingsFile.flatten apart "" = .ok (.ofList [("a", ""), ("a.", "true")]) ∧
      SettingsFile.flatten (oneLevel (leaves [""] apart)) "" = SettingsFile.flatten apart "" := by
  intro colliding apart
  have hcolliding : TextKeys colliding := by
    simp [colliding, TextKeys, text, texts, null]
  have hapart : TextKeys apart := by
    simp [apart, TextKeys, texts, null]
  have hleaves : leaves [""] colliding = [(["", "a.b"], text "1"), (["", "c"], text "2"),
      (["", "a", "b"], texts ["x", "y"]), (["", "c"], null)] := by
    simp [colliding, leaves, text, texts, null, Scalar.plain]
  have hleaves' : leaves [""] apart = [(["", "", "", "a"], texts []),
      (["", "", "a", ""], .scalar (.flag true)), (["", "b"], null)] := by
    simp [apart, leaves, texts, null, Scalar.plain]
  have hpaths : ((leaves [""] apart).map fun l => rendered l.1) = ["a", "a.", "b"] := by
    rw [hleaves']
    decide +kernel
  obtain ⟨hwalk, -, -⟩ := flatten_walks colliding "" hcolliding
  obtain ⟨hwalk', -, hone⟩ := flatten_walks apart "" hapart
  refine ⟨hcolliding, ?_, hapart, hpaths, ?_, hone (by rw [hpaths]; decide)⟩
  · rw [hwalk, hleaves]
    rfl
  · rw [hwalk', hleaves']
    rfl

end MigrationConfig.Document
