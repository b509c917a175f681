/-
# Nulls

A null is the absence of a value.  Under a key it is passed over, so a mapping is flattened as
if the entry were not there.  In a list it is not: it is written like any other item, by its
literal, and so is a null anywhere in a mapping that stands in a list.

What becomes of a mapping without its nulls is therefore the same map exactly when no leaf
that counts has a null in it (`flatten_withoutNulls_iff`).  That a null in a leaf is always seen
comes from lengths: the text of a leaf is shorter without its nulls, and by more than the
separators.
-/
import MigrationConfig.Proofs.Leaves

namespace MigrationConfig.Document

/-! ## Documents without nulls -/

/-- A document of mappings, lists and scalars, in which all keys are texts. -/
inductive Nested : Document → Prop
  | scalar (s : Scalar) : Nested (.scalar s)
  | list {items : List Document} (hitems : ∀ d ∈ items, Nested d) : Nested (.list items)
  | mapping {entries : List (Scalar × Document)} (hkeys : ∀ e ∈ entries, ∃ s, e.1 = .text s)
      (hvalues : ∀ e ∈ entries, Nested e.2) : Nested (.mapping entries)

mutual

/-- A document without the nulls that are items of lists or values of mappings. -/
def withoutNulls : Document → Document
  | .list items => .list (itemsWithoutNulls items)
  | .mapping entries => .mapping (entriesWithoutNulls entries)
  | .scalar s => .scalar s
  | .pair a b => .pair a b
  | .set members => .set members

def itemsWithoutNulls : List Document → List Document
  | [] => []
  | d :: ds => if d.isNull then itemsWithoutNulls ds else withoutNulls d :: itemsWithoutNulls ds

def entriesWithoutNulls : List (Scalar × Document) → List (Scalar × Document)
  | [] => []
  | (k, d) :: rest =>
      if d.isNull then entriesWithoutNulls rest
      else (k, withoutNulls d) :: entriesWithoutNulls rest

end

variable {d : Document} {path : List String} {items : List Document}
  {entries : List (Scalar × Document)}

theorem nested_list : Nested (.list items) ↔ ∀ d ∈ items, Nested d := by
  constructor
  · intro h
    cases h with
    | list hitems => exact hitems
  · exact .list

theorem nested_mapping :
    Nested (.mapping entries) ↔
      (∀ e ∈ entries, ∃ s, e.1 = .text s) ∧ ∀ e ∈ entries, Nested e.2 := by
  constructor
  · intro h
    cases h with
    | mapping hkeys hvalues => exact ⟨hkeys, hvalues⟩
  · rintro ⟨hkeys, hvalues⟩
    exact .mapping hkeys hvalues

theorem nested_cons {k : Scalar} {rest : List (Scalar × Document)} :
    Nested (.mapping ((k, d) :: rest)) ↔
      (∃ s, k = .text s) ∧ Nested d ∧ Nested (.mapping rest) := by
  rw [nested_mapping, nested_mapping, List.forall_mem_cons, List.forall_mem_cons]
  exact and_and_and_comm.trans (and_assoc)

theorem itemsWithoutNulls_eq (items : List Document) :
    itemsWithoutNulls items = (items.filter fun d => !d.isNull).map withoutNulls := by
  induction items with
  | nil => rfl
  | cons d ds ih =>
      rw [itemsWithoutNulls, ih, List.filter_cons]
      cases d.isNull <;> rfl

theorem entriesWithoutNulls_eq (entries : List (Scalar × Document)) :
    entriesWithoutNulls entries =
      (entries.filter fun e => !e.2.isNull).map fun e => (e.1, e.2.withoutNulls) := by
  induction entries with
  | nil => rfl
  | cons e rest ih =>
      obtain ⟨k, d⟩ := e
      rw [entriesWithoutNulls, ih, List.filter_cons]
      cases d.isNull <;> rfl

theorem isNull_withoutNulls (d : Document) : d.withoutNulls.isNull = d.isNull := by
  cases d <;> rfl

/-! ## Lengths -/

/-- The length of texts with a separator behind each. -/
def joinedSize (sep : String) : List String → Nat
  | [] => 0
  | x :: xs => x.length + sep.length + joinedSize sep xs

theorem joinedSize_cons (sep x : String) (xs : List String) :
    joinedSize sep (x :: xs) = x.length + sep.length + joinedSize sep xs := rfl

theorem length_intercalate (sep : String) (xs : List String) :
    (sep.intercalate xs).length = joinedSize sep xs - sep.length := by
  induction xs with
  | nil => simp [joinedSize]
  | cons x xs ih =>
      cases xs with
      | nil => simp [joinedSize]
      | cons y ys =>
          rw [String.intercalate_cons_cons, String.length_append, String.length_append, ih]
          simp only [joinedSize_cons]
          omega

/-- Texts that are shorter than others when they are joined. -/
structure Shrunk (sep : String) (xs' xs : List String) : Prop where
  lt : joinedSize sep xs' < joinedSize sep xs
  nonempty : sep.length < joinedSize sep xs

theorem Shrunk.length_lt {sep : String} {xs' xs : List String} (h : Shrunk sep xs' xs) :
    (sep.intercalate xs').length < (sep.intercalate xs).length := by
  obtain ⟨hlt, hne⟩ := h
  rw [length_intercalate, length_intercalate]
  omega

section Parts

variable {α : Type} (drops : α → Bool) (strip : α → α) (write : α → String)

/-- Where some parts are dropped, which have texts that are not empty, and of others less is
left, either nothing happens or the texts shrink. -/
theorem eq_or_shrunk (sep : String) (xs : List α)
    (hdrop : ∀ x ∈ xs, drops x = true → 0 < (write x).length)
    (hstrip : ∀ x ∈ xs, drops x = false →
      strip x = x ∨ (write (strip x)).length < (write x).length) :
    (xs.filter fun x => !drops x).map strip = xs ∨
      Shrunk sep (((xs.filter fun x => !drops x).map strip).map write) (xs.map write) := by
  induction xs with
  | nil => exact .inl rfl
  | cons x xs ih =>
      obtain ⟨hx, hxs⟩ := List.forall_mem_cons.1 hdrop
      obtain ⟨hx', hxs'⟩ := List.forall_mem_cons.1 hstrip
      -- where the first part shrinks, the others need only not grow
      have hle : joinedSize sep (((xs.filter fun x => !drops x).map strip).map write) ≤
          joinedSize sep (xs.map write) := by
        rcases ih hxs hxs' with heq | hless
        · exact Nat.le_of_eq (by rw [heq])
        · exact Nat.le_of_lt hless.lt
      cases hdrops : drops x with
      | true =>
          have hlength := hx hdrops
          right
          rw [List.filter_cons_of_neg (by simp [hdrops])]
          constructor <;> rw [List.map_cons, joinedSize_cons] <;> omega
      | false =>
          rw [List.filter_cons_of_pos (by simp [hdrops]), List.map_cons, List.map_cons, List.map_cons]
          rcases hx' hdrops with heq | hless
          · rcases ih hxs hxs' with hrest | hrest
            · exact .inl (by rw [heq, hrest])
            · obtain ⟨hlt, hne⟩ := hrest
              right
              constructor <;> simp only [joinedSize_cons, heq] <;> omega
          · right
            constructor <;> simp only [joinedSize_cons] <;> omega

/-- What is not to be found in the parts that are dropped is found as before. -/
theorem findSome?_parts {β : Type} {f : α → Option β} {xs : List α}
    (hdrop : ∀ x ∈ xs, drops x = true → f x = none)
    (hstrip : ∀ x ∈ xs, f (strip x) = f x) :
    ((xs.filter fun x => !drops x).map strip).findSome? f = xs.findSome? f := by
  induction xs with
  | nil => rfl
  | cons x xs ih =>
      obtain ⟨hx, hxs⟩ := List.forall_mem_cons.1 hdrop
      obtain ⟨hx', hxs'⟩ := List.forall_mem_cons.1 hstrip
      cases hdrops : drops x with
      | true =>
          rw [List.filter_cons_of_neg (by simp [hdrops]), List.findSome?_cons, hx hdrops]
          exact ih hxs hxs'
      | false =>
          rw [List.filter_cons_of_pos (by simp [hdrops]), List.map_cons, List.findSome?_cons,
            List.findSome?_cons, hx', ih hxs hxs']

theorem any_parts {p : α → Bool} {xs : List α} (hdrop : ∀ x ∈ xs, drops x = true → p x = false)
    (hstrip : ∀ x ∈ xs, p (strip x) = p x) :
    ((xs.filter fun x => !drops x).map strip).any p = xs.any p := by
  rw [Bool.eq_iff_iff, List.any_map, List.any_filter, List.any_eq_true, List.any_eq_true]
  refine exists_congr fun x => and_congr_right fun hx => ?_
  rw [Function.comp_apply, hstrip x hx]
  cases hdrops : drops x with
  | true => simp [hdrop x hx hdrops]
  | false => simp

end Parts

/-! ## Texts without nulls -/

theorem literals_eq (items : List Document) : literals items = items.map literal := by
  induction items with
  | nil => rfl
  | cons d ds ih => rw [literals, ih, List.map_cons]

theorem entryLiterals_eq (entries : List (Scalar × Document)) :
    entryLiterals entries = entries.map fun e => e.1.literal ++ ": " ++ e.2.literal := by
  induction entries with
  | nil => rfl
  | cons e rest ih =>
      obtain ⟨k, d⟩ := e
      rw [entryLiterals, ih, List.map_cons]

theorem settingTexts_eq (items : List Document) : settingTexts items = items.map settingText := by
  induction items with
  | nil => rfl
  | cons d ds ih => rw [settingTexts, ih, List.map_cons]

/-- The literal of a document with nulls is shorter without them. -/
theorem literal_withoutNulls (h : Nested d) :
    d.withoutNulls = d ∨ d.withoutNulls.literal.length < d.literal.length := by
  induction h with
  | scalar s => exact .inl (by rw [withoutNulls])
  | @list items _ ih =>
      rw [withoutNulls, itemsWithoutNulls_eq, literal, literal, literals_eq, literals_eq]
      have hdrop : ∀ d ∈ items, d.isNull = true → 0 < d.literal.length := by
        intro d _ hnull
        rw [eq_null_of_isNull hnull]
        decide
      rcases eq_or_shrunk isNull withoutNulls literal ", " items hdrop
        (fun d hd _ => ih d hd) with heq | hless
      · exact .inl (by rw [heq])
      · right
        have hlt := hless.length_lt
        simp only [String.length_append]
        omega
  | @mapping entries _ _ ih =>
      rw [withoutNulls, entriesWithoutNulls_eq, literal, literal, entryLiterals_eq, entryLiterals_eq]
      have hdrop : ∀ e ∈ entries, e.2.isNull = true →
          0 < (e.1.literal ++ ": " ++ e.2.literal).length := by
        intro e _ _
        simp only [String.length_append]
        exact Nat.add_pos_left (Nat.add_pos_right _ (by decide)) _
      have hstrip : ∀ e ∈ entries, e.2.isNull = false → (e.1, e.2.withoutNulls) = e ∨
          (e.1.literal ++ ": " ++ e.2.withoutNulls.literal).length <
            (e.1.literal ++ ": " ++ e.2.literal).length := by
        intro e he _
        rcases ih e he with heq | hless
        · exact .inl (by rw [heq])
        · right
          simp only [String.length_append]
          omega
      rcases eq_or_shrunk (fun e => e.2.isNull) (fun e => (e.1, e.2.withoutNulls))
        (fun e => e.1.literal ++ ": " ++ e.2.literal) ", " entries hdrop hstrip with heq | hless
      · exact .inl (by rw [heq])
      · right
        have hlt := hless.length_lt
        simp only [String.length_append]
        omega

/-- The text of a leaf with nulls is shorter without them. -/
theorem settingText_withoutNulls (h : Nested d) :
    d.withoutNulls = d ∨ d.withoutNulls.settingText.length < d.settingText.length := by
  induction h with
  | scalar s => exact .inl (by rw [withoutNulls])
  | @list items _ ih =>
      rw [withoutNulls, itemsWithoutNulls_eq, settingText, settingText, settingTexts_eq,
        settingTexts_eq]
      have hdrop : ∀ d ∈ items, d.isNull = true → 0 < d.settingText.length := by
        intro d _ hnull
        rw [eq_null_of_isNull hnull]
        decide
      rcases eq_or_shrunk isNull withoutNulls settingText "," items hdrop
        (fun d hd _ => ih d hd) with heq | hless
      · exact .inl (by rw [heq])
      · exact .inr hless.length_lt
  | @mapping entries hkeys hvalues _ =>
      have hliteral := literal_withoutNulls (.mapping hkeys hvalues)
      rw [withoutNulls] at hliteral ⊢
      rw [settingText, settingText]
      exact hliteral

theorem settingText_withoutNulls_iff (h : Nested d) :
    d.withoutNulls.settingText = d.settingText ↔ d.withoutNulls = d := by
  constructor
  · intro htext
    rcases settingText_withoutNulls h with heq | hless
    · exact heq
    · rw [htext] at hless
      exact absurd hless (Nat.lt_irrefl _)
  · intro heq
    rw [heq]

/-! ## Obstacles without nulls -/

theorem anyTooLong_eq (items : List Document) : anyTooLong items = items.any hasTooLong := by
  induction items with
  | nil => rfl
  | cons d ds ih => rw [anyTooLong, ih, List.any_cons]

theorem anyEntryTooLong_eq (entries : List (Scalar × Document)) :
    anyEntryTooLong entries = entries.any fun e => e.1.isTooLong || hasTooLong e.2 := by
  induction entries with
  | nil => rfl
  | cons e rest ih =>
      obtain ⟨k, d⟩ := e
      rw [anyEntryTooLong, ih, List.any_cons]

theorem itemsObstacle?_eq (items : List Document) :
    itemsObstacle? items = items.findSome? obstacle? := by
  induction items with
  | nil => rfl
  | cons d ds ih =>
      rw [itemsObstacle?, ih, List.findSome?_cons]
      cases obstacle? d <;> rfl

theorem hasTooLong_withoutNulls (h : Nested d) : hasTooLong d.withoutNulls = hasTooLong d := by
  induction h with
  | scalar s => rw [withoutNulls]
  | @list items _ ih =>
      rw [withoutNulls, itemsWithoutNulls_eq, hasTooLong, hasTooLong, anyTooLong_eq, anyTooLong_eq]
      refine any_parts isNull withoutNulls (fun d _ hnull => ?_) ih
      rw [eq_null_of_isNull hnull]
      rfl
  | @mapping entries hkeys _ ih =>
      rw [withoutNulls, entriesWithoutNulls_eq, hasTooLong, hasTooLong, anyEntryTooLong_eq,
        anyEntryTooLong_eq]
      refine any_parts (fun e : Scalar × Document => e.2.isNull)
        (fun e => (e.1, e.2.withoutNulls)) (fun e he hnull => ?_) fun e he => ?_
      · rw [isTooLong_of_text (hkeys e he), eq_null_of_isNull hnull]
        rfl
      · rw [ih e he]

theorem obstacle?_withoutNulls (h : Nested d) : obstacle? d.withoutNulls = obstacle? d := by
  induction h with
  | scalar s => rw [withoutNulls]
  | @list items _ ih =>
      rw [withoutNulls, itemsWithoutNulls_eq, obstacle?, obstacle?, itemsObstacle?_eq,
        itemsObstacle?_eq]
      refine findSome?_parts isNull withoutNulls (fun d _ hnull => ?_) ih
      rw [eq_null_of_isNull hnull]
      rfl
  | @mapping entries hkeys hvalues _ =>
      have hlong := hasTooLong_withoutNulls (.mapping hkeys hvalues)
      rw [withoutNulls] at hlong ⊢
      rw [hasTooLong, hasTooLong] at hlong
      rw [obstacle?, obstacle?, hlong]

theorem leafObstacle?_withoutNulls (h : Nested d) :
    leafObstacle? d.withoutNulls = leafObstacle? d := by
  cases h with
  | scalar s => rw [withoutNulls]
  | list hitems => exact obstacle?_withoutNulls (.list hitems)
  | mapping hkeys hvalues => exact obstacle?_withoutNulls (.mapping hkeys hvalues)

/-! ## Leaves without nulls -/

theorem nested_withoutNulls (h : Nested d) : Nested d.withoutNulls := by
  induction h with
  | scalar s => exact .scalar s
  | @list items _ ih =>
      rw [withoutNulls, itemsWithoutNulls_eq]
      refine .list fun d' hd' => ?_
      obtain ⟨d, hd, rfl⟩ := List.mem_map.1 hd'
      exact ih d (List.mem_filter.1 hd).1
  | @mapping entries hkeys _ ih =>
      rw [withoutNulls, entriesWithoutNulls_eq]
      constructor
      · intro e' he'
        obtain ⟨e, he, rfl⟩ := List.mem_map.1 he'
        exact hkeys e (List.mem_filter.1 he).1
      · intro e' he'
        obtain ⟨e, he, rfl⟩ := List.mem_map.1 he'
        exact ih e (List.mem_filter.1 he).1

theorem textKeys_of_nested (h : Nested (.mapping entries)) : TextKeys entries := by
  induction entries using TextKeys.induct with
  | case1 =>
      rw [TextKeys]
      trivial
  | case2 k entries rest ih ihrest =>
      obtain ⟨hk, hentries, hrest⟩ := nested_cons.1 h
      rw [TextKeys]
      exact ⟨hk, ih hentries, ihrest hrest⟩
  | case3 k d rest hd ihrest =>
      obtain ⟨hk, -, hrest⟩ := nested_cons.1 h
      rw [textKeys_leaf _ _ hd]
      exact ⟨hk, ihrest hrest⟩

theorem nested_of_mem_leaves (path : List String) (h : Nested (.mapping entries)) :
    ∀ l ∈ leaves path entries, Nested l.2 := by
  induction path, entries using leaves.induct with
  | case1 path =>
      rw [leaves]
      exact List.forall_mem_nil _
  | case2 path k entries rest ih ihrest =>
      obtain ⟨-, hentries, hrest⟩ := nested_cons.1 h
      rw [leaves, List.forall_mem_append]
      exact ⟨ih hentries, ihrest hrest⟩
  | case3 path k d rest hd ihrest =>
      obtain ⟨-, hleaf, hrest⟩ := nested_cons.1 h
      rw [leaves_leaf _ _ _ hd]
      exact List.forall_mem_cons.2 ⟨hleaf, ihrest hrest⟩

/-- The leaves that are not null, each without nulls. -/
def leavesWithoutNulls (ls : List (List String × Document)) : List (List String × Document) :=
  (ls.filter fun l => !l.2.isNull).map fun l => (l.1, l.2.withoutNulls)

theorem leavesWithoutNulls_append (ls ls' : List (List String × Document)) :
    leavesWithoutNulls (ls ++ ls') = leavesWithoutNulls ls ++ leavesWithoutNulls ls' := by
  rw [leavesWithoutNulls, List.filter_append, List.map_append]
  rfl

theorem leaves_withoutNulls (path : List String) (entries : List (Scalar × Document)) :
    leaves path (entriesWithoutNulls entries) = leavesWithoutNulls (leaves path entries) := by
  induction path, entries using leaves.induct with
  | case1 path =>
      rw [entriesWithoutNulls, leaves]
      rfl
  | case2 path k entries rest ih ihrest =>
      have hkept : (mapping entries).isNull = false := rfl
      rw [entriesWithoutNulls, hkept, if_neg Bool.false_ne_true, withoutNulls, leaves, ih, ihrest,
        leaves, leavesWithoutNulls_append]
  | case3 path k d rest hd ihrest =>
      have hd' : ∀ es, d.withoutNulls ≠ .mapping es := by
        intro es hes
        cases d with
        | mapping entries => exact hd entries rfl
        | _ => cases hes
      rw [entriesWithoutNulls, leaves_leaf _ _ _ hd, leavesWithoutNulls, List.filter_cons]
      cases d.isNull with
      | true => exact ihrest
      | false =>
          rw [if_neg Bool.false_ne_true, leaves_leaf _ _ _ hd', ihrest]
          rfl

section Walk

variable {ls : List (List String × Document)}

theorem filter_leavesWithoutNulls (ls : List (List String × Document)) :
    (leavesWithoutNulls ls).filter (fun l => !l.2.isNull) = leavesWithoutNulls ls := by
  refine List.filter_eq_self.2 fun l hl => ?_
  obtain ⟨l', hl', rfl⟩ := List.mem_map.1 hl
  rw [isNull_withoutNulls]
  exact (List.mem_filter.1 hl').2

/-- The same leaf counts with nulls and without them. -/
theorem lastLeaf?_leavesWithoutNulls (ls : List (List String × Document)) (key : String) :
    lastLeaf? (leavesWithoutNulls ls) key = (lastLeaf? ls key).map withoutNulls := by
  rw [lastLeaf?, filter_leavesWithoutNulls, leavesWithoutNulls, ← List.map_reverse, List.find?_map,
    lastLeaf?, Option.map_map, Option.map_map]
  rfl

theorem findSome?_leavesWithoutNulls (hls : ∀ l ∈ ls, Nested l.2) :
    (leavesWithoutNulls ls).findSome? (fun l => leafObstacle? l.2) =
      ls.findSome? fun l => leafObstacle? l.2 := by
  refine findSome?_parts (fun l : List String × Document => l.2.isNull)
    (fun l => (l.1, l.2.withoutNulls)) (fun l _ hnull => ?_) fun l hl => ?_
  · rw [eq_null_of_isNull hnull]
    rfl
  · exact leafObstacle?_withoutNulls (hls l hl)

theorem mem_of_lastLeaf? {key : String} (h : lastLeaf? ls key = some d) : ∃ l ∈ ls, l.2 = d := by
  obtain ⟨l, hl, rfl⟩ := Option.map_eq_some_iff.1 h
  exact ⟨l, (List.mem_filter.1 (List.mem_reverse.1 (List.mem_of_find?_eq_some hl))).1, rfl⟩

/-- Without nulls the leaves are assigned to the same map exactly when no leaf that counts has
a null. -/
theorem ofList_leavesWithoutNulls_iff (hls : ∀ l ∈ ls, Nested l.2) :
    PropertyMap.ofList (assignments (leavesWithoutNulls ls)) =
        PropertyMap.ofList (assignments ls) ↔
      ∀ key d, lastLeaf? ls key = some d → d.withoutNulls = d := by
  have hvalues : ∀ key, (PropertyMap.ofList (assignments (leavesWithoutNulls ls))).get? key =
      ((lastLeaf? ls key).map withoutNulls).map settingText := by
    intro key
    rw [get?_assignments, lastLeaf?_leavesWithoutNulls]
  constructor
  · intro heq key d hd
    obtain ⟨l, hl, rfl⟩ := mem_of_lastLeaf? hd
    have hkey := hvalues key
    rw [heq, get?_assignments, hd] at hkey
    exact (settingText_withoutNulls_iff (hls l hl)).1 (Option.some.inj hkey).symm
  · intro hall
    refine PropertyMap.ext_of_keys ?_ fun key => ?_
    · rw [keys_assignments, keys_assignments, filter_leavesWithoutNulls, leavesWithoutNulls,
        List.map_map]
      rfl
    · rw [hvalues, get?_assignments]
      cases hd : lastLeaf? ls key with
      | none => rfl
      | some d => rw [Option.map_some, hall key d hd]

end Walk

/-- Without its nulls a mapping is flattened as with them exactly when no leaf that counts at
its path has a null in it, or the mapping cannot be flattened in either case. -/
theorem flatten_withoutNulls_iff (entries : List (Scalar × Document)) (parent : String)
    (h : Nested (.mapping entries)) :
    SettingsFile.flatten (entriesWithoutNulls entries) parent =
        SettingsFile.flatten entries parent ↔
      (∃ e, SettingsFile.flatten entries parent = .error e) ∨
        ∀ key d, lastLeaf? (leaves [parent] entries) key = some d → d.withoutNulls = d := by
  have hwithout : Nested (.mapping (entriesWithoutNulls entries)) := by
    rw [← withoutNulls]
    exact nested_withoutNulls h
  have hleaves := nested_of_mem_leaves [parent] h
  rw [flatten_eq_foldlM parent (textKeys_of_nested hwithout),
    flatten_eq_foldlM parent (textKeys_of_nested h), leaves_withoutNulls, foldlM_assign,
    foldlM_assign, findSome?_leavesWithoutNulls hleaves]
  cases (leaves [parent] entries).findSome? fun l => leafObstacle? l.2 with
  | some o => exact iff_of_true rfl (.inl ⟨o.error, rfl⟩)
  | none =>
      have hmaps := ofList_leavesWithoutNulls_iff hleaves
      constructor
      · intro heq
        exact .inr (hmaps.1 (Except.ok.inj heq))
      · rintro (⟨e, he⟩ | hall)
        · cases he
        · exact congrArg Except.ok (hmaps.2 hall)

/-- A list with a null does no harm where another list takes its place. -/
theorem flatten_withoutNulls_replaced :
    let entries : List (Scalar × Document) :=
      [(.text "a.b", .list [null, text "x"]),
        (.text "a", .mapping [(.text "b", texts ["y"]), (.text "c", null)])]
    Nested (.mapping entries) ∧
      (∀ key d, lastLeaf? (leaves [""] entries) key = some d → d.withoutNulls = d) ∧
      SettingsFile.flatten entries "" = .ok (.ofList [("a.b", "y")]) ∧
      SettingsFile.flatten (entriesWithoutNulls entries) "" = SettingsFile.flatten entries "" := by
  intro entries
  have hnested : Nested (.mapping entries) := by
    simp [entries, nested_mapping, nested_list, Nested.scalar, text, texts, null]
  have hleaves : leaves [""] entries = [(["", "a.b"], .list [null, text "x"]),
      (["", "a", "b"], texts ["y"]), (["", "a", "c"], null)] := by
    simp [entries, leaves, text, texts, null, Scalar.plain]
  have hclean : ∀ key d, lastLeaf? (leaves [""] entries) key = some d → d.withoutNulls = d := by
    intro key d hd
    rw [hleaves] at hd
    by_cases hkey : key = "a.b"
    · subst hkey
      cases hd
      rfl
    · have hnone : lastLeaf? [(["", "a.b"], .list [null, text "x"]),
          (["", "a", "b"], texts ["y"]), (["", "a", "c"], null)] key = none := by
        have hpaths : rendered ["", "a.b"] = "a.b" ∧ rendered ["", "a", "b"] = "a.b" := by
          decide +kernel
        simp [lastLeaf?, isNull, texts, null, hpaths, Ne.symm hkey]
      cases hnone.symm.trans hd
  refine ⟨hnested, hclean, ?_, (flatten_withoutNulls_iff entries "" hnested).2 (.inr hclean)⟩
  rw [flatten_eq_foldlM "" (textKeys_of_nested hnested), hleaves]
  rfl

/-- A null in a list of schemas is the name of a schema. -/
theorem flatten_null_schema :
    let entries : List (Scalar × Document) :=
      [(.text "flyway.schemas", .list [text "a", null])]
    Nested (.mapping entries) ∧
      SettingsFile.flatten entries "" = .ok (.ofList [("flyway.schemas", "a,None")]) ∧
      SettingsFile.flatten (entriesWithoutNulls entries) "" =
        .ok (.ofList [("flyway.schemas", "a")]) ∧
      SettingsFile.flatten (entriesWithoutNulls entries) "" ≠ SettingsFile.flatten entries "" := by
  intro entries
  have hnested : Nested (.mapping entries) := by
    simp [entries, nested_mapping, nested_list, Nested.scalar, text, null]
  have hone : ∀ items : List Document,
      SettingsFile.flatten [(.text "flyway.schemas", .list items)] "" =
        [(["", "flyway.schemas"], Document.list items)].foldlM assign .empty := by
    intro items
    rw [flatten_eq_foldlM "" (by simp [TextKeys])]
    simp [leaves, Scalar.plain]
  have hwith : SettingsFile.flatten entries "" = .ok (.ofList [("flyway.schemas", "a,None")]) := by
    rw [hone]
    rfl
  have hwithout : SettingsFile.flatten (entriesWithoutNulls entries) "" =
      .ok (.ofList [("flyway.schemas", "a")]) := by
    show SettingsFile.flatten [(.text "flyway.schemas", .list [text "a"])] "" = _
    rw [hone]
    rfl
  refine ⟨hnested, hwith, hwithout, ?_⟩
  rw [hwith, hwithout]
  exact fun heq => absurd (Except.ok.inj heq) (by decide +kernel)

end MigrationConfig.Document
