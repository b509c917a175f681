/-
# The property map of a configuration

What the map of a configuration says of each key: a key of a setting that is
written has the text of the setting, a name under the placeholders has the value
of the placeholder, and there are no other keys.  No two of them are equal, so the
entries stand in the map as they were written, one after the other.
-/
import MigrationConfig.Config.Export
import MigrationConfig.Proofs.Conclusion

namespace MigrationConfig

/-! ## Settings that are written -/

namespace Setting

theorem nodup_exported : exported.Nodup := by
  have h : recognized.Nodup := by decide
  exact h.filter _

theorem mem_applied_of_exported {s : Setting} (hs : s ∈ exported) : s ∈ applied := by
  have h : ∀ s ∈ recognized, s ∈ applied := by decide
  exact h s (List.mem_filter.1 hs).1

/-- A setting with a key is written unless it needs a feature. -/
theorem mem_exported {s : Setting} : s ∈ exported ↔ s.key?.isSome ∧ s.feature? = none := by
  cases s <;> decide

theorem nodup_exported_keys : (exported.filterMap key?).Nodup :=
  nodup_exported.filterMap fun _ _ _ hs ht => key?_inj hs ht

end Setting

namespace Config

variable {c : Config} {m : PropertyMap}

/-! ## The entries of the settings -/

theorem entry?_ok {s : Setting} {o : Option (String × String)} (h : c.entry? s = .ok o)
    {k v : String} :
    o = some (k, v) ↔ s.key? = some k ∧ s.kind.write (c.get s) = .ok (some v) := by
  unfold entry? at h
  cases hk : s.key? with
  | none =>
      rw [hk] at h
      cases h
      simp
  | some key =>
      rw [hk] at h
      cases hw : s.kind.write (c.get s) with
      | error e => rw [hw] at h; cases h
      | ok t =>
          rw [hw] at h
          cases h
          cases t with
          | none => simp
          | some t => simp

theorem mem_entries {ss : List Setting} {es : List (String × String)}
    (h : c.entries ss = .ok es) {k v : String} :
    (k, v) ∈ es ↔ ∃ s ∈ ss, s.key? = some k ∧ s.kind.write (c.get s) = .ok (some v) := by
  induction ss generalizing es with
  | nil =>
      cases h
      simp
  | cons s rest ih =>
      unfold entries at h
      split at h
      · cases h
      · next o ho =>
          split at h
          · cases h
          · next fs hfs =>
              cases h
              rw [List.mem_append, ih hfs, Option.mem_toList, entry?_ok ho]
              simp

theorem keys_entries {ss : List Setting} {es : List (String × String)}
    (h : c.entries ss = .ok es) : (Entries.keys es).Sublist (ss.filterMap Setting.key?) := by
  induction ss generalizing es with
  | nil =>
      cases h
      exact List.Sublist.refl _
  | cons s rest ih =>
      unfold entries at h
      split at h
      · cases h
      · next o ho =>
          split at h
          · cases h
          · next fs hfs =>
              cases h
              have hrest := ih hfs
              cases o with
              | none =>
                  cases hk : s.key? with
                  | none => rw [List.filterMap_cons_none hk]; exact hrest
                  | some k => rw [List.filterMap_cons_some hk]; exact hrest.cons k
              | some e =>
                  obtain ⟨k, v⟩ := e
                  have hk := ((entry?_ok ho).1 rfl).1
                  rw [List.filterMap_cons_some hk]
                  exact hrest.cons_cons k

theorem entries_exist {ss : List Setting}
    (h : ∀ s ∈ ss, ∃ t, s.kind.write (c.get s) = .ok t) : ∃ es, c.entries ss = .ok es := by
  induction ss with
  | nil => exact ⟨[], rfl⟩
  | cons s rest ih =>
      obtain ⟨t, ht⟩ := h s (by simp)
      obtain ⟨es, hes⟩ := ih fun s hs => h s (List.mem_cons_of_mem _ hs)
      have ho : ∃ o, c.entry? s = .ok o := by
        unfold entry?
        cases s.key? with
        | none => exact ⟨none, rfl⟩
        | some key => exact ⟨t.map fun t => (key, t), by rw [ht]; rfl⟩
      obtain ⟨o, ho⟩ := ho
      refine ⟨o.toList ++ es, ?_⟩
      unfold entries
      rw [ho, hes]

/-! ## The entries of the placeholders -/

theorem mem_placeholderEntries {k v : String} :
    (k, v) ∈ c.placeholderEntries ↔
      ∃ n, k = placeholderRoot ++ n ∧ PropertyMap.get? (c.get .placeholders) n = some v := by
  rw [placeholderEntries, List.mem_map]
  constructor
  · rintro ⟨⟨n, w⟩, hm, he⟩
    cases he
    exact ⟨n, rfl, PropertyMap.mem_entries.1 hm⟩
  · rintro ⟨n, rfl, hv⟩
    exact ⟨(n, v), PropertyMap.mem_entries.2 hv, rfl⟩

theorem root_append_inj {root a b : String} (h : root ++ a = root ++ b) : a = b := by
  rw [← String.toList_inj, String.toList_append, String.toList_append] at h
  exact String.toList_inj.1 (List.append_cancel_left h)

theorem nodup_placeholderEntries (c : Config) : (Entries.keys c.placeholderEntries).Nodup := by
  have h : Entries.keys c.placeholderEntries =
      (PropertyMap.keys (c.get .placeholders)).map fun n => placeholderRoot ++ n := by
    rw [Entries.keys, placeholderEntries, List.map_map, PropertyMap.keys, Entries.keys,
      List.map_map]
    rfl
  rw [h]
  exact List.Nodup.map (fun _ _ => root_append_inj) (PropertyMap.distinct _)

theorem isSettingKey_iff {k : String} : isSettingKey k = true ↔ ∃ s : Setting, s.key? = some k := by
  rw [isSettingKey, List.any_eq_true]
  constructor
  · rintro ⟨s, -, hs⟩
    exact ⟨s, by simpa using hs⟩
  · rintro ⟨s, hs⟩
    exact ⟨s, Setting.mem_applied.2 (by rw [hs]; rfl), by simpa using hs⟩

/-! ## The whole map -/

/-- The entries of the map are those of the settings and then those of the
placeholders. -/
theorem properties_entries (h : c.properties = .ok m) :
    ∃ es, c.entries Setting.exported = .ok es ∧ m.entries = es ++ c.placeholderEntries := by
  unfold properties at h
  cases hes : c.entries Setting.exported with
  | error e => rw [hes] at h; cases h
  | ok es =>
      rw [hes] at h
      cases h
      refine ⟨es, rfl, PropertyMap.entries_ofList ?_⟩
      rw [Entries.keys, List.map_append]
      refine List.nodup_append.2 ⟨Setting.nodup_exported_keys.sublist (keys_entries hes),
        nodup_placeholderEntries c, ?_⟩
      rintro k hk _ hk' rfl
      obtain ⟨s, -, hs⟩ := List.mem_filterMap.1 ((keys_entries hes).subset hk)
      obtain ⟨⟨k', v⟩, hm, rfl⟩ := List.mem_map.1 hk'
      obtain ⟨n, rfl, -⟩ := mem_placeholderEntries.1 hm
      have hset := isSettingKey_iff.2 ⟨s, hs⟩
      rw [isSettingKey_placeholder] at hset
      cases hset

theorem get?_properties (h : c.properties = .ok m) {k v : String} :
    m.get? k = some v ↔
      (∃ s ∈ Setting.exported, s.key? = some k ∧ s.kind.write (c.get s) = .ok (some v)) ∨
        ∃ n, k = placeholderRoot ++ n ∧ PropertyMap.get? (c.get .placeholders) n = some v := by
  obtain ⟨es, hes, hm⟩ := properties_entries h
  rw [← PropertyMap.mem_entries, hm, List.mem_append, mem_entries hes, mem_placeholderEntries]

/-- What the map has for a setting is the text that the setting is written
with. -/
theorem textFor?_properties (h : c.properties = .ok m) {s : Setting} {key raw : String} :
    textFor? m s = some (key, raw) ↔
      s ∈ Setting.exported ∧ s.key? = some key ∧ s.kind.write (c.get s) = .ok (some raw) := by
  rw [textFor?_eq_some, get?_properties h]
  constructor
  · rintro ⟨hk, ⟨s', hs', hk', hw⟩ | ⟨n, rfl, -⟩⟩
    · obtain rfl := Setting.key?_inj hk hk'
      exact ⟨hs', hk, hw⟩
    · have hset := isSettingKey_iff.2 ⟨s, hk⟩
      rw [isSettingKey_placeholder] at hset
      cases hset
  · rintro ⟨hs, hk, hw⟩
    exact ⟨hk, .inl ⟨s, hs, hk, hw⟩⟩

/-- A setting that is not written, or has no text, is not in the map. -/
theorem textFor?_properties_absent (h : c.properties = .ok m) {s : Setting}
    (hs : s ∉ Setting.exported ∨ s.kind.write (c.get s) = .ok none) : textFor? m s = none := by
  rw [Option.eq_none_iff_forall_not_mem]
  rintro ⟨key, raw⟩ hr
  obtain ⟨hexp, -, hw⟩ := (textFor?_properties h).1 hr
  rcases hs with hs | hs
  · exact hs hexp
  · rw [hs] at hw
    cases hw

/-- Every key of the map has a meaning, save for a placeholder without a
name. -/
theorem isKnownKey_properties (h : c.properties = .ok m)
    (hp : ∀ n ∈ PropertyMap.keys (c.get .placeholders), n ≠ "") {k : String} (hk : k ∈ m.keys) :
    isKnownKey k = true := by
  obtain ⟨v, hv⟩ := Option.isSome_iff_exists.1 (PropertyMap.mem_keys.1 hk)
  rcases (get?_properties h).1 hv with ⟨s, -, hs, -⟩ | ⟨n, rfl, hn⟩
  · simp [isKnownKey, isSettingKey_iff.2 ⟨s, hs⟩]
  · have hne : n ≠ "" := hp n (PropertyMap.mem_keys.2 (by rw [hn]; rfl))
    have hname : Namespace.name? placeholderRoot (placeholderRoot ++ n) = some n :=
      Namespace.name?_eq_some.2 ⟨hne, rfl⟩
    simp [isKnownKey, hname]

theorem beginsWith_properties (h : c.properties = .ok m) {k : String} (hk : k ∈ m.keys) :
    Namespace.beginsWith propertyRoot k = true := by
  obtain ⟨v, hv⟩ := Option.isSome_iff_exists.1 (PropertyMap.mem_keys.1 hk)
  rcases (get?_properties h).1 hv with ⟨s, hs, hks, -⟩ | ⟨n, rfl, -⟩
  · exact (Setting.roots_of_keys s (Setting.mem_applied_of_exported hs) k hks).1
  · refine Namespace.beginsWith_iff.2 ⟨"placeholders." ++ n, ?_⟩
    rw [← String.append_assoc]
    rfl

/-- The placeholders are the names under their root, in order. -/
theorem members_properties (h : c.properties = .ok m)
    (hp : ∀ n ∈ PropertyMap.keys (c.get .placeholders), n ≠ "") :
    Namespace.members placeholderRoot (beyondSettings m) =
      PropertyMap.entries (c.get .placeholders) := by
  obtain ⟨es, hes, hm⟩ := properties_entries h
  have hbeyond : (beyondSettings m).entries = c.placeholderEntries := by
    show m.entries.filter (fun e => !isSettingKey e.1) = _
    rw [hm, List.filter_append, List.filter_eq_nil_iff.2, List.filter_eq_self.2, List.nil_append]
    · rintro ⟨k, v⟩ he
      obtain ⟨n, rfl, -⟩ := mem_placeholderEntries.1 he
      rw [isSettingKey_placeholder]
      rfl
    · rintro ⟨k, v⟩ he
      obtain ⟨s, -, hs, -⟩ := (mem_entries hes).1 he
      simp [isSettingKey_iff.2 ⟨s, hs⟩]
  rw [Namespace.members, hbeyond, placeholderEntries, List.filterMap_map]
  refine (List.filterMap_congr fun e he => ?_).trans List.filterMap_some
  have hne : e.1 ≠ "" := hp e.1 (List.mem_map_of_mem he)
  have hname : Namespace.name? placeholderRoot (placeholderRoot ++ e.1) = some e.1 :=
    Namespace.name?_eq_some.2 ⟨hne, rfl⟩
  show (Namespace.name? placeholderRoot (placeholderRoot ++ e.1)).map (fun n => (n, e.2)) = some e
  rw [hname]
  rfl

end Config

end MigrationConfig
