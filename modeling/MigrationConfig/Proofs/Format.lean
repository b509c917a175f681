/-
# Configurations as properties text

A configuration that is written in the properties format is read back with the same
properties as long as all of them are kept on their lines.  A description, a
password or a placeholder may have a blank at its end, or a line break that has
no escape, or a name with a tab; then the text does not give the properties
back.
-/
import MigrationConfig.Config.Format
import MigrationConfig.Proofs.Restored
import MigrationConfig.Proofs.Written

namespace MigrationConfig

namespace PropertiesText

theorem starts_of_beginsWith {k : String} (hk : Namespace.beginsWith propertyRoot k = true) :
    Starts k.toList := by
  obtain ⟨t, rfl⟩ := Namespace.beginsWith_iff.1 hk
  refine ⟨'f', ?_, by decide, by decide, by decide⟩
  rw [String.toList_append]
  rfl

/-- A property comes back from a line of its own exactly when its key and its value are
kept. -/
theorem read_property_iff {k v : String} (hk : Namespace.beginsWith propertyRoot k = true) :
    read (line (k, v) ++ ['\n']) = .ofList [(k, v)] ↔
      KeepsKey k.toList ∧ KeepsValue v.toList :=
  read_line_iff (starts_of_beginsWith hk)

/-- A tab at the end of a description has an escape and comes back, a space has none. -/
theorem read_property_description :
    let k := "flyway.baselineDescription"
    Namespace.beginsWith propertyRoot k = true ∧
      read (line (k, " first\t") ++ ['\n']) = .ofList [(k, " first\t")] ∧
        read (line (k, " first ") ++ ['\n']) ≠ .ofList [(k, " first ")] := by
  intro k
  have hk : Namespace.beginsWith propertyRoot k = true := by decide +kernel
  have hkey : KeepsKey k.toList := by decide +kernel
  have hvalue : KeepsValue " first\t".toList := by decide +kernel
  refine ⟨hk, (read_property_iff hk).2 ⟨hkey, hvalue⟩, fun h => ?_⟩
  have hlast := ((read_property_iff hk).1 h).2.last ' ' (by decide +kernel) (by decide)
  exact absurd hlast (by decide)

end PropertiesText

/-- The properties format has two names. -/
theorem PropertyMap.format_properties (m : PropertyMap) {name : String}
    (hn : name = "properties" ∨ name = "conf") :
    m.format name = .ok (String.ofList (PropertiesText.write m)) := by
  rcases hn with rfl | rfl <;> rfl

namespace Config

variable {c : Config} {m : PropertyMap}

theorem starts_properties (hm : c.properties = .ok m) :
    ∀ e ∈ m.entries, PropertiesText.Starts e.1.toList := by
  intro e he
  have hk : e.1 ∈ m.keys := List.mem_map_of_mem he
  exact PropertiesText.starts_of_beginsWith (beginsWith_properties hm hk)

theorem format_properties {name : String} (hm : c.properties = .ok m)
    (hn : name = "properties" ∨ name = "conf") :
    c.format name = .ok (String.ofList (PropertiesText.write m)) := by
  rw [format, hm]
  exact m.format_properties hn

/-- A configuration that is written as properties text is read back with its own
properties exactly when each of them is kept. -/
theorem format_properties_read_iff {name : String} (hm : c.properties = .ok m)
    (hn : name = "properties" ∨ name = "conf") :
    ∃ text, c.format name = .ok text ∧
      ((∀ k, (PropertiesText.read text.toList).get? k = m.get? k) ↔
        ∀ e ∈ m.entries, PropertiesText.Keeps e) := by
  refine ⟨_, format_properties hm hn, ?_⟩
  rw [String.toList_ofList]
  exact PropertiesText.read_write_iff (starts_properties hm)

/-- The name of a placeholder with a separator and a space in it comes back, and so does a
description that begins with a space and goes over two lines. -/
theorem format_properties_escaped :
    let name := "flyway.placeholders.a=b c"
    let description := " first\nand #last\\"
    let given : PropertyMap :=
      .ofList [(name, "\tx: y"), ("flyway.baselineDescription", description)]
    let c := ((apply given propertyRoot).run ⟨new .community ⟨0, none⟩, .bare⟩).2.config
    Configured .community ⟨0, none⟩ c ∧ ∃ m text, c.properties = .ok m ∧
      c.format "properties" = .ok text ∧ m.get? name = some "\tx: y" ∧
      m.get? "flyway.baselineDescription" = some description ∧
      ∀ k, (PropertiesText.read text.toList).get? k = m.get? k := by
  intro name description given c
  have hc : Configured .community ⟨0, none⟩ c := .pass .new .bare _ propertyRoot
  obtain ⟨m, hm⟩ := hc.wellKept.properties_ok
  have hseen : c.properties.toOption.map (fun m => (m.get? name,
      m.get? "flyway.baselineDescription", decide (∀ e ∈ m.entries, PropertiesText.Keeps e))) =
        some (some "\tx: y", some description, true) := by
    decide +kernel
  rw [hm] at hseen
  obtain ⟨hname, hseen⟩ := Prod.mk.inj (Option.some.inj hseen)
  obtain ⟨hdescription, hkeeps⟩ := Prod.mk.inj hseen
  obtain ⟨text, ht, hread⟩ := format_properties_read_iff hm (.inl rfl)
  exact ⟨hc, m, text, hm, ht, hname, hdescription, hread.2 (of_decide_eq_true hkeeps)⟩

/-- A description with a space at its end does not come back. -/
theorem format_description_lost :
    ∃ c m text, Configured .community ⟨0, none⟩ c ∧ c.properties = .ok m ∧
      c.format "properties" = .ok text ∧
        ¬ ∀ k, (PropertiesText.read text.toList).get? k = m.get? k := by
  let c : Config :=
    ((apply (.ofList [("flyway.baselineDescription", "first ")]) propertyRoot).run
      ⟨new .community ⟨0, none⟩, .bare⟩).2.config
  have hc : Configured .community ⟨0, none⟩ c := .pass .new .bare _ propertyRoot
  have hdescription : c.get .baselineDescription = "first " := by decide +kernel
  obtain ⟨m, hm⟩ := hc.wellKept.properties_ok
  have hentry : ("flyway.baselineDescription", "first ") ∈ m.entries := by
    refine PropertyMap.mem_entries.2 ((get?_properties hm).2 (.inl ⟨.baselineDescription, ?_⟩))
    refine ⟨by decide, rfl, ?_⟩
    rw [hdescription]
    rfl
  refine ⟨c, m, _, hc, hm, format_properties hm (.inl rfl), fun hall => ?_⟩
  rw [String.toList_ofList, PropertiesText.read_write_iff (starts_properties hm)] at hall
  have hlast := (hall _ hentry).2.last ' ' (by decide) (by decide)
  exact absurd hlast (by decide)

end Config

end MigrationConfig
