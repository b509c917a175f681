/-
# Configurations that agree

A map is shown in the order in which its entries came, but the order means
nothing.  Two configurations agree when they show the same through every accessor,
maps without regard to order: every setting has the same value, placeholders and
driver properties have the same entries, and so do the properties of the
descriptor.

The edition, the path of a dry-run output and the stream are part of this as they
are; extensions are compared by their classes, which is all that is known of
them.
-/
import Mathlib.Data.Option.Basic
import MigrationConfig.Config.Basic
import MigrationConfig.Proofs.Maps

namespace MigrationConfig

/-! ## Values -/

/-- Values that differ at most in the order of a map. -/
def Kind.Agree : (k : Kind) → k.Value → k.Value → Prop
  | .table, a, b => (PropertyMap.entries a).Perm (PropertyMap.entries b)
  | _, a, b => a = b

theorem Kind.Agree.of_eq {k : Kind} {a b : k.Value} (h : a = b) : k.Agree a b := by
  subst h
  cases k with
  | table => exact .refl _
  | _ => rfl

/-- Descriptors that differ at most in the order of their properties. -/
structure Descriptor.Agree (d e : Descriptor) : Prop where
  url : d.url = e.url
  driver : d.driver = e.driver
  user : d.user = e.user
  password : d.password = e.password
  properties : d.properties.entries.Perm e.properties.entries
  loader : d.loader = e.loader

theorem Descriptor.Agree.refl (d : Descriptor) : d.Agree d :=
  ⟨rfl, rfl, rfl, rfl, .refl _, rfl⟩

/-- What is derived with the same properties in another order agrees. -/
theorem Descriptor.ofSettings?_agree (driver url user password : Option String)
    {p q : PropertyMap} (h : p.entries.Perm q.entries) (loader : Option ClassLoader) :
    Option.Rel Agree (ofSettings? driver url user password p loader)
      (ofSettings? driver url user password q loader) := by
  unfold ofSettings?
  split
  · split
    · exact .none
    · exact .some ⟨rfl, rfl, rfl, rfl, h, rfl⟩
  · exact .none

/-! ## Configurations -/

namespace Config

/-- Configurations that show the same through every accessor but the one for the
descriptor. -/
structure SettingsAgree (c c' : Config) : Prop where
  edition : c.edition = c'.edition
  loader : c.loader = c'.loader
  values : ∀ s : Setting, s.kind.Agree (c.get s) (c'.get s)

/-- Configurations that show the same through every accessor. -/
structure Agree (c c' : Config) : Prop extends SettingsAgree c c' where
  descriptor : Option.Rel Descriptor.Agree c.descriptor c'.descriptor

variable {c c' : Config}

theorem Agree.refl (c : Config) : c.Agree c where
  edition := rfl
  loader := rfl
  values _ := .of_eq rfl
  descriptor := by
    cases c.descriptor with
    | none => exact .none
    | some d => exact .some (.refl d)

/-- All settings agree if all but the two namespaces are equal, and these two say
the same of every name. -/
theorem settings_agree (hs : ∀ s, s ≠ .placeholders → s ≠ .jdbcProperties → c.get s = c'.get s)
    (hp : ∀ n, PropertyMap.get? (c.get .placeholders) n =
      PropertyMap.get? (c'.get .placeholders) n)
    (hj : ∀ n, PropertyMap.get? (c.get .jdbcProperties) n =
      PropertyMap.get? (c'.get .jdbcProperties) n) (s : Setting) :
    s.kind.Agree (c.get s) (c'.get s) := by
  by_cases h : s = .placeholders
  · subst h
    exact PropertyMap.perm_of_get? hp
  · by_cases h' : s = .jdbcProperties
    · subst h'
      exact PropertyMap.perm_of_get? hj
    · exact .of_eq (hs s h h')

end Config

end MigrationConfig
