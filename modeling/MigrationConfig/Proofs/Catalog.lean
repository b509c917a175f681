/-
# The catalog of settings

Facts about the table as a whole: which settings have a key, that no two share
one, and that no key lies in a namespace.  They are checked once here, entry by
entry, and used by name everywhere else.
-/
import MigrationConfig.Config.Properties
import MigrationConfig.Proofs.Maps

namespace MigrationConfig

namespace Setting

theorem nodup_applied : applied.Nodup := by decide

theorem mem_applied {s : Setting} : s ∈ applied ↔ s.key?.isSome := by
  cases s <;> decide

theorem nodup_keys : (applied.map key?).Nodup := by
  simp [applied, key?]

/-- A key belongs to one setting. -/
theorem key?_inj {s t : Setting} {k : String} (hs : s.key? = some k) (ht : t.key? = some k) :
    s = t :=
  List.inj_on_of_nodup_map nodup_keys (mem_applied.2 (by simp [hs])) (mem_applied.2 (by simp [ht]))
    (hs.trans ht.symm)

/-- All keys lie under the root of the library, and none in a namespace. -/
theorem roots_of_keys : ∀ s ∈ applied, ∀ k ∈ s.key?,
    Namespace.beginsWith propertyRoot k = true ∧
      Namespace.beginsWith placeholderRoot k = false ∧
        Namespace.beginsWith driverPropertyRoot k = false := by
  decide +kernel

end Setting

end MigrationConfig
