/-
# The order of a map

A map comes to a pass in some order: that of a file, of an environment, of the
calls of a program.  The order makes no difference.  Settings look up their own
keys and are dealt with in an order of their own, names are laid over names, and
a report is sorted.

So two maps with the same entries have the same answer, leave configurations that
agree, and do the same to the host, down to the last event of the log.
-/
import MigrationConfig.Proofs.Agreement
import MigrationConfig.Proofs.Residue

namespace MigrationConfig

/-! ## Answers -/

/-- Errors that only differ in the order in which keys without a meaning were
met. -/
def Error.Alike (e e' : Error) : Prop :=
  e = e' ∨ ∃ ks ks', e = .unrecognized ks ∧ e' = .unrecognized ks' ∧ ks.Perm ks'

theorem Report.sortKeys_of_perm {ks ks' : List String} (h : ks.Perm ks') :
    sortKeys ks = sortKeys ks' := by
  have hperm : (sortKeys ks).Perm (sortKeys ks') :=
    ((List.mergeSort_perm ks _).trans h).trans (List.mergeSort_perm ks' _).symm
  exact hperm.eq_of_pairwise (fun _ _ _ _ hab hba => String.le_antisymm hab hba)
    (pairwise_sortKeys ks) (pairwise_sortKeys ks')

theorem Error.Alike.report?_eq {e e' : Error} (h : e.Alike e') : e.report? = e'.report? := by
  rcases h with rfl | ⟨ks, ks', rfl, rfl, hp⟩
  · rfl
  · simp only [report?, Report.unrecognized, Report.sortKeys_of_perm hp]

theorem Error.Alike.message_eq {e e' : Error} (h : e.Alike e') : e.message = e'.message := by
  rcases h with rfl | ⟨ks, ks', rfl, rfl, hp⟩
  · rfl
  · simp only [message, report?, Report.unrecognized, Report.sortKeys_of_perm hp]

/-- Answers that cannot be told apart: both procedures return, or both fail with
errors of one kind, with the same message and the same report. -/
def SameAnswer {α : Type} : Except Error α → Except Error α → Prop
  | .ok _, .ok _ => True
  | .error e, .error e' => e.Alike e' ∧ e.message = e'.message ∧ e.report? = e'.report?
  | _, _ => False

theorem SameAnswer.error {α : Type} {e e' : Error} (h : e.Alike e') :
    SameAnswer (.error e : Except Error α) (.error e') :=
  ⟨h, h.message_eq, h.report?_eq⟩

/-- What is logged of a descriptor does not show its properties. -/
theorem Descriptor.derivationEvents_agree (driver url user password : Option String)
    {d d' : Option Descriptor} (h : Option.Rel Agree d d') :
    derivationEvents driver url user password d' = derivationEvents driver url user password d := by
  cases h with
  | none => rfl
  | some h => simp only [derivationEvents, h.url]

namespace Config

variable {m m' : PropertyMap} (hm : m.entries.Perm m'.entries)

include hm

/-! ## The parts of a pass -/

theorem textFor?_of_perm (s : Setting) : textFor? m' s = textFor? m s := by
  simp only [textFor?, PropertyMap.get?_of_perm hm]

theorem unknownKeys_of_perm (root : String) : (unknownKeys m root).Perm (unknownKeys m' root) :=
  (hm.map Prod.fst).filter _

theorem verdict_of_perm (root : String) : SameAnswer (verdict m root) (verdict m' root) := by
  have hkeys := unknownKeys_of_perm hm root
  rw [verdict_eq, verdict_eq]
  by_cases hnil : unknownKeys m root = []
  · rw [if_pos hnil, if_pos (hnil ▸ hkeys).nil_eq.symm]
    trivial
  · rw [if_neg hnil, if_neg fun h => hnil (h ▸ hkeys).eq_nil]
    exact .error (.inr ⟨_, _, rfl, rfl, hkeys⟩)

theorem verdictLog_of_perm (root : String) : verdictLog m' root = verdictLog m root := by
  have hkeys := unknownKeys_of_perm hm root
  have hsize : (known m').size = (known m).size := (hm.filter _).length_eq.symm
  have hnil : unknownKeys m' root = [] ↔ unknownKeys m root = [] :=
    ⟨fun h => (h ▸ hkeys).eq_nil, fun h => (h ▸ hkeys).nil_eq.symm⟩
  simp only [verdictLog_eq, hsize, hnil]

theorem driverPropertiesWith_of_perm (c : Config) :
    (c.driverPropertiesWith m).entries.Perm (c.driverPropertiesWith m').entries := by
  refine PropertyMap.perm_of_get? fun n => ?_
  rw [get?_driverPropertiesWith, get?_driverPropertiesWith, PropertyMap.get?_of_perm hm]

theorem descriptorWith_of_perm (c : Config) :
    Option.Rel Descriptor.Agree (c.descriptorWith (c.driverPropertiesWith m))
      (c.descriptorWith (c.driverPropertiesWith m')) :=
  Descriptor.ofSettings?_agree _ _ _ _ (driverPropertiesWith_of_perm hm c) _

/-- The end of a pass leaves configurations that agree. -/
theorem concluded_of_perm (c : Config) : (c.concluded m).Agree (c.concluded m') where
  edition := (concluded_frame c m).1.trans (concluded_frame c m').1.symm
  loader := (concluded_frame c m).2.trans (concluded_frame c m').2.symm
  values := by
    refine settings_agree (fun s hp hj => ?_) (fun n => ?_) (fun n => ?_)
    · rw [concluded_get, concluded_get, withNamespaces_get_of_ne _ _ hp hj,
        withNamespaces_get_of_ne _ _ hp hj]
    · rw [concluded_get, concluded_get, withNamespaces_placeholders, withNamespaces_placeholders,
        get?_placeholdersWith, get?_placeholdersWith, PropertyMap.get?_of_perm hm]
    · rw [concluded_get, concluded_get, withNamespaces_driverProperties,
        withNamespaces_driverProperties]
      split
      · exact PropertyMap.get?_of_perm (driverPropertiesWith_of_perm hm c) n
      · rfl
  descriptor := by
    show Option.Rel _ (if touchesConnection m then _ else _) (if touchesConnection m' then _ else _)
    rw [touchesConnection_congr (textFor?_of_perm hm)]
    split
    · exact descriptorWith_of_perm hm c
    · exact (Agree.refl c).descriptor

theorem conclusionLog_of_perm (c : Config) : c.conclusionLog m' = c.conclusionLog m := by
  have hlog : c.derivationLog (c.driverPropertiesWith m') =
      c.derivationLog (c.driverPropertiesWith m) :=
    Descriptor.derivationEvents_agree _ _ _ _ (descriptorWith_of_perm hm c)
  unfold conclusionLog
  rw [touchesConnection_congr (textFor?_of_perm hm), hlog]

/-! ## The whole pass -/

/-- A pass over the same entries in another order has the same answer, leaves a
configuration that agrees, and does the same to the host. -/
theorem apply_of_perm (c : Config) (h : Host) (root : String) :
    SameAnswer ((apply m root).run ⟨c, h⟩).1 ((apply m' root).run ⟨c, h⟩).1 ∧
      ((apply m root).run ⟨c, h⟩).2.config.Agree ((apply m' root).run ⟨c, h⟩).2.config ∧
      ((apply m root).run ⟨c, h⟩).2.host = ((apply m' root).run ⟨c, h⟩).2.host := by
  rw [apply_run, apply_run, applySettings_congr (textFor?_of_perm hm)]
  rcases (applySettings m Setting.applied).run ⟨c, h⟩ with ⟨r, c', h'⟩
  cases r with
  | error e => exact ⟨.error (.inl rfl), .refl c', rfl⟩
  | ok u =>
      refine ⟨verdict_of_perm hm root, concluded_of_perm hm c', ?_⟩
      show h'.logged _ = h'.logged _
      rw [conclusionLog_of_perm hm, verdictLog_of_perm hm]

omit hm in
/-- Keys without a meaning and names of a namespace, forwards and backwards. -/
theorem apply_of_perm_reversed :
    let m : PropertyMap := .ofList [("flyway.zeta", "1"), ("flyway.placeholders.a", "x"),
      ("flyway.user", "me"), ("flyway.alpha", "2"), ("flyway.placeholders.b", "y")]
    let m' : PropertyMap := .ofList m.entries.reverse
    let c : Config := .new .community ⟨0, none⟩
    m.entries ≠ m'.entries ∧ m.entries.Perm m'.entries ∧
      SameAnswer ((apply m propertyRoot).run ⟨c, .bare⟩).1
          ((apply m' propertyRoot).run ⟨c, .bare⟩).1 ∧
        ((apply m propertyRoot).run ⟨c, .bare⟩).2.config.Agree
          ((apply m' propertyRoot).run ⟨c, .bare⟩).2.config ∧
        ((apply m propertyRoot).run ⟨c, .bare⟩).2.host =
          ((apply m' propertyRoot).run ⟨c, .bare⟩).2.host := by
  intro m m' c
  have hm : m.entries.Perm m'.entries := by decide +kernel
  refine ⟨by decide +kernel, hm, ?_⟩
  exact apply_of_perm hm c .bare propertyRoot

end Config

end MigrationConfig
