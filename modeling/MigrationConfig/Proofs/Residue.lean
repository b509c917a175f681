/-
# Keys without a meaning

A pass deals with the keys that it knows, those of the settings and those in a
namespace, and every other key is left over.  Nothing but the report at its end
looks at what is left over, so keys without a meaning can be added to a map or
taken out of it, and the configuration that the pass leaves is the same
(`apply_filter_run`).

Keys under the root of the pass are reported, all of them and no others, and only
if there is nothing else to complain about.
-/
import MigrationConfig.Proofs.Configure
import MigrationConfig.Proofs.Refusal

namespace MigrationConfig

/-- Keys are sorted in ascending order. -/
theorem Report.pairwise_sortKeys (ks : List String) : (sortKeys ks).Pairwise (· ≤ ·) := by
  have hle : (sortKeys ks).Pairwise fun a b => decide (a ≤ b) = true :=
    List.pairwise_mergeSort
      (fun a b c hab hbc => by
        simpa using String.le_trans (of_decide_eq_true hab) (of_decide_eq_true hbc))
      (fun a b => by simpa using String.le_total a b) ks
  exact hle.imp of_decide_eq_true

/-! ## Maps of which a part is kept -/

theorem PropertyMap.filter_comm (m : PropertyMap) (p q : String × String → Bool) :
    (m.filter p).filter q = (m.filter q).filter p :=
  PropertyMap.ext (List.filter_comm ..)

/-- A filter that keeps all names of a namespace leaves it as it is. -/
theorem Namespace.members_filter {root : String} {keep : String → Bool}
    (hk : ∀ k, (name? root k).isSome = true → keep k = true) (m : PropertyMap) :
    members root (m.filter fun e => keep e.1) = members root m := by
  show List.filterMap _ (List.filter _ m.entries) = List.filterMap _ m.entries
  rw [List.filterMap_filter]
  refine List.filterMap_congr fun e _ => ?_
  cases hn : name? root e.1 with
  | none => split <;> rfl
  | some n => rw [if_pos (hk e.1 (by rw [hn]; rfl))]

namespace Config

/-! ## What is left over -/

/-- What is left over are the entries whose keys are not known. -/
theorem leftOver_eq (m : PropertyMap) : leftOver m = m.filter fun e => !isKnownKey e.1 := by
  apply PropertyMap.ext
  show ((m.entries.filter _).filter _).filter _ = _
  rw [List.filter_filter, List.filter_filter]
  refine List.filter_congr fun e _ => ?_
  unfold isKnownKey
  cases isSettingKey e.1 <;> cases Namespace.name? placeholderRoot e.1 <;>
    cases Namespace.name? driverPropertyRoot e.1 <;> rfl

/-- The entries that a pass deals with. -/
def known (m : PropertyMap) : PropertyMap := m.filter fun e => isKnownKey e.1

theorem size_sub_leftOver (m : PropertyMap) : m.size - (leftOver m).size = (known m).size := by
  have hsplit := List.length_eq_length_filter_add (l := m.entries) fun e => isKnownKey e.1
  rw [leftOver_eq]
  show m.entries.length - (m.entries.filter fun e => !isKnownKey e.1).length =
    (m.entries.filter fun e => isKnownKey e.1).length
  omega

/-- A key without a meaning under a root. -/
def isUnknownUnder (root k : String) : Bool := Namespace.beginsWith root k && !isKnownKey k

/-- The keys of a map under a root that have no meaning. -/
def unknownKeys (m : PropertyMap) (root : String) : List String :=
  m.keys.filter (isUnknownUnder root)

/-- A map without its keys under a root that have no meaning. -/
def withoutUnknown (m : PropertyMap) (root : String) : PropertyMap :=
  m.filter fun e => !isUnknownUnder root e.1

theorem keysUnder_leftOver (m : PropertyMap) (root : String) :
    keysUnder root (leftOver m) = unknownKeys m root := by
  rw [leftOver_eq]
  show ((m.entries.filter fun e => !isKnownKey e.1).map Prod.fst).filter _ =
    (m.entries.map Prod.fst).filter _
  rw [List.filter_map, List.filter_map, List.filter_filter]
  rfl

theorem nodup_unknownKeys (m : PropertyMap) (root : String) : (unknownKeys m root).Nodup :=
  List.Nodup.filter _ m.distinct

/-- A pass that meets no refusal ends well, or reports all keys under its root
that have no meaning. -/
theorem verdict_eq (m : PropertyMap) (root : String) :
    verdict m root =
      if unknownKeys m root = [] then .ok () else .error (.unrecognized (unknownKeys m root)) := by
  rw [verdict, keysUnder_leftOver]
  simp only [List.isEmpty_iff]

theorem verdictLog_eq (m : PropertyMap) (root : String) :
    verdictLog m root =
      if unknownKeys m root = [] then [.propertiesApplied (known m).size] else [] := by
  rw [verdictLog, keysUnder_leftOver, size_sub_leftOver]
  simp only [List.isEmpty_iff]

/-! ## Leaving out what is not known -/

section Filter

variable {keep : String → Bool} (hk : ∀ k, isKnownKey k = true → keep k = true)

include hk

theorem textFor?_filter (m : PropertyMap) (s : Setting) :
    textFor? (m.filter fun e => keep e.1) s = textFor? m s := by
  unfold textFor?
  cases hkey : s.key? with
  | none => rfl
  | some key =>
      have hknown : isKnownKey key = true := by
        have happ : s ∈ Setting.applied := Setting.mem_applied.2 (by rw [hkey]; rfl)
        have hset : isSettingKey key = true := List.any_eq_true.2 ⟨s, happ, by simp [hkey]⟩
        simp [isKnownKey, hset]
      simp only [PropertyMap.get?_filter, hk key hknown, if_true]

theorem placeholdersWith_filter (m : PropertyMap) (c : Config) :
    c.placeholdersWith (m.filter fun e => keep e.1) = c.placeholdersWith m := by
  have hname : ∀ k, (Namespace.name? placeholderRoot k).isSome = true → keep k = true :=
    fun k hn => hk k (by simp [isKnownKey, hn])
  unfold placeholdersWith Namespace.extract beyondSettings
  rw [PropertyMap.filter_comm, Namespace.members_filter hname]

theorem driverPropertiesWith_filter (m : PropertyMap) (c : Config) :
    c.driverPropertiesWith (m.filter fun e => keep e.1) = c.driverPropertiesWith m := by
  have hname : ∀ k, (Namespace.name? driverPropertyRoot k).isSome = true → keep k = true :=
    fun k hn => hk k (by simp [isKnownKey, hn])
  unfold driverPropertiesWith Namespace.extract Namespace.outside beyondSettings
  rw [PropertyMap.filter_comm m, PropertyMap.filter_comm, Namespace.members_filter hname]

theorem concluded_filter (m : PropertyMap) (c : Config) :
    c.concluded (m.filter fun e => keep e.1) = c.concluded m := by
  unfold concluded withNamespaces
  rw [touchesConnection_congr (textFor?_filter hk m), placeholdersWith_filter hk,
    driverPropertiesWith_filter hk]

theorem conclusionLog_filter (m : PropertyMap) (c : Config) :
    c.conclusionLog (m.filter fun e => keep e.1) = c.conclusionLog m := by
  unfold conclusionLog
  rw [touchesConnection_congr (textFor?_filter hk m), driverPropertiesWith_filter hk]

theorem known_filter (m : PropertyMap) : known (m.filter fun e => keep e.1) = known m := by
  apply PropertyMap.ext
  show (m.entries.filter _).filter _ = m.entries.filter _
  rw [List.filter_filter]
  refine List.filter_congr fun e _ => ?_
  cases hknown : isKnownKey e.1 with
  | false => rfl
  | true => rw [hk e.1 hknown]; rfl

/-- A pass over a part of a map with all its known keys and the pass over the
whole map fail together at a setting, or else they leave the same configuration
and differ at most in the report at the end. -/
theorem apply_filter_cases (m : PropertyMap) (root : String) (t : Situation) :
    (∃ e t', e.OfSetting ∧ (apply m root).run t = (.error e, t') ∧
        (apply (m.filter fun e => keep e.1) root).run t = (.error e, t')) ∨
      ∃ (c : Config) (h : Host),
        (apply m root).run t = (verdict m root, ⟨c, h.logged (verdictLog m root)⟩) ∧
        (apply (m.filter fun e => keep e.1) root).run t =
          (verdict (m.filter fun e => keep e.1) root,
            ⟨c, h.logged (verdictLog (m.filter fun e => keep e.1) root)⟩) := by
  rw [apply_run, apply_run, applySettings_congr (textFor?_filter hk m)]
  have hrefuses := applySettings_refuses m Setting.applied t
  rcases hr : (applySettings m Setting.applied).run t with ⟨r, c, h⟩
  rw [hr] at hrefuses
  cases r with
  | error e => exact .inl ⟨e, ⟨c, h⟩, hrefuses e rfl, rfl, rfl⟩
  | ok u =>
      refine .inr ⟨c.concluded m, h.logged (c.conclusionLog m), ?_, ?_⟩
      · rw [Host.logged_logged]
      · rw [Host.logged_logged, ← concluded_filter hk m c, ← conclusionLog_filter hk m c]

end Filter

/-! ## The report -/

/-- What a pass without a refusal reports of the map without its unknown keys:
nothing. -/
theorem unknownKeys_withoutUnknown (m : PropertyMap) (root : String) :
    unknownKeys (withoutUnknown m root) root = [] := by
  rw [unknownKeys, List.filter_eq_nil_iff]
  intro k hk hu
  obtain ⟨e, he, rfl⟩ := List.mem_map.1 hk
  have hkept := (List.mem_filter.1 he).2
  rw [hu] at hkept
  cases hkept

theorem keeps_known_of_unknown (root k : String) (hk : isKnownKey k = true) :
    (!isUnknownUnder root k) = true := by
  simp [isUnknownUnder, hk]

/-- The report lists keys, each of them once and in ascending order. -/
theorem report_unrecognized {keys : List String} (hd : keys.Nodup) :
    ∃ r sorted, (Error.unrecognized keys).report? = some r ∧ r.subject = .unrecognized sorted ∧
      r.context = [("properties", .texts sorted)] ∧ sorted.Pairwise (· < ·) ∧
        ∀ k, k ∈ sorted ↔ k ∈ keys := by
  refine ⟨_, Report.sortKeys keys, rfl, rfl, rfl, ?_, fun k => List.mem_mergeSort⟩
  have hne : (Report.sortKeys keys).Pairwise (· ≠ ·) :=
    (List.mergeSort_perm keys _).nodup_iff.2 hd
  refine ((Report.pairwise_sortKeys keys).and hne).imp fun {a b} hab => ?_
  exact String.not_le.1 fun hba => hab.2 (String.le_antisymm hab.1 hba)

theorem mem_unknownKeys {m : PropertyMap} {root k : String} :
    k ∈ unknownKeys m root ↔
      k ∈ m.keys ∧ Namespace.beginsWith root k = true ∧ isKnownKey k = false := by
  simp [unknownKeys, isUnknownUnder]

/-- Keys without a meaning outside of the root change nothing. -/
theorem apply_filter_quiet {keep : String → Bool} {root : String}
    (hk : ∀ k, keep k = false → isKnownKey k = false ∧ Namespace.beginsWith root k = false)
    (m : PropertyMap) (t : Situation) :
    (apply (m.filter fun e => keep e.1) root).run t = (apply m root).run t := by
  have hknown : ∀ k, isKnownKey k = true → keep k = true := by
    intro k hkk
    by_contra hne
    rw [(hk k (by simpa using hne)).1] at hkk
    cases hkk
  have hunknown : unknownKeys (m.filter fun e => keep e.1) root = unknownKeys m root := by
    show ((m.entries.filter fun e => keep e.1).map Prod.fst).filter _ =
      (m.entries.map Prod.fst).filter _
    rw [List.filter_map, List.filter_map, List.filter_filter]
    refine congrArg _ (List.filter_congr fun e _ => ?_)
    cases hke : keep e.1 with
    | true => exact Bool.and_true _
    | false => simp [isUnknownUnder, (hk e.1 hke).2]
  rcases apply_filter_cases hknown m root t with ⟨e, t', -, hm, hf⟩ | ⟨c, h, hm, hf⟩
  · rw [hm, hf]
  · rw [hm, hf, verdict_eq, verdict_eq, verdictLog_eq, verdictLog_eq, hunknown,
      known_filter hknown]

/-- What a pass makes of keys without a meaning.

It reports keys exactly when there are such keys under its root and the pass
without them returns.  The report lists all of them and nothing else, each once,
in the order of their characters.  In any case the pass leaves the configuration
that the pass without them leaves.  Keys without a meaning that do not lie under
the root make no difference at all. -/
theorem apply_reports_unknown (c : Config) (h : Host) (m : PropertyMap) (root : String) :
    ((∃ keys, ((apply m root).run ⟨c, h⟩).1 = .error (.unrecognized keys)) ↔
      unknownKeys m root ≠ [] ∧ ((apply (withoutUnknown m root) root).run ⟨c, h⟩).1 = .ok ()) ∧
    (∀ keys, ((apply m root).run ⟨c, h⟩).1 = .error (.unrecognized keys) →
      ∃ r sorted, (Error.unrecognized keys).report? = some r ∧
        r.subject = .unrecognized sorted ∧ r.context = [("properties", .texts sorted)] ∧
          sorted.Pairwise (· < ·) ∧ ∀ k, k ∈ sorted ↔
            k ∈ m.keys ∧ Namespace.beginsWith root k = true ∧ isKnownKey k = false) ∧
    ((apply m root).run ⟨c, h⟩).2.config =
      ((apply (withoutUnknown m root) root).run ⟨c, h⟩).2.config ∧
    ∀ keep : String → Bool,
      (∀ k, keep k = false → isKnownKey k = false ∧ Namespace.beginsWith root k = false) →
        (apply (m.filter fun e => keep e.1) root).run ⟨c, h⟩ = (apply m root).run ⟨c, h⟩ := by
  rcases apply_filter_cases (keeps_known_of_unknown root) m root ⟨c, h⟩ with
    ⟨e, t, he, hm, hw⟩ | ⟨c', h', hm, hw⟩
  · -- a setting was refused, which ends both passes
    have hnot : ∀ keys, ((apply m root).run ⟨c, h⟩).1 ≠ .error (.unrecognized keys) := by
      intro keys hc
      rw [hm] at hc
      cases hc
      exact he
    refine ⟨⟨fun ⟨keys, hc⟩ => absurd hc (hnot keys), fun ⟨_, hok⟩ => ?_⟩,
      fun keys hc => absurd hc (hnot keys), ?_, fun _ hk => apply_filter_quiet hk m ⟨c, h⟩⟩
    · rw [withoutUnknown, hw] at hok
      cases hok
    · rw [hm, withoutUnknown, hw]
  · -- both passes come to their ends, and the one without unknown keys returns
    have hok : ((apply (withoutUnknown m root) root).run ⟨c, h⟩).1 = .ok () := by
      rw [withoutUnknown, hw, verdict_eq]
      exact if_pos (unknownKeys_withoutUnknown m root)
    have hverdict : ((apply m root).run ⟨c, h⟩).1 = verdict m root := by rw [hm]
    have hreport : ∀ keys, ((apply m root).run ⟨c, h⟩).1 = .error (.unrecognized keys) →
        keys = unknownKeys m root ∧ unknownKeys m root ≠ [] := by
      intro keys hc
      rw [hverdict, verdict_eq] at hc
      split at hc
      · cases hc
      · next hne =>
          cases hc
          exact ⟨rfl, hne⟩
    refine ⟨⟨fun ⟨keys, hc⟩ => ⟨(hreport keys hc).2, hok⟩, ?_⟩, fun keys hc => ?_, ?_,
      fun _ hk => apply_filter_quiet hk m ⟨c, h⟩⟩
    · rintro ⟨hne, -⟩
      refine ⟨unknownKeys m root, ?_⟩
      rw [hverdict, verdict_eq, if_neg hne]
    · rw [(hreport keys hc).1]
      simp only [← mem_unknownKeys]
      exact report_unrecognized (nodup_unknownKeys m root)
    · rw [hm, withoutUnknown, hw]

end Config

end MigrationConfig
