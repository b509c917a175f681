/-
# Maps and variables that differ in secrets only

The password, the vault token and the license key are secrets.  Two maps are compared
entry by entry: the keys are the same, and so are the values, but for those of secrets
(`PropertyMap.SameButSecrets`).  One thing about a password is not hidden, whether it
has text; for that decides whether a connection is derived.

The relation is kept by all that is done to maps before they are applied: insertions,
filters, the reading of variables.  What is looked up under any other key is the same,
and no secret is among the entries that are left when the settings are taken out.
-/
import Mathlib.Data.List.Forall2
import MigrationConfig.Proofs.Loading
import MigrationConfig.Proofs.Variables

namespace MigrationConfig

namespace Secret

def passwordKey : String := "flyway.password"

/-- The keys whose values are secrets. -/
def secretKeys : List String := [passwordKey, "flyway.vault.token", "flyway.licenseKey"]

/-- Two values of a secret; two passwords if both have text or both have none. -/
structure Exchanged (key v v' : String) : Prop where
  isSecret : key ∈ secretKeys
  hasText : key = passwordKey → Text.hasText (some v') = Text.hasText (some v)

/-- The values of a key are the same, unless it is a secret. -/
def Veiled (key v v' : String) : Prop := v' = v ∨ Exchanged key v v'

/-- The entries of a key. -/
def Entry (e e' : String × String) : Prop := e'.1 = e.1 ∧ Veiled e.1 e.2 e'.2

/-- The variables of a name; that of a secret is the one that its key is spelled as. -/
def Variable (e e' : String × String) : Prop :=
  e'.1 = e.1 ∧ (e'.2 = e.2 ∨ ∃ key, e.1 = Environment.variableOf key ∧ Exchanged key e.2 e'.2)

theorem Veiled.refl (key v : String) : Veiled key v v := .inl rfl

theorem Veiled.eq {key v v' : String} (hv : Veiled key v v') (hkey : key ∉ secretKeys) : v' = v :=
  hv.resolve_right fun he => hkey he.isSecret

theorem Veiled.hasText {v v' : String} (hv : Veiled passwordKey v v') :
    Text.hasText (some v') = Text.hasText (some v) := by
  rcases hv with rfl | he
  · rfl
  · exact he.hasText rfl

/-- What is looked up under a key that is no secret is the same. -/
theorem eq_of_rel {key : String} {o o' : Option String} (ho : Option.Rel (Veiled key) o o')
    (hkey : key ∉ secretKeys) : o' = o := by
  cases ho with
  | none => rfl
  | some hv => rw [hv.eq hkey]

theorem hasText_of_rel {o o' : Option String} (ho : Option.Rel (Veiled passwordKey) o o') :
    Text.hasText o' = Text.hasText o := by
  cases ho with
  | none => rfl
  | some hv => exact hv.hasText

theorem Entry.refl (e : String × String) : Entry e e := ⟨rfl, .refl e.1 e.2⟩

/-! ## Entries -/

section Entries

variable {l l' : List (String × String)}

theorem get?_entries (hl : List.Forall₂ Entry l l') (k : String) :
    Option.Rel (Veiled k) (Entries.get? k l) (Entries.get? k l') := by
  induction hl with
  | nil => exact .none
  | @cons e e' rest rest' he _ ih =>
      rw [Entries.get?_cons, Entries.get?_cons, he.1]
      cases hk : e.1 == k with
      | true =>
          rw [if_pos rfl, if_pos rfl]
          exact .some (eq_of_beq hk ▸ he.2)
      | false =>
          rw [if_neg Bool.false_ne_true, if_neg Bool.false_ne_true]
          exact ih

theorem put_entries {k v v' : String} (hv : Veiled k v v') (hl : List.Forall₂ Entry l l') :
    List.Forall₂ Entry (Entries.put k v l) (Entries.put k v' l') := by
  induction hl with
  | nil => exact .cons ⟨rfl, hv⟩ .nil
  | @cons e e' rest rest' he hrest ih =>
      rw [Entries.put_cons, Entries.put_cons, he.1]
      cases hk : e.1 == k with
      | true =>
          rw [if_pos rfl, if_pos rfl]
          exact .cons ⟨rfl, (eq_of_beq hk).symm ▸ hv⟩ hrest
      | false =>
          rw [if_neg Bool.false_ne_true, if_neg Bool.false_ne_true]
          exact .cons he ih

/-- A filter on keys keeps corresponding entries. -/
theorem filter_entries (q : String → Bool) (hl : List.Forall₂ Entry l l') :
    List.Forall₂ Entry (l.filter fun e => q e.1) (l'.filter fun e => q e.1) := by
  refine List.rel_filter (fun e e' he => ?_) hl
  show q e.1 = true ↔ q e'.1 = true
  rw [he.1]

/-- A filter that lets no secret through leaves the same entries. -/
theorem filter_entries_eq {q : String → Bool} (hq : ∀ key ∈ secretKeys, q key = false)
    (hl : List.Forall₂ Entry l l') :
    (l'.filter fun e => q e.1) = l.filter fun e => q e.1 := by
  have hsame : List.Forall₂ (fun e e' => e = e') (l.filter fun e => q e.1)
      (l'.filter fun e => q e.1) := by
    induction hl with
    | nil => exact .nil
    | @cons e e' rest rest' he _ ih =>
        rw [List.filter_cons, List.filter_cons, he.1]
        cases hkept : q e.1 with
        | false => exact ih
        | true =>
            have hkey : e.1 ∉ secretKeys := fun hm => by
              rw [hq e.1 hm] at hkept
              cases hkept
            exact .cons (Prod.ext he.1.symm (he.2.eq hkey).symm) ih
  exact (List.forall₂_eq_eq_eq ▸ hsame : _ = _).symm

end Entries

end Secret

/-! ## Property maps -/

/-- The maps differ at most in the values of secrets. -/
def PropertyMap.SameButSecrets (m m' : PropertyMap) : Prop :=
  List.Forall₂ Secret.Entry m.entries m'.entries

namespace PropertyMap.SameButSecrets

open Secret

variable {m m' : PropertyMap}

theorem refl (m : PropertyMap) : SameButSecrets m m :=
  List.forall₂_same.2 fun e _ => .refl e

theorem size (hm : SameButSecrets m m') : m'.size = m.size := (List.Forall₂.length_eq hm).symm

theorem isEmpty (hm : SameButSecrets m m') : m'.isEmpty = m.isEmpty := by
  unfold PropertyMap.isEmpty
  rw [Bool.eq_iff_iff, List.isEmpty_iff_length_eq_zero, List.isEmpty_iff_length_eq_zero,
    List.Forall₂.length_eq hm]

theorem get? (hm : SameButSecrets m m') (k : String) :
    Option.Rel (Veiled k) (m.get? k) (m'.get? k) := get?_entries hm k

theorem get?_eq (hm : SameButSecrets m m') {k : String} (hk : k ∉ secretKeys) :
    m'.get? k = m.get? k := eq_of_rel (hm.get? k) hk

theorem insertAll (hm : SameButSecrets m m') {pairs pairs' : List (String × String)}
    (hp : List.Forall₂ Entry pairs pairs') :
    SameButSecrets (m.insertAll pairs) (m'.insertAll pairs') := by
  induction hp generalizing m m' with
  | nil => exact hm
  | @cons e e' rest rest' he _ ih =>
      rw [insertAll_cons, insertAll_cons, he.1]
      exact ih (put_entries he.2 hm)

theorem union {a a' : PropertyMap} (ha : SameButSecrets a a') (hm : SameButSecrets m m') :
    SameButSecrets (a.union m) (a'.union m') := ha.insertAll hm

theorem withoutSourceKeys (hm : SameButSecrets m m') :
    SameButSecrets (Loader.withoutSourceKeys m) (Loader.withoutSourceKeys m') :=
  filter_entries (fun k => k != Environment.fileEncodingKey)
    (filter_entries (fun k => k != Environment.filesKey) hm)

/-! ### What a pass sees -/

/-- The keys of secrets are keys of settings, so they are not among what is left. -/
theorem beyondSettings (hm : SameButSecrets m m') :
    Config.beyondSettings m' = Config.beyondSettings m := by
  have hkeys : ∀ key ∈ secretKeys, (!Config.isSettingKey key) = false := by decide
  exact PropertyMap.ext (filter_entries_eq hkeys hm)

theorem leftOver (hm : SameButSecrets m m') : Config.leftOver m' = Config.leftOver m := by
  unfold Config.leftOver
  rw [hm.beyondSettings]

theorem verdict (hm : SameButSecrets m m') (root : String) :
    Config.verdict m' root = Config.verdict m root := by
  unfold Config.verdict
  rw [hm.leftOver]

theorem verdictLog (hm : SameButSecrets m m') (root : String) :
    Config.verdictLog m' root = Config.verdictLog m root := by
  unfold Config.verdictLog
  rw [hm.leftOver, hm.size]

end PropertyMap.SameButSecrets

/-! ## Variables -/

/-- The variables differ at most in the values of secrets. -/
def SameVariablesButSecrets (environment environment' : Variables) : Prop :=
  List.Forall₂ Secret.Variable environment environment'

namespace Environment

open Secret

/-- The variables of secrets are known. -/
theorem spelled_secrets :
    ∀ key ∈ secretKeys, key ∈ spelledKeys ∧ Namespace.beginsWith root (variableOf key) = true := by
  decide +kernel

/-- Corresponding variables contribute nothing, the same event or corresponding entries. -/
theorem entryOf_veiled {e e' : String × String} (he : Secret.Variable e e') :
    Option.Rel (Sum.LiftRel (fun a b => a = b) Secret.Entry)
      (entryOf true e) (entryOf true e') := by
  obtain ⟨name, value⟩ := e
  obtain ⟨name', value'⟩ := e'
  obtain ⟨rfl, rfl | ⟨key, rfl, hex⟩⟩ := he
  · cases entryOf true (name', value') with
    | none => exact .none
    | some found =>
        cases found with
        | inl event => exact .some (.inl rfl)
        | inr entry => exact .some (.inr (.refl entry))
  · obtain ⟨hspelled, hroot⟩ := spelled_secrets key hex.isSecret
    have hkey := key?_variableOf hspelled
    rw [entryOf_of_key? hroot hkey, entryOf_of_key? hroot hkey]
    exact .some (.inr ⟨rfl, .inr hex⟩)

theorem read_events (environment : Variables) :
    (read true environment).2 = (environment.filterMap (entryOf true)).filterMap Sum.getLeft? ++
      if (read true environment).1.isEmpty then []
      else [.environmentRead (read true environment).1.size] := by
  unfold read
  dsimp only
  congr 2
  funext found
  cases found <;> rfl

variable {environment environment' : Variables}

/-- The properties that are read differ in secrets only, and the same is logged of them. -/
theorem read_veiled (he : SameVariablesButSecrets environment environment') :
    (read true environment).1.SameButSecrets (read true environment').1 ∧
      (read true environment').2 = (read true environment).2 := by
  have hfound : List.Forall₂ (Sum.LiftRel (fun a b => a = b) Secret.Entry)
      (environment.filterMap (entryOf true)) (environment'.filterMap (entryOf true)) :=
    List.rel_filterMap (fun _ _ h => entryOf_veiled h) he
  have hproperties : (read true environment).1.SameButSecrets (read true environment').1 := by
    refine (PropertyMap.SameButSecrets.refl .empty).insertAll (List.rel_filterMap ?_ hfound)
    intro a b hab
    cases hab with
    | inl h => exact .none
    | inr h => exact .some h
  refine ⟨hproperties, ?_⟩
  have hignored : List.Forall₂ (fun a b => a = b)
      ((environment.filterMap (entryOf true)).filterMap Sum.getLeft?)
      ((environment'.filterMap (entryOf true)).filterMap Sum.getLeft?) := by
    refine List.rel_filterMap ?_ hfound
    intro a b hab
    cases hab with
    | inl h => exact .some h
    | inr h => exact .none
  have hsame : (environment.filterMap (entryOf true)).filterMap Sum.getLeft? =
      (environment'.filterMap (entryOf true)).filterMap Sum.getLeft? :=
    List.forall₂_eq_eq_eq ▸ hignored
  rw [read_events, read_events, hproperties.isEmpty, hproperties.size, hsame]

end Environment

/-! ## Sources -/

namespace Loader

open Secret

variable {overrides overrides' given given' : PropertyMap}

theorem sourceText_veiled (ho : overrides.SameButSecrets overrides')
    (hg : given.SameButSecrets given') {key : String} (hkey : key ∉ secretKeys) :
    sourceText overrides' given' key = sourceText overrides given key := by
  unfold sourceText
  rw [ho.get?_eq hkey, hg.get?_eq hkey]

theorem readEnvironment_veiled (s : SourceSettings) {environment environment' : Variables}
    (he : SameVariablesButSecrets environment environment') :
    (readEnvironment s environment).1.SameButSecrets (readEnvironment s environment').1 ∧
      (readEnvironment s environment').2 = (readEnvironment s environment).2 := by
  unfold readEnvironment
  cases s.readsEnvironment with
  | true => exact Environment.read_veiled he
  | false => exact ⟨.refl .empty, rfl⟩

/-- The sources differ in secrets of the environment only: they are the same files, read
in the same encoding. -/
structure Sources.SameButSecrets (src src' : Sources) : Prop where
  given : src.given.SameButSecrets src'.given
  rest : src' = { src with given := src'.given }

/-- No secret says where properties are read from. -/
theorem sourcesOf_veiled (s : SourceSettings) (home : Path)
    (ho : overrides.SameButSecrets overrides') {environment environment' : Variables}
    (he : SameVariablesButSecrets environment environment') :
    (sourcesOf s home overrides environment).SameButSecrets
      (sourcesOf s home overrides' environment') := by
  obtain ⟨hgiven, hevents⟩ := readEnvironment_veiled s he
  have hfiles : resolveFiles s home overrides' (readEnvironment s environment').1 =
      resolveFiles s home overrides (readEnvironment s environment).1 := by
    unfold resolveFiles
    rw [sourceText_veiled ho hgiven (by decide)]
  refine ⟨hgiven, ?_⟩
  unfold sourcesOf
  dsimp only
  rw [hevents, hfiles, sourceText_veiled ho hgiven (by decide)]

variable {src src' : Sources}

theorem Sources.SameButSecrets.recalling (hs : src.SameButSecrets src') (l : Loader) :
    l.recalling src' = l.recalling src := by
  unfold Loader.recalling
  rw [hs.given.isEmpty, hs.rest]

theorem Sources.SameButSecrets.merged (hs : src.SameButSecrets src') (loaded : PropertyMap)
    (ho : overrides.SameButSecrets overrides') :
    (src.merged loaded overrides).SameButSecrets (src'.merged loaded overrides') :=
  (((PropertyMap.SameButSecrets.refl loaded).union hs.given).union ho).withoutSourceKeys

end Loader

end MigrationConfig
