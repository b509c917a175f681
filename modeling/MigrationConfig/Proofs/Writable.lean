/-
# Documents that can be written

A document is written as the values of properties.  An integer in it may be too long for
that, and a collection may stand inside itself; whether there is such an obstacle is said of
a document as a whole (`Document.IsWritable`), and settled part by part.

A document that was read from JSON has none: an integer of too many digits is not even read,
and nothing in a text refers to what is around it.
-/
import MigrationConfig.Proofs.Awaited
import MigrationConfig.Proofs.Digits

namespace MigrationConfig

theorem Entries.forall_put {α β : Type} [BEq α] {p : α → Prop} {q : β → Prop} {k : α} {v : β}
    {es : List (α × β)} (hes : ∀ e ∈ es, p e.1 ∧ q e.2) (hk : p k) (hv : q v) :
    ∀ e ∈ put k v es, p e.1 ∧ q e.2 := by
  induction es with
  | nil => simpa [put] using ⟨hk, hv⟩
  | cons e es ih =>
      obtain ⟨he, hes⟩ := List.forall_mem_cons.1 hes
      rw [put]
      split
      · exact List.forall_mem_cons.2 ⟨⟨he.1, hv⟩, hes⟩
      · exact List.forall_mem_cons.2 ⟨he, ih hes⟩

namespace Document

/-- A document that can be written at every place: no integer in it is too long, and nothing
stands inside itself. -/
structure IsWritable (d : Document) : Prop where
  short : hasTooLong d = false
  value : obstacle? d = none
  entries : ∀ es, d = .mapping es → entriesObstacle? es = none
  unmarked : ∀ b, d ≠ .scalar (.recurrence b)

theorem isWritable_scalar {x : Scalar} (hshort : x.isTooLong = false)
    (hmark : ∀ b, x ≠ .recurrence b) : IsWritable (.scalar x) := by
  refine ⟨hshort, ?_, fun es h => (by cases h), fun b h => hmark b (Document.scalar.inj h)⟩
  rw [obstacle?]
  · rw [hshort]
    rfl
  · exact hmark

theorem isWritable_list {items : List Document} (h : ∀ d ∈ items, IsWritable d) :
    IsWritable (.list items) := by
  have hall : anyTooLong items = false ∧ itemsObstacle? items = none := by
    induction items with
    | nil => exact ⟨rfl, rfl⟩
    | cons d ds ih =>
        obtain ⟨hd, hds⟩ := List.forall_mem_cons.1 h
        obtain ⟨hshort, hfree⟩ := ih hds
        rw [anyTooLong, itemsObstacle?, hd.short, hd.value, hshort, hfree]
        exact ⟨rfl, rfl⟩
  exact ⟨hall.1, hall.2, fun es h => (by cases h), fun b h => by cases h⟩

theorem isWritable_mapping {es : List (Scalar × Document)}
    (h : ∀ e ∈ es, e.1.isTooLong = false ∧ IsWritable e.2) : IsWritable (.mapping es) := by
  have hall : anyEntryTooLong es = false ∧ entriesObstacle? es = none := by
    induction es with
    | nil => exact ⟨rfl, by rw [entriesObstacle?]⟩
    | cons e es ih =>
        obtain ⟨k, d⟩ := e
        obtain ⟨⟨hk, hd⟩, hes⟩ := List.forall_mem_cons.1 h
        obtain ⟨hshort, hfree⟩ := ih hes
        refine ⟨by rw [anyEntryTooLong, hk, hd.short, hshort]; rfl, ?_⟩
        cases d with
        | mapping entries =>
            rw [entriesObstacle?, hk, hd.entries entries rfl, hfree]
            rfl
        | scalar x =>
            cases x with
            | recurrence b => exact absurd rfl (hd.unmarked b)
            | _ =>
                rw [entriesObstacle?, hk, hd.value, hfree]
                · rfl
                · intro b hb
                  cases hb
                · intro entries hm
                  cases hm
        | _ =>
            rw [entriesObstacle?, hk, hd.value, hfree]
            · rfl
            · intro b hb
              cases hb
            · intro entries hm
              cases hm
  refine ⟨hall.1, ?_, ?_, fun b h => by cases h⟩
  · rw [obstacle?, hall.1]
    rfl
  · rintro es' ⟨⟩
    exact hall.2

end Document

/-! ## Documents of JSON -/

namespace Json

theorem magnitude_writable {negative : Bool} {start s r : List Char} {x : Scalar}
    (h : magnitude negative start s = .ok (x, r)) :
    x.isTooLong = false ∧ ∀ b, x ≠ .recurrence b := by
  unfold magnitude at h
  cases hwhole : whole? s with
  | none =>
      rw [hwhole] at h
      cases h
  | some w =>
      obtain ⟨ds, r₁⟩ := w
      rw [hwhole] at h
      cases hfraction : fraction? r₁ with
      | some f =>
          simp only [hfraction] at h
          cases h
          exact ⟨rfl, fun b h => by cases h⟩
      | none =>
          cases hexponent : exponent? r₁ with
          | some e =>
              simp only [hfraction, hexponent] at h
              cases h
              exact ⟨rfl, fun b h => by cases h⟩
          | none =>
              simp only [hfraction, hexponent] at h
              split at h
              · cases h
              · next hshort =>
                  cases h
                  refine ⟨Scalar.isTooLong_number.2 ?_, fun b h => by cases h⟩
                  have hlt : Text.natOfDigits ds < 10 ^ Text.digitLimit :=
                    Nat.lt_of_lt_of_le (Text.natOfDigits_lt ds)
                      (Nat.pow_le_pow_right (by decide) (Nat.le_of_not_lt hshort))
                  cases negative with
                  | false => exact hlt
                  | true =>
                      rw [if_pos rfl, Int.natAbs_neg]
                      exact hlt

theorem scalar_writable {s r : List Char} {x : Scalar} (h : scalar s = .ok (x, r)) :
    (Document.scalar x).IsWritable := by
  have hx : x.isTooLong = false ∧ ∀ b, x ≠ .recurrence b := by
    unfold scalar at h
    split at h
    · cases h
      exact ⟨rfl, fun b h => by cases h⟩
    · cases h
      exact ⟨rfl, fun b h => by cases h⟩
    · cases h
      exact ⟨rfl, fun b h => by cases h⟩
    · cases h
      exact ⟨rfl, fun b h => by cases h⟩
    · cases h
      exact ⟨rfl, fun b h => by cases h⟩
    · cases h
      exact ⟨rfl, fun b h => by cases h⟩
    · exact magnitude_writable h
    · exact magnitude_writable h
  exact Document.isWritable_scalar hx.1 hx.2

/-- A reader yields only what can be written at every place. -/
def YieldsWritable (read : List Char → Except Stop (Document × List Char)) : Prop :=
  ∀ s d r, read s = .ok (d, r) → d.IsWritable

theorem text_writable (cs : List Char) : (Document.text (String.ofList cs)).IsWritable :=
  Document.isWritable_scalar rfl fun b h => by cases h

section Step

variable {k : Nat} (hvalue : YieldsWritable (value k))
  (hmembers : ∀ before : List (Scalar × Document),
    (∀ e ∈ before, e.1.isTooLong = false ∧ e.2.IsWritable) → YieldsWritable (members k before))
  (hitems : ∀ before : List Document, (∀ d ∈ before, d.IsWritable) →
    YieldsWritable (items k before))

include hmembers hitems in
theorem value_writable : YieldsWritable (value (k + 1)) := by
  intro s d r h
  have hstep := value_step k s
  rw [h] at hstep
  generalize hx : (Except.ok (d, r) : Except Stop (Document × List Char)) = x at hstep
  cases hstep with
  | string hr =>
      cases hx
      exact text_writable _
  | badString hr => cases hx
  | emptyObject hr =>
      cases hx
      exact Document.isWritable_mapping (by simp)
  | object hr => exact hmembers [] (by simp) _ _ _ hx.symm
  | emptyArray hr =>
      cases hx
      exact Document.isWritable_list (by simp)
  | array hr => exact hitems [] (by simp) _ _ _ hx.symm
  | scalar hmarks hs =>
      cases hx
      exact scalar_writable hs
  | badScalar hmarks hs => cases hx

include hvalue hmembers in
theorem members_writable {before : List (Scalar × Document)}
    (hbefore : ∀ e ∈ before, e.1.isTooLong = false ∧ e.2.IsWritable) :
    YieldsWritable (members (k + 1) before) := by
  intro s d r h
  have hput : ∀ (cs : List Char) (d : Document), d.IsWritable →
      ∀ e ∈ Entries.put (.text (String.ofList cs)) d before,
        e.1.isTooLong = false ∧ e.2.IsWritable := fun cs d hd =>
    Entries.forall_put (p := fun k : Scalar => k.isTooLong = false) hbefore rfl hd
  have hstep := members_step k before s
  rw [h] at hstep
  generalize hx : (Except.ok (d, r) : Except Stop (Document × List Char)) = x at hstep
  cases hstep with
  | unnamed hs => cases hx
  | badName hr => cases hx
  | noColon hr hcolon => cases hx
  | failed hr hcolon hv => cases hx
  | closed hr hcolon hv hend =>
      cases hx
      exact Document.isWritable_mapping (hput _ _ (hvalue _ _ _ hv))
  | next hr hcolon hv hend => exact hmembers _ (hput _ _ (hvalue _ _ _ hv)) _ _ _ hx.symm
  | noComma hr hcolon hv hend => cases hx

include hvalue hitems in
theorem items_writable {before : List Document} (hbefore : ∀ d ∈ before, d.IsWritable) :
    YieldsWritable (items (k + 1) before) := by
  intro s d r h
  have hstep := items_step k before s
  rw [h] at hstep
  generalize hx : (Except.ok (d, r) : Except Stop (Document × List Char)) = x at hstep
  cases hstep with
  | failed hv => cases hx
  | closed hv hend =>
      cases hx
      refine Document.isWritable_list fun d' hd' => ?_
      rw [List.mem_reverse] at hd'
      exact List.forall_mem_cons.2 ⟨hvalue _ _ _ hv, hbefore⟩ d' hd'
  | next hv hend =>
      exact hitems _ (List.forall_mem_cons.2 ⟨hvalue _ _ _ hv, hbefore⟩) _ _ _ hx.symm
  | noComma hv hend => cases hx

end Step

/-- What is read of a JSON text can be written at every place. -/
theorem reads_writable (k : Nat) :
    YieldsWritable (value k) ∧
      (∀ before : List (Scalar × Document),
        (∀ e ∈ before, e.1.isTooLong = false ∧ e.2.IsWritable) →
          YieldsWritable (members k before)) ∧
      ∀ before : List Document, (∀ d ∈ before, d.IsWritable) →
        YieldsWritable (items k before) := by
  induction k with
  | zero =>
      refine ⟨fun s d r h => ?_, fun before _ s d r h => ?_, fun before _ s d r h => ?_⟩
      · rw [value] at h
        cases h
      · rw [members] at h
        cases h
      · rw [items] at h
        cases h
  | succ k ih =>
      obtain ⟨hvalue, hmembers, hitems⟩ := ih
      exact ⟨value_writable hmembers hitems,
        fun before hbefore => members_writable hvalue hmembers hbefore,
        fun before hbefore => items_writable hvalue hitems hbefore⟩

theorem readChars_writable {s : List Char} {d : Document} (h : readChars s = .ok d) :
    d.IsWritable := by
  unfold readChars at h
  split at h
  · cases h
  · cases hv : value (2 * s.length + 2) (skipSpace s) with
    | error e =>
        rw [hv] at h
        cases h
    | ok x =>
        rw [hv] at h
        simp only [bind, Except.bind] at h
        split at h
        · cases h
          exact (reads_writable _).1 _ _ _ hv
        · cases h

end Json

end MigrationConfig
