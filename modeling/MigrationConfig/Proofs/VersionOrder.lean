/-
# The order of versions

Versions are meant to compare as numbers with dots do: part by part, with a missing part
counting as zero (`padded`), the empty schema below all numbers and the two tokens above
them.  What the comparisons look at is something else, the kind of the version and the list
of its parts as it is, where a list comes before its continuations.

The two orders agree on versions that were read, and only because zeros at the end of a
number were dropped then: `[1]` and `[1, 0]` would count the same when they are filled up,
and do not otherwise.  One implication carries the proof, that a list below another stays
below it when both are filled up; as both orders are linear, the others follow from it.
-/
import Mathlib.Data.List.Lex
import Mathlib.Data.Prod.Lex
import MigrationConfig.Proofs.VersionForm

namespace MigrationConfig.Version

/-! ## The order that is meant -/

/-- A list of parts, filled up with zeros to a length. -/
def padded (n : Nat) (ps : List Nat) : List Nat := ps ++ List.replicate (n - ps.length) 0

/-- One version is lower than another.  Numbers compare part by part. -/
inductive Lower : Version → Version → Prop
  | empty {b : Version} (hb : b ≠ .empty) : Lower .empty b
  | number {s t : String} {ps qs : List Nat}
      (h : padded (max ps.length qs.length) ps < padded (max ps.length qs.length) qs) :
      Lower (numeric s ps) (numeric t qs)
  | current {s : String} {ps : List Nat} : Lower (numeric s ps) .current
  | latest {a : Version} (ha : a ≠ .latest) : Lower a .latest

/-- Two versions count the same. -/
inductive Equal : Version → Version → Prop
  | empty : Equal .empty .empty
  | number {s t : String} {ps qs : List Nat}
      (h : padded (max ps.length qs.length) ps = padded (max ps.length qs.length) qs) :
      Equal (numeric s ps) (numeric t qs)
  | current : Equal .current .current
  | latest : Equal .latest .latest

/-- A version that was read from a text, or stands for no text at all. -/
def IsRead (v : Version) : Prop := ∃ s, parse s = .ok v

/-! ## Parts -/

section Parts

variable {n : Nat} {ps qs : List Nat}

theorem padded_cons (n p : Nat) (ps : List Nat) :
    padded (n + 1) (p :: ps) = p :: padded n ps := by
  rw [padded, padded, List.length_cons, Nat.add_sub_add_right, List.cons_append]

/-- Nothing but zeros comes before a list of the same length that does not end in one. -/
theorem padded_nil_lt (hlen : qs.length ≤ n) (hne : qs ≠ []) (hlast : qs.getLast? ≠ some 0) :
    padded n [] < padded n qs := by
  induction qs generalizing n with
  | nil => exact absurd rfl hne
  | cons q qs ih =>
      obtain ⟨m, rfl⟩ := Nat.exists_eq_succ_of_ne_zero (Nat.ne_zero_of_lt hlen)
      have hzeros : padded (m + 1) [] = 0 :: padded m [] := rfl
      rw [Nat.succ_eq_add_one, hzeros, padded_cons, List.cons_lt_cons_iff]
      rcases Nat.eq_zero_or_pos q with rfl | hq
      · have hne : qs ≠ [] := by
          rintro rfl
          exact hlast rfl
        rw [List.getLast?_cons_of_ne_nil hne] at hlast
        exact .inr ⟨rfl, ih (by simpa using hlen) hne hlast⟩
      · exact .inl hq

theorem padded_lt_of_last (hp : ps.length ≤ n) (hq : qs.length ≤ n)
    (hlast : qs.getLast? ≠ some 0) (h : ps < qs) : padded n ps < padded n qs := by
  induction ps generalizing qs n with
  | nil =>
      refine padded_nil_lt hq ?_ hlast
      rintro rfl
      exact absurd h (lt_irrefl _)
  | cons p ps ih =>
      cases qs with
      | nil => exact absurd h (List.not_lt_nil _)
      | cons q qs =>
          obtain ⟨m, rfl⟩ := Nat.exists_eq_succ_of_ne_zero (Nat.ne_zero_of_lt hp)
          rw [Nat.succ_eq_add_one, padded_cons, padded_cons, List.cons_lt_cons_iff]
          refine (List.cons_lt_cons_iff.1 h).imp_right fun ⟨hpq, hlt⟩ => ⟨hpq, ?_⟩
          have hne : qs ≠ [] := by
            rintro rfl
            exact absurd hlt (List.not_lt_nil _)
          rw [List.getLast?_cons_of_ne_nil hne] at hlast
          exact ih (by simpa using hp) (by simpa using hq) hlast hlt

/-- There is a part, and a zero at the end is the only one. -/
structure Canonical (ps : List Nat) : Prop where
  nonempty : ps ≠ []
  last : ps.getLast? = some 0 → ps = [0]

/-- A list below another stays below it when both are filled up. -/
theorem padded_lt (hp : ps.length ≤ n) (hq : qs.length ≤ n) (hne : ps ≠ []) (hcq : Canonical qs)
    (h : ps < qs) : padded n ps < padded n qs := by
  by_cases hlast : qs.getLast? = some 0
  · -- a zero alone has nothing below it but the list without parts
    rw [hcq.last hlast] at h
    cases ps with
    | nil => exact absurd rfl hne
    | cons p ps =>
        rcases List.cons_lt_cons_iff.1 h with hlt | ⟨-, hlt⟩
        · exact absurd hlt (Nat.not_lt_zero p)
        · exact absurd hlt (List.not_lt_nil _)
  · exact padded_lt_of_last hp hq hlast h

theorem padded_lt_iff (hp : Canonical ps) (hq : Canonical qs) :
    padded (max ps.length qs.length) ps < padded (max ps.length qs.length) qs ↔ ps < qs := by
  have hlt := padded_lt (Nat.le_max_left ps.length qs.length) (Nat.le_max_right ..) hp.nonempty hq
  have hgt := padded_lt (Nat.le_max_right ps.length qs.length) (Nat.le_max_left ..) hq.nonempty hp
  refine ⟨fun h => ?_, hlt⟩
  rcases lt_trichotomy ps qs with hlt' | rfl | hgt'
  · exact hlt'
  · exact absurd h (lt_irrefl _)
  · exact absurd (hgt hgt') h.asymm

theorem padded_eq_iff (hp : Canonical ps) (hq : Canonical qs) :
    padded (max ps.length qs.length) ps = padded (max ps.length qs.length) qs ↔ ps = qs := by
  have hlt := padded_lt (Nat.le_max_left ps.length qs.length) (Nat.le_max_right ..) hp.nonempty hq
  have hgt := padded_lt (Nat.le_max_right ps.length qs.length) (Nat.le_max_left ..) hq.nonempty hp
  refine ⟨fun h => ?_, fun h => by rw [h]⟩
  rcases lt_trichotomy ps qs with hlt' | heq | hgt'
  · exact absurd h (hlt hlt').ne
  · exact heq
  · exact absurd h (hgt hgt').ne'

end Parts

theorem readParts_ne_nil {ds : List (List Char)} {ns : List Nat} (h : readParts ds = .ok ns)
    (hds : ds ≠ []) : ns ≠ [] := by
  cases ds with
  | nil => exact absurd rfl hds
  | cons d rest =>
      rw [readParts] at h
      split at h
      · cases h
      · split at h
        · cases h
          simp
        · cases h

/-- Zeros at the end of a number are dropped when it is read. -/
theorem IsRead.canonical {t : String} {ps : List Nat} (h : IsRead (numeric t ps)) :
    Canonical ps := by
  obtain ⟨s, hs⟩ := h
  cases s with
  | none => cases hs
  | some raw =>
      unfold parse at hs
      simp only at hs
      split at hs
      · cases hs
      split at hs
      · cases hs
      split at hs
      · cases hs
      split at hs
      · cases hs
      split at hs
      · next ns hns =>
          cases hs
          rw [Text.splitOn_singleton] at hns
          have hzeros := dropZeros_withoutZeros (readParts_ne_nil hns (List.splitOn_ne_nil '.' _))
          exact ⟨hzeros.nonempty, hzeros.last⟩
      · cases hs

/-! ## The order that is compared by -/

/-- The place of a version among all versions: its kind, and then its parts. -/
def place (v : Version) : Nat ×ₗ List Nat := toLex v.key

variable {a b c : Version}

theorem partsBefore_iff {ps qs : List Nat} : partsBefore ps qs = true ↔ ps < qs := by
  induction ps generalizing qs with
  | nil =>
      cases qs with
      | nil => exact iff_of_false Bool.false_ne_true (lt_irrefl _)
      | cons q qs => exact iff_of_true rfl (List.nil_lt_cons q qs)
  | cons p ps ih =>
      cases qs with
      | nil => exact iff_of_false Bool.false_ne_true (List.not_lt_nil _)
      | cons q qs =>
          rw [partsBefore, List.cons_lt_cons_iff]
          by_cases hpq : p = q
          · rw [if_pos (by simpa using hpq), ih]
            simp [hpq]
          · rw [if_neg (by simpa using hpq)]
            simp [hpq]

theorem before_iff : a.before b = true ↔ a.place < b.place := by
  rw [before, place, place, Prod.Lex.toLex_lt_toLex]
  by_cases hrank : a.rank = b.rank
  · rw [if_pos (by simpa using hrank), partsBefore_iff]
    simp [key, hrank]
  · rw [if_neg (by simpa using hrank)]
    simp [key, hrank]

theorem same_iff : a.same b = true ↔ a.place = b.place := by
  rw [same, beq_iff_eq]
  rfl

theorem notAfter_iff : a.notAfter b = true ↔ a.place ≤ b.place := by
  rw [notAfter, Bool.or_eq_true, before_iff, same_iff, le_iff_lt_or_eq]

theorem differs_iff : a.differs b = true ↔ a.place ≠ b.place := by
  rw [differs, Bool.not_eq_true', Bool.eq_false_iff, ne_eq, same_iff]

theorem notBefore_iff : a.notBefore b = true ↔ b.place ≤ a.place := by
  rw [notBefore, Bool.not_eq_true', Bool.eq_false_iff, ne_eq, before_iff, not_lt]

theorem after_iff : a.after b = true ↔ b.place < a.place := by
  rw [after, Bool.and_eq_true, Bool.not_eq_true', Bool.eq_false_iff, ne_eq, before_iff,
    differs_iff, not_lt]
  exact ⟨fun h => lt_of_le_of_ne h.1 h.2.symm, fun h => ⟨h.le, h.ne'⟩⟩

theorem place_lt_iff :
    a.place < b.place ↔ a.rank < b.rank ∨ a.rank = b.rank ∧ a.parts < b.parts :=
  Prod.Lex.toLex_lt_toLex

theorem place_eq_iff : a.place = b.place ↔ a.rank = b.rank ∧ a.parts = b.parts := by
  rw [place, place, toLex_inj, key, key, Prod.mk.injEq]

/-- Versions of different kinds are in the order of their kinds. -/
theorem lower_of_rank (h : a.rank < b.rank) : Lower a b := by
  cases a with
  | empty =>
      refine .empty ?_
      rintro rfl
      exact absurd h (lt_irrefl _)
  | numeric s ps =>
      cases b with
      | current => exact .current
      | latest => exact .latest nofun
      | empty | numeric _ _ => simp [rank] at h
  | current =>
      cases b with
      | latest => exact .latest nofun
      | empty | numeric _ _ | current => simp [rank] at h
  | latest => cases b <;> simp [rank] at h

theorem lower_iff (ha : IsRead a) (hb : IsRead b) : Lower a b ↔ a.place < b.place := by
  rw [place_lt_iff]
  constructor
  · intro h
    cases h with
    | number h => exact .inr ⟨rfl, (padded_lt_iff ha.canonical hb.canonical).1 h⟩
    | current => exact .inl (by simp [rank])
    | empty hne =>
        cases b with
        | empty => exact absurd rfl hne
        | numeric _ _ | current | latest => exact .inl (by simp [rank])
    | latest hne =>
        cases a with
        | latest => exact absurd rfl hne
        | empty | numeric _ _ | current => exact .inl (by simp [rank])
  · rintro (hrank | ⟨hrank, hparts⟩)
    · exact lower_of_rank hrank
    · cases a with
      | numeric s ps =>
          cases b with
          | numeric t qs => exact .number ((padded_lt_iff ha.canonical hb.canonical).2 hparts)
          | empty | current | latest => cases hrank
      | empty | current | latest =>
          cases b with
          | numeric t qs => cases hrank
          | empty | current | latest => exact absurd hparts (lt_irrefl _)

theorem equal_iff (ha : IsRead a) (hb : IsRead b) : Equal a b ↔ a.place = b.place := by
  rw [place_eq_iff]
  constructor
  · intro h
    cases h with
    | number h => exact ⟨rfl, (padded_eq_iff ha.canonical hb.canonical).1 h⟩
    | empty | current | latest => exact ⟨rfl, rfl⟩
  · rintro ⟨hrank, hparts⟩
    cases a with
    | numeric s ps =>
        cases b with
        | numeric t qs => exact .number ((padded_eq_iff ha.canonical hb.canonical).2 hparts)
        | empty | current | latest => cases hrank
    | empty =>
        cases b with
        | empty => exact .empty
        | numeric _ _ | current | latest => cases hrank
    | current =>
        cases b with
        | current => exact .current
        | empty | numeric _ _ | latest => cases hrank
    | latest =>
        cases b with
        | latest => exact .latest
        | empty | numeric _ _ | current => cases hrank

/-! ## Sorting -/

theorem notAfter_trans (a b c : Version) (hab : a.notAfter b = true) (hbc : b.notAfter c = true) :
    a.notAfter c = true := by
  rw [notAfter_iff] at hab hbc ⊢
  exact hab.trans hbc

theorem notAfter_total (a b : Version) : (a.notAfter b || b.notAfter a) = true := by
  rw [Bool.or_eq_true, notAfter_iff, notAfter_iff]
  exact le_total _ _

/-- Versions that are the same keep their order. -/
theorem filter_sort (v : Version) (vs : List Version) :
    (sort vs).filter (fun w => v.same w) = vs.filter fun w => v.same w := by
  have hpairs : (vs.filter fun w => v.same w).Pairwise fun a b => a.notAfter b = true := by
    refine List.pairwise_of_forall_mem_list fun a ha b hb => ?_
    have hva := same_iff.1 (List.mem_filter.1 ha).2
    have hvb := same_iff.1 (List.mem_filter.1 hb).2
    exact notAfter_iff.2 (hva.symm.trans hvb).le
  have hsub : (vs.filter fun w => v.same w).Sublist (sort vs) :=
    List.sublist_mergeSort notAfter_trans notAfter_total hpairs List.filter_sublist
  have hkept := hsub.filter fun w => v.same w
  rw [List.filter_filter, List.filter_congr (q := fun w => v.same w) (by simp)] at hkept
  refine (hkept.eq_of_length ?_).symm
  exact ((List.mergeSort_perm vs notAfter).filter _).length_eq.symm

/-- Versions that were read compare as numbers with dots do.  Of three ways in which two of
them can stand to each other there is one, all six comparisons go by it, and so does what
they are looked up by; it is passed on from the first two of three versions and the last two
to the first and the last.  Versions are sorted by it, and those that count the same stay
in their order. -/
theorem comparisons_of_read :
    (∀ a b, IsRead a → IsRead b →
      (a.before b = true ↔ Lower a b) ∧ (a.notAfter b = true ↔ Lower a b ∨ Equal a b) ∧
      (a.same b = true ↔ Equal a b) ∧ (a.differs b = true ↔ Lower a b ∨ Lower b a) ∧
      (a.notBefore b = true ↔ Lower b a ∨ Equal a b) ∧ (a.after b = true ↔ Lower b a) ∧
      (Equal a b → a.key = b.key) ∧
      (Lower a b ∧ ¬ Equal a b ∧ ¬ Lower b a ∨ ¬ Lower a b ∧ Equal a b ∧ ¬ Lower b a ∨
        ¬ Lower a b ∧ ¬ Equal a b ∧ Lower b a)) ∧
    (∀ a b c, IsRead a → IsRead b → IsRead c →
      (Lower a b → Lower b c → Lower a c) ∧ (Lower a b → Equal b c → Lower a c) ∧
      (Equal a b → Lower b c → Lower a c) ∧ (Equal a b → Equal b c → Equal a c)) ∧
    ∀ vs, (∀ v ∈ vs, IsRead v) →
      (sort vs).Perm vs ∧ (sort vs).Pairwise (fun a b => ¬ Lower b a) ∧
      ∀ v : Version, (sort vs).filter (fun w => v.same w) = vs.filter fun w => v.same w := by
  refine ⟨fun a b ha hb => ?_, fun a b c ha hb hc => ?_, fun vs hvs => ⟨?_, ?_, ?_⟩⟩
  · rw [before_iff, notAfter_iff, same_iff, differs_iff, notBefore_iff, after_iff,
      lower_iff ha hb, lower_iff hb ha, equal_iff ha hb]
    refine ⟨Iff.rfl, le_iff_lt_or_eq, Iff.rfl, ne_iff_lt_or_gt, ?_, Iff.rfl, toLex_inj.1, ?_⟩
    · rw [le_iff_lt_or_eq, eq_comm]
    · rcases lt_trichotomy a.place b.place with h | h | h
      · exact .inl ⟨h, h.ne, h.asymm⟩
      · exact .inr (.inl ⟨h.not_lt, h, h.symm.not_lt⟩)
      · exact .inr (.inr ⟨h.asymm, h.ne', h⟩)
  · rw [lower_iff ha hb, lower_iff hb hc, lower_iff ha hc, equal_iff ha hb, equal_iff hb hc,
      equal_iff ha hc]
    exact ⟨lt_trans, lt_of_lt_of_eq, lt_of_eq_of_lt, Eq.trans⟩
  · exact List.mergeSort_perm vs notAfter
  · have hsorted : (sort vs).Pairwise fun a b => a.notAfter b = true :=
      List.pairwise_mergeSort notAfter_trans notAfter_total vs
    refine hsorted.imp_of_mem fun {a b} ha hb hab hlower => ?_
    have hmem : ∀ v ∈ sort vs, IsRead v := by
      intro v hv
      exact hvs v ((List.mergeSort_perm vs notAfter).mem_iff.1 hv)
    rw [lower_iff (hmem b hb) (hmem a ha)] at hlower
    exact absurd (notAfter_iff.1 hab) hlower.not_ge
  · exact fun v => filter_sort v vs

/-- Ten comes after two, and zeros at the end make no difference. -/
theorem comparisons_of_read_ten :
    IsRead (numeric "1.2" [1, 2]) ∧ IsRead (numeric "1.10" [1, 10]) ∧
    IsRead (numeric "1.0.0" [1]) ∧ IsRead (numeric "1" [1]) ∧
    (numeric "1.2" [1, 2]).before (numeric "1.10" [1, 10]) = true ∧
    (numeric "1.0.0" [1]).same (numeric "1" [1]) = true ∧
    Lower (numeric "1" [1]) (numeric "1.10" [1, 10]) ∧
    (sort [numeric "1.10" [1, 10], numeric "1.0.0" [1], numeric "1" [1]]).filter
      (fun w => (numeric "1" [1]).same w) = [numeric "1.0.0" [1], numeric "1" [1]] := by
  have htwo : IsRead (numeric "1.2" [1, 2]) := ⟨some "1.2", rfl⟩
  have hten : IsRead (numeric "1.10" [1, 10]) := ⟨some "1.10", rfl⟩
  have hzeros : IsRead (numeric "1.0.0" [1]) := ⟨some "1_0_0", rfl⟩
  have hone : IsRead (numeric "1" [1]) := ⟨some "1", rfl⟩
  obtain ⟨hpairs, htriples, hsorted⟩ := comparisons_of_read
  have hlower : Lower (numeric "1.2" [1, 2]) (numeric "1.10" [1, 10]) := .number (by decide)
  have hequal : Equal (numeric "1.0.0" [1]) (numeric "1" [1]) := .number (by decide)
  have hbelow : Lower (numeric "1" [1]) (numeric "1.2" [1, 2]) := .number (by decide)
  refine ⟨htwo, hten, hzeros, hone, (hpairs _ _ htwo hten).1.2 hlower,
    (hpairs _ _ hzeros hone).2.2.1.2 hequal, (htriples _ _ _ hone htwo hten).1 hbelow hlower, ?_⟩
  have hread : ∀ v ∈ [numeric "1.10" [1, 10], numeric "1.0.0" [1], numeric "1" [1]], IsRead v := by
    simp [hten, hzeros, hone]
  exact (hsorted _ hread).2.2 (numeric "1" [1])

end MigrationConfig.Version
