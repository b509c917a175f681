/-
# Outcomes of reading YAML

A step of reading yields something, makes the text malformed, or fails for a value that
cannot be converted.  What is yielded, and for which values it fails, is said of a step once
(`Yields`); of steps that change a state, it is said with an invariant (`Keeps`).  Both go
through whatever steps are made of, so that the theorems on readers follow their text.
-/
import MigrationConfig.Yaml.Fault

namespace MigrationConfig.Yaml

variable {α β σ : Type} {E : ValueFault → Prop}

/-! ## Without a state -/

/-- A step yields only what has a property, and fails only for values that have one. -/
structure Yields (E : ValueFault → Prop) (p : α → Prop) (r : Except Fault α) : Prop where
  yields : ∀ a, r = .ok a → p a
  fails : ∀ f, r = .error (.value f) → E f

namespace Yields

variable {p : α → Prop} {q : β → Prop} {r : Except Fault α}

theorem ok {a : α} (h : p a) : Yields E p (.ok a) where
  yields a' ha := by
    cases ha
    exact h
  fails f hf := by cases hf

theorem pure {a : α} (h : p a) : Yields E p (Pure.pure a) := ok h

theorem malformed : Yields E p (.error .malformed) where
  yields a ha := by cases ha
  fails f hf := by cases hf

theorem value {f : ValueFault} (h : E f) : Yields E p (.error (.value f)) where
  yields a ha := by cases ha
  fails f' hf := by
    cases hf
    exact h

theorem bind {k : α → Except Fault β} (h : Yields E p r) (hk : ∀ a, p a → Yields E q (k a)) :
    Yields E q (r >>= k) := by
  cases r with
  | ok a => exact hk a (h.yields a rfl)
  | error e =>
      cases e with
      | malformed => exact malformed
      | value f => exact value (h.fails f rfl)

theorem map {g : α → β} (h : Yields E p r) (hg : ∀ a, p a → q (g a)) : Yields E q (r.map g) := by
  cases r with
  | ok a => exact ok (hg a (h.yields a rfl))
  | error e =>
      cases e with
      | malformed => exact malformed
      | value f => exact value (h.fails f rfl)

theorem ite {b : Prop} [Decidable b] {r' : Except Fault α} (h : b → Yields E p r)
    (h' : ¬ b → Yields E p r') : Yields E p (if b then r else r') := by
  split
  · next hb => exact h hb
  · next hb => exact h' hb

/-- A check that makes the text malformed if it is not passed. -/
theorem guard {b : Prop} [Decidable b] {k : PUnit → Except Fault α}
    (h : ¬ b → Yields E p (k ⟨⟩)) : Yields E p (if b then (throw .malformed >>= k) else k ⟨⟩) :=
  ite (fun _ => malformed) h

end Yields

/-! ## With a state -/

/-- A step keeps an invariant of its state, and fails only for values with a property. -/
def Keeps (I : σ → Prop) (E : ValueFault → Prop) (m : StateT σ (Except Fault) α) : Prop :=
  ∀ s, I s → Yields E (fun x : α × σ => I x.2) (m.run s)

namespace Keeps

variable {I : σ → Prop} {m m' : StateT σ (Except Fault) α} {k : α → StateT σ (Except Fault) β}

theorem pure (a : α) : Keeps I E (Pure.pure a : StateT σ (Except Fault) α) := fun _ hs => .ok hs

theorem malformed : Keeps I E (throw .malformed : StateT σ (Except Fault) α) :=
  fun _ _ => .malformed

theorem value {f : ValueFault} (h : E f) :
    Keeps I E (throw (.value f) : StateT σ (Except Fault) α) := fun _ _ => .value h

theorem bind (h : Keeps I E m) (hk : ∀ a, Keeps I E (k a)) : Keeps I E (m >>= k) :=
  fun s hs => (h s hs).bind fun x hx => hk x.1 x.2 hx

theorem ite {b : Prop} [Decidable b] (h : Keeps I E m) (h' : Keeps I E m') :
    Keeps I E (if b then m else m') := by
  split
  · exact h
  · exact h'

/-- A check that makes the text malformed if it is not passed. -/
theorem guard {b : Prop} [Decidable b] {k : PUnit → StateT σ (Except Fault) α}
    (h : Keeps I E (k ⟨⟩)) : Keeps I E (if b then (throw .malformed >>= k) else k ⟨⟩) :=
  ite (malformed.bind fun _ => h) h

/-- What follows a look at the state may rely on the invariant. -/
theorem get {k : σ → StateT σ (Except Fault) α} (h : ∀ s, I s → Keeps I E (k s)) :
    Keeps I E (MonadState.get >>= k) := fun s hs => h s hs s hs

theorem set {s : σ} (hs : I s) : Keeps I E (MonadStateOf.set s : StateT σ (Except Fault) PUnit) :=
  fun _ _ => .ok hs

theorem update {g : σ → σ} (hg : ∀ s, I s → I (g s)) :
    Keeps I E (modify g : StateT σ (Except Fault) PUnit) := fun s hs => .ok (hg s hs)

/-- A step without a state, with what it is known to yield. -/
theorem lift {p : α → Prop} {r : Except Fault α} (h : Yields E p r)
    (hk : ∀ a, p a → Keeps I E (k a)) :
    Keeps I E ((liftM r : StateT σ (Except Fault) α) >>= k) := by
  intro s hs
  have hlift : Yields E (fun x : α × σ => p x.1 ∧ I x.2)
      ((liftM r : StateT σ (Except Fault) α).run s) := h.bind fun a ha => .ok ⟨ha, hs⟩
  exact hlift.bind fun x hx => hk x.1 hx.1 x.2 hx.2

theorem mapM {g : α → StateT σ (Except Fault) β} {l : List α} (h : ∀ a ∈ l, Keeps I E (g a)) :
    Keeps I E (l.mapM g) := by
  induction l with
  | nil => exact pure []
  | cons a l ih =>
      rw [List.mapM_cons]
      obtain ⟨ha, hl⟩ := List.forall_mem_cons.1 h
      exact ha.bind fun _ => (ih hl).bind fun _ => pure _

end Keeps

end MigrationConfig.Yaml
