/-
# Why YAML values fail

The values of a graph are found level by level, and merge keys are taken out on the way, so
the graph changes under the search.  What changes is little: a mapping has other entries
then, and a default key has become a text (`Graph.Kept`).  Scalars keep their texts, and a
tag that can fail to fit a text stays.

Hence the search fails for a value only if a node of the graph as it was parsed cannot be
converted (`Graph.Unconverted`), or if texts lead to each other without end.
-/
import MigrationConfig.Proofs.Lexed
import MigrationConfig.Yaml.Reader

namespace MigrationConfig.Yaml

/-! ## What merging leaves of a graph -/

namespace Graph

variable {g₀ g : Graph} {id j : NodeId}

theorem node_modify (f : Node → Node) :
    node ⟨g.nodes.modify id f⟩ j = if id = j ∧ j < g.size then f (g.node j) else g.node j := by
  unfold node size
  rw [Array.getD_eq_getD_getElem?, Array.getD_eq_getD_getElem?, Array.getElem?_modify]
  by_cases hid : id = j
  · by_cases hj : j < g.nodes.size
    · rw [if_pos hid, if_pos ⟨hid, hj⟩, Array.getElem?_eq_getElem hj]
      rfl
    · rw [if_pos hid, if_neg fun h => hj h.2, Array.getElem?_eq_none (Nat.le_of_not_lt hj)]
      rfl
  · rw [if_neg hid, if_neg fun h => hid h.1]

theorem tag_withContent (c : Content) : (g.withContent id c).tag j = g.tag j := by
  unfold tag withContent
  rw [node_modify]
  split <;> rfl

theorem content_withContent (c : Content) : (g.withContent id c).content j =
    if id = j ∧ j < g.size then c else g.content j := by
  unfold content withContent
  rw [node_modify]
  split <;> rfl

theorem tag_withTag (t : Tag) : (g.withTag id t).tag j =
    if id = j ∧ j < g.size then t else g.tag j := by
  unfold tag withTag
  rw [node_modify]
  split <;> rfl

theorem content_withTag (t : Tag) : (g.withTag id t).content j = g.content j := by
  unfold content withTag
  rw [node_modify]
  split <;> rfl

/-- A node is a mapping. -/
def IsMapping (g : Graph) (id : NodeId) : Prop := ∃ es, g.content id = .mapping es

/-- A graph after merging: tags are the same but for default keys, which are texts now, and
so are the texts of scalars, and what is a mapping. -/
structure Kept (g₀ g : Graph) : Prop where
  tag : ∀ id, g.tag id = g₀.tag id ∨ g₀.tag id = .default ∧ g.tag id = .text
  scalar : ∀ id s, g.content id = .scalar s → g₀.content id = .scalar s
  mapping : ∀ id, g.IsMapping id → g₀.IsMapping id

namespace Kept

theorem refl (g : Graph) : Kept g g := ⟨fun _ => .inl rfl, fun _ _ h => h, fun _ h => h⟩

theorem withTag (h : Kept g₀ g) (hdefault : g.tag id = .default) :
    Kept g₀ (g.withTag id .text) where
  tag j := by
    rw [tag_withTag]
    split
    · next hid =>
        rw [hid.1] at hdefault
        rcases h.tag j with hj | ⟨-, hj⟩
        · exact .inr ⟨hj ▸ hdefault, rfl⟩
        · exact absurd (hdefault.symm.trans hj) (by decide)
    · exact h.tag j
  scalar j s hs := by
    rw [content_withTag] at hs
    exact h.scalar j s hs
  mapping j hj := by
    rw [IsMapping, content_withTag] at hj
    exact h.mapping j hj

theorem withContent (h : Kept g₀ g) (hmapping : g₀.IsMapping id) (es : List Entry) :
    Kept g₀ (g.withContent id (.mapping es)) where
  tag j := by
    rw [tag_withContent]
    exact h.tag j
  scalar j s hs := by
    rw [content_withContent] at hs
    split at hs
    · cases hs
    · exact h.scalar j s hs
  mapping j hj := by
    rw [IsMapping, content_withContent] at hj
    split at hj
    · next hid => exact hid.1 ▸ hmapping
    · exact h.mapping j hj

theorem withPlainKeys (h : Kept g₀ g) (es : List Entry) : Kept g₀ (Merge.withPlainKeys g es) := by
  unfold Merge.withPlainKeys
  induction es generalizing g with
  | nil => exact h
  | cons e es ih =>
      rw [List.foldl_cons]
      refine ih ?_
      split
      · next hdefault => exact h.withTag (eq_of_beq hdefault)
      · exact h

end Kept

end Graph

namespace Merge

variable {g₀ : Graph} {id : NodeId}

/-- A step of merging, which never fails for a value. -/
abbrev Merges (g₀ : Graph) {α : Type} (m : Step α) : Prop := Keeps g₀.Kept (fun _ => False) m

theorem entriesOf_merges {merge : NodeId → Step Unit}
    (hmerge : ∀ id, g₀.IsMapping id → Merges g₀ (merge id)) (id : NodeId) :
    Merges g₀ (entriesOf merge id) := by
  refine .get fun g hg => ?_
  split
  · next es hes =>
      exact (hmerge id (hg.mapping id ⟨es, hes⟩)).bind fun _ => .get fun _ _ => .pure _
  · exact .malformed

theorem entriesUnder_merges {merge : NodeId → Step Unit}
    (hmerge : ∀ id, g₀.IsMapping id → Merges g₀ (merge id)) (id : NodeId) :
    Merges g₀ (entriesUnder merge id) := by
  refine .get fun g hg => ?_
  split
  · exact (Keeps.mapM fun id _ => entriesOf_merges hmerge id).bind fun _ => .pure _
  · exact entriesOf_merges hmerge id

theorem takeOut_merges (k : Nat) (taken : List Entry) (h : g₀.IsMapping id) :
    Merges g₀ (takeOut k taken id) := by
  induction k generalizing taken id with
  | zero => exact .malformed
  | succ k ih =>
      rw [takeOut]
      refine .get fun g hg => ?_
      split
      · refine .bind (.set (hg.withContent h _)) fun _ => ?_
        exact (entriesUnder_merges (fun _ => ih []) _).bind fun _ => ih _ h
      · exact .set ((hg.withContent h _).withPlainKeys _)

end Merge

theorem Graph.Kept.merged {g₀ g : Graph} {id : NodeId} {E : ValueFault → Prop} (h : g₀.Kept g)
    (hmapping : g₀.IsMapping id) : Yields E g₀.Kept (g.merged id) := by
  have hrun := Merge.takeOut_merges (Merge.countEntries g + 1) [] hmapping g h
  refine Yields.bind ⟨hrun.yields, fun f hf => (hrun.fails f hf).elim⟩ fun x hx => .pure hx

/-! ## Nodes that cannot be converted -/

namespace Graph

/-- A node has a text: the one of a scalar, or, for a mapping, the one of some scalar that a
default key leads to. -/
def HasText (g : Graph) (id : NodeId) (text : List Char) : Prop :=
  g.content id = .scalar text ∨ g.IsMapping id ∧ ∃ j, g.content j = .scalar text

/-- A node has a text that its tag does not fit. -/
def Unconverted (g : Graph) (f : ValueFault) : Prop :=
  ∃ id text, g.HasText id text ∧ (g.tag id).scalar text = .error f

/-- Why finding the values of a graph fails: texts lead to each other without end, or a node
cannot be converted. -/
def Misses (g : Graph) (f : ValueFault) : Prop := f = .endless .text ∨ g.Unconverted f

variable {g₀ g : Graph}

theorem HasText.of_kept (h : g₀.Kept g) {id : NodeId} {text : List Char}
    (ht : g.HasText id text) : g₀.HasText id text := by
  rcases ht with hs | ⟨hm, j, hs⟩
  · exact .inl (h.scalar id text hs)
  · exact .inr ⟨h.mapping id hm, j, h.scalar j text hs⟩

theorem text_yields (id : NodeId) :
    Yields (fun f => f = .endless .text) (g.HasText id) (g.text id) := by
  unfold text
  generalize g.size + 1 = k
  induction k generalizing id with
  | zero => exact .value rfl
  | succ k ih =>
      rw [textWithin]
      split
      · next hs => exact .ok (.inl hs)
      · exact .malformed
      · next es hes =>
          split
          · refine ⟨fun text htext => ?_, (ih _).fails⟩
            rcases (ih _).yields text htext with hs | ⟨-, hs⟩
            · exact .inr ⟨⟨es, hes⟩, _, hs⟩
            · exact .inr ⟨⟨es, hes⟩, hs⟩
          · exact .malformed

/-- Where the tag of a node is another one now, it fits every text. -/
theorem Kept.unconverted (h : g₀.Kept g) {id : NodeId} {text : List Char} {f : ValueFault}
    (ht : g₀.HasText id text) (hf : (g.tag id).scalar text = .error f) : g₀.Unconverted f := by
  refine ⟨id, text, ht, ?_⟩
  rcases h.tag id with htag | ⟨-, htag⟩
  · rwa [← htag]
  · rw [htag] at hf
    cases hf

end Graph

/-! ## Conversions come to an end -/

/-- A conversion that fails, if it does, for the value itself. -/
def Ends {α : Type} (r : Except ValueFault α) : Prop := ∀ what, r ≠ .error (.endless what)

namespace Ends

variable {α β : Type} {r : Except ValueFault α}

theorem ok (a : α) : Ends (.ok a) := fun _ h => by cases h

theorem bind {k : α → Except ValueFault β} (h : Ends r) (hk : ∀ a, Ends (k a)) :
    Ends (r >>= k) := by
  cases r with
  | ok a => exact hk a
  | error f =>
      intro what hf
      cases hf
      exact h what rfl

theorem map {g : α → β} (h : Ends r) : Ends (r.map g) := h.bind fun a => ok (g a)

theorem ite {b : Prop} [Decidable b] {r' : Except ValueFault α} (h : Ends r) (h' : Ends r') :
    Ends (if b then r else r') := by
  split
  · exact h
  · exact h'

theorem emptyNumber : Ends (throw .emptyNumber : Except ValueFault α) := fun what h => by cases h

/-- A check that there is a number at all. -/
theorem guard {b : Prop} [Decidable b] {k : PUnit → Except ValueFault α} (h : Ends (k ⟨⟩)) :
    Ends (if b then (throw .emptyNumber >>= k) else k ⟨⟩) :=
  ite (emptyNumber.bind fun _ => h) h

end Ends

namespace Number

variable {α : Type}

theorem inBase_ends (base : Nat) (s : List Char) : Ends (inBase base s) := by
  unfold inBase
  dsimp only
  split
  · exact fun what h => by cases h
  · exact .ite (fun what h => by cases h) (.ok _)

theorem groups_ends {read : List Char → Except ValueFault α} (h : ∀ s, Ends (read s))
    (gs : List (List Char)) : Ends (groups read gs) := by
  induction gs with
  | nil => exact .ok _
  | cons g gs ih => exact (h g).bind fun _ => ih.bind fun _ => .ok _

theorem integer_ends (text : List Char) : Ends (integer text) := by
  unfold integer
  dsimp only
  refine .guard ?_
  split
  · exact .emptyNumber
  · exact .ok _
  · exact (inBase_ends _ _).bind fun _ => .ok _
  · exact (inBase_ends _ _).bind fun _ => .ok _
  · exact (inBase_ends _ _).bind fun _ => .ok _
  · refine .ite ?_ ((inBase_ends _ _).bind fun _ => .ok _)
    exact (groups_ends (inBase_ends 10) _).bind fun _ => .ok _

theorem float_ends (s : List Char) : Ends (float s) := by
  unfold float
  dsimp only
  split
  · exact fun what h => by cases h
  · exact .ok _

theorem floatOfNat_ends (n : Nat) : Ends (floatOfNat n) :=
  .ite (fun what h => by cases h) (.ok _)

theorem sumGroups_ends (sum : Float) (unit : Nat) (ds : List Float) :
    Ends (sumGroups sum unit ds) := by
  induction ds generalizing sum unit with
  | nil => exact .ok _
  | cons d ds ih => exact (floatOfNat_ends unit).bind fun _ => ih _ _

theorem real_ends (text : List Char) : Ends (real text) := by
  unfold real
  refine .guard ?_
  dsimp only
  refine .ite (.ok _) (.ite (.ok _) (.ite ?_ ((float_ends _).bind fun _ => .ok _)))
  refine (groups_ends float_ends _).bind fun _ => ?_
  exact (sumGroups_ends _ _ _).bind fun _ => .ok _

theorem flag_ends (text : List Char) : Ends (flag text) :=
  .ite (.ok _) (.ite (.ok _) fun what h => by cases h)

theorem stamp_ends (f : Plain.StampFields) : Ends (stamp f) := by
  unfold stamp
  dsimp only
  split
  · exact .ok _
  · exact fun what h => by cases h

end Number

theorem Tag.scalar_ends (tag : Tag) (text : List Char) : Ends (tag.scalar text) := by
  cases tag with
  | flag => exact (Number.flag_ends text).map
  | integer => exact (Number.integer_ends text).map
  | real => exact (Number.real_ends text).map
  | timestamp =>
      rw [scalar]
      split
      · exact (Number.stamp_ends _).map
      · exact fun what h => by cases h
  | _ => exact .ok _

namespace Build

variable {g : Graph}

/-- A step of finding values. -/
abbrev Builds (g : Graph) {α : Type} (m : Build α) : Prop :=
  Keeps (fun b : Building => g.Kept b.graph) g.Misses m

theorem value?_builds (id : NodeId) : Builds g (value? id) := .get fun _ _ => .pure _

theorem give_builds (id : NodeId) (v : Value) : Builds g (give id v) := .update fun _ hb => hb

theorem text_builds {b : Building} (hb : g.Kept b.graph) (id : NodeId) :
    Yields g.Misses (g.HasText id) (b.graph.text id) where
  yields text h := .of_kept hb ((Graph.text_yields id).yields text h)
  fails f h := .inl ((Graph.text_yields id).fails f h)

theorem scalar_builds (id : NodeId) : Builds g (scalar id) := by
  refine (value?_builds id).bind fun v => ?_
  split
  · exact .pure _
  · refine .get fun b hb => .lift (text_builds hb id) fun text ht => ?_
    split
    · exact (give_builds _ _).bind fun _ => .pure _
    · exact .malformed
    · next hf => exact .value (.inr (hb.unconverted ht hf))

theorem visit_builds (id : NodeId) : Builds g (visit id) := by
  refine .get fun b hb => .ite ((value?_builds id).bind fun v => ?_) ?_
  · exact .ite (.pure _) ((give_builds _ _).bind fun _ => .pure _)
  · exact (scalar_builds id).bind fun _ => .pure _

theorem key_builds (id : NodeId) : Builds g (key id) := by
  refine .get fun b hb => .guard ((scalar_builds id).bind fun s => ?_)
  split
  · exact .lift (text_builds hb id) fun _ _ => .pure _
  · exact .pure _

theorem entries_builds (es : List Entry) : Builds g (entries es) := by
  induction es with
  | nil => exact .pure _
  | cons e es ih =>
      exact (key_builds _).bind fun _ => (visit_builds _).bind fun _ => ih.bind fun _ => .pure _

theorem mapping_builds {id : NodeId} (h : g.IsMapping id) : Builds g (mapping id) := by
  refine .get fun b hb => .lift (hb.merged h) fun g' hg => ?_
  exact .bind (.set hg) fun _ => (entries_builds _).bind fun _ => .pure _

theorem pair_builds (id : NodeId) : Builds g (pair id) := by
  refine .get fun b hb => ?_
  split
  · exact (visit_builds _).bind fun _ => (visit_builds _).bind fun _ => .pure _
  · exact .malformed

theorem collection_builds (id : NodeId) : Builds g (collection id) := by
  refine .get fun b hb => ?_
  dsimp only
  split
  · refine (give_builds _ _).bind fun _ => ?_
    exact (Keeps.mapM fun id _ => visit_builds id).bind fun _ => .pure _
  · refine (Keeps.mapM fun id _ => pair_builds id).bind fun found => ?_
    exact (give_builds _ _).bind fun _ => .pure _
  · next hes =>
      refine (mapping_builds (hb.mapping id ⟨_, hes⟩)).bind fun _ => ?_
      exact (give_builds _ _).bind fun _ => .pure _
  · next hes =>
      refine (mapping_builds (hb.mapping id ⟨_, hes⟩)).bind fun _ => ?_
      exact (give_builds _ _).bind fun _ => .pure _
  · exact .malformed

theorem levels_builds (k : Nat) (level : List NodeId) : Builds g (levels k level) := by
  induction k generalizing level with
  | zero => exact .pure _
  | succ k ih =>
      exact .ite ((Keeps.mapM fun id _ => collection_builds id).bind fun _ => ih _) (.pure _)

end Build

/-- The values of a graph cannot be found for a value that is no scalar as its tag says, or
for texts that lead to each other without end. -/
theorem Graph.values_fault {g : Graph} {root : NodeId} {f : ValueFault}
    (h : g.values root = .error (.value f)) : g.Misses f := by
  have hall : Build.Builds g (do Build.levels (g.size + 1) (← Build.visit root)) :=
    (Build.visit_builds root).bind fun _ => Build.levels_builds _ _
  have hvalues : Yields g.Misses (fun _ => True) (g.values root) :=
    (hall ⟨g, Array.replicate g.size none⟩ (.refl g)).bind fun _ _ => .pure trivial
  exact hvalues.fails f h

/-! ## Texts -/

/-- A text holds what cannot be converted: a number that is too large for its place, or a
node whose text does not fit its tag. -/
inductive Unconvertible (s : List Char) (f : ValueFault) : Prop where
  | number (h : Unreadable s f)
  | node {g : Graph} {root : NodeId} (hparse : Graph.parse s = .ok (g, some root))
      (h : g.Unconverted f)

theorem Unconvertible.ne_endless {s : List Char} {f : ValueFault} (h : Unconvertible s f)
    (what : Document.Endless) : f ≠ .endless what := by
  rintro rfl
  cases h with
  | number h =>
      generalize hf : ValueFault.endless what = f at h
      cases h with
      | escape => split at hf <;> cases hf
      | directive => cases hf
  | node _ h =>
      obtain ⟨id, text, -, hscalar⟩ := h
      exact Tag.scalar_ends _ text what hscalar

/-- A text fails for a value only if it holds what cannot be converted, or if texts lead to
each other without end. -/
theorem read_fault {s : List Char} {f : ValueFault} (h : read s = .error (.value f)) :
    f = .endless .text ∨ Unconvertible s f := by
  unfold read at h
  cases hparse : Graph.parse s with
  | error e =>
      rw [hparse] at h
      cases h
      exact .inr (.number (Graph.parse_fault hparse))
  | ok x =>
      obtain ⟨g, root?⟩ := x
      rw [hparse] at h
      cases root? with
      | none => cases h
      | some root =>
          cases hvalues : g.values root with
          | error e =>
              simp only [hvalues, bind, Except.bind] at h
              cases h
              exact (Graph.values_fault hvalues).imp_right (.node hparse)
          | ok values =>
              simp only [hvalues, bind, Except.bind] at h
              cases h

end MigrationConfig.Yaml
