/-
# Lists in one text

A list of texts has one written form, its items with a comma between them, and this
form is shared: a setting is exported in it, a list in a settings file is flattened to
it, and a pass cuts it into tokens again.  A text is cut at its commas one by one, so
that two texts with a comma between them have the tokens of the first and then those of
the second, whatever the texts are.

Not every list is read back as it was written.  The lists that are have tokens for
items, and these are all: a cut never yields anything else.
-/
import MigrationConfig.Proofs.Maps
import MigrationConfig.Proofs.Run
import MigrationConfig.Proofs.Token
import MigrationConfig.Setting.Kind

namespace MigrationConfig

namespace Text

theorem tokens_append (a : Char) (s t : List Char) :
    tokens [a] (s ++ a :: t) = tokens [a] s ++ tokens [a] t := by
  simp only [tokens, splitOn_singleton, List.splitOn_append_cons_self, List.map_append,
    List.filter_append]

theorem tokenize_append (a b : String) : tokenize (a ++ "," ++ b) = tokenize a ++ tokenize b := by
  have htext : (a ++ "," ++ b).toList = a.toList ++ ',' :: b.toList := by simp
  rw [tokenize, htext, tokens_append, List.map_append]
  rfl

/-- The lists that are read back are those of tokens. -/
theorem tokenize_joinComma_iff {xs : List String} :
    tokenize (joinComma xs) = xs ↔ ∀ x ∈ xs, IsToken x := by
  constructor
  · intro h x hx
    rw [← h] at hx
    exact tokenize_isToken hx
  · exact tokenize_joinComma

end Text

theorem Coercion.tokens_comma (s : String) : tokens "," (some s) = .ok (Text.tokenize s) := by
  cases hs : s.isEmpty with
  | true =>
      rw [String.isEmpty_iff] at hs
      subst hs
      rfl
  | false =>
      simp only [tokens, hs]
      rfl

namespace Document

theorem settingTexts_texts (xs : List String) : settingTexts (xs.map text) = xs := by
  induction xs with
  | nil => rfl
  | cons x rest ih =>
      rw [List.map_cons, settingTexts, ih]
      rfl

/-- A list of texts in a file becomes one property. -/
theorem get?_flatten_texts (xs : List String) (k : Scalar) (parent : String) :
    (flatten [(k, texts xs)] parent).get? (dotted parent k) = some (Text.joinComma xs) := by
  have htext : settingText (texts xs) = Text.joinComma xs := by
    rw [texts, settingText, settingTexts_texts]
  have hone : flatten [(k, texts xs)] parent =
      PropertyMap.empty.insert (dotted parent k) (settingText (texts xs)) := by
    rw [flatten, texts, flattenOver, flattenOver]
    · intro es h
      cases h
    · intro h
      cases h
  rw [hone, htext, PropertyMap.get?_insert, if_pos (beq_self_eq_true _)]

end Document

/-- A list of texts is read back from its text just when its items are tokens: by itself, as
a setting that is written out and given its own text again, and as a list in a settings
file.  Tokens of texts with a comma between them are those of one after those of the
other. -/
theorem list_survives_iff :
    (∀ xs : List String, Coercion.tokens "," (some (Text.joinComma xs)) = .ok xs ↔
      ∀ x ∈ xs, Text.IsToken x) ∧
    (∀ a b : String, ∃ ts us, Coercion.tokens "," (some a) = .ok ts ∧
      Coercion.tokens "," (some b) = .ok us ∧
      Coercion.tokens "," (some (a ++ "," ++ b)) = .ok (ts ++ us)) ∧
    (∀ (xs : List String) (key field : String) (l : ClassLoader) (h : Host),
      (∃ t a, Kind.texts.write xs = .ok (some t) ∧ Kind.texts.read key t = .ok (some a) ∧
        ((Kind.texts.accept field l a).run h).1 = .ok xs) ↔ ∀ x ∈ xs, Text.IsToken x) ∧
    (∀ (xs : List String) (k : Scalar) (parent : String),
      (∃ t, (Document.flatten [(k, .texts xs)] parent).get? (Document.dotted parent k) = some t ∧
        Coercion.tokens "," (some t) = .ok xs) ↔ ∀ x ∈ xs, Text.IsToken x) := by
  have hread : ∀ xs : List String, Coercion.tokens "," (some (Text.joinComma xs)) = .ok xs ↔
      ∀ x ∈ xs, Text.IsToken x := by
    intro xs
    rw [Coercion.tokens_comma, Except.ok.injEq]
    exact Text.tokenize_joinComma_iff
  refine ⟨hread, fun a b => ?_, fun xs key field l h => ?_, fun xs k parent => ?_⟩
  · refine ⟨_, _, Coercion.tokens_comma a, Coercion.tokens_comma b, ?_⟩
    rw [Coercion.tokens_comma, Text.tokenize_append]
  · rw [← Text.tokenize_joinComma_iff]
    constructor
    · rintro ⟨t, a, hw, hr, ha⟩
      cases hw
      cases hr
      exact Except.ok.inj ha
    · intro hxs
      refine ⟨Text.joinComma xs, Kind.textItems (Text.joinComma xs), rfl, rfl, ?_⟩
      exact congrArg Except.ok hxs
  · rw [Document.get?_flatten_texts, ← hread]
    constructor
    · rintro ⟨t, ht, hxs⟩
      cases ht
      exact hxs
    · intro hxs
      exact ⟨_, rfl, hxs⟩

end MigrationConfig
