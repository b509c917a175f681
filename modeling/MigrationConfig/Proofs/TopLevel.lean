/-
# What stands at the top of a structured file

A settings file in YAML or JSON has to hold a mapping, and one that holds something else
is refused for that.  An empty file is let through, though, and the two formats have
different ideas of it.  A JSON file is empty when its text is blank, and no value has such
a text (`Json.readChars_not_blank`).  With a YAML file it is the value that decides:
whatever counts as nothing is taken for an empty mapping, and that is more than null
(`Void`).
-/
import MigrationConfig.Proofs.Awaited
import MigrationConfig.Proofs.Digits
import MigrationConfig.Proofs.Printed

namespace MigrationConfig

/-! ## No value is blank -/

namespace Json

theorem magnitude_not_blank {negative : Bool} {start r : List Char} {c : Char}
    {x : Scalar × List Char} (h : magnitude negative start (c :: r) = .ok x) :
    Text.isBlank c = false := by
  unfold magnitude at h
  split at h
  · cases h
  · next hwhole =>
      unfold whole? at hwhole
      split at hwhole
      · next hzero =>
          cases hzero
          decide
      · cases hdigit : Text.isDigit c with
        | true => exact Text.isBlank_of_isDigit hdigit
        | false =>
            have hnone : leadingDigits (c :: r) = [] :=
              List.takeWhile_cons_of_neg (by simp [hdigit])
            rw [hnone] at hwhole
            cases hwhole

theorem scalar_not_blank {r : List Char} {c : Char} {x : Scalar × List Char}
    (h : scalar (c :: r) = .ok x) : Text.isBlank c = false := by
  unfold scalar at h
  split at h
  case h_8 => exact magnitude_not_blank h
  all_goals
    next heq =>
      obtain ⟨rfl, -⟩ := List.cons.inj heq
      decide

theorem ValueStep.not_blank {k : Nat} {s r : List Char} {c : Char}
    {x : Except Stop (Document × List Char)} (hstep : ValueStep k s x) (hs : s = c :: r)
    (hok : x.isOk = true) : Text.isBlank c = false := by
  have of_mark : ∀ {m : Char} {t : List Char}, m :: t = c :: r → Text.isBlank m = false →
      Text.isBlank c = false := by
    intro m t h hm
    rwa [← List.head_eq_of_cons_eq h]
  cases hstep with
  | string hr => exact of_mark hs (by decide)
  | badString hr => cases hok
  | emptyObject hr => exact of_mark hs (by decide)
  | object hr => exact of_mark hs (by decide)
  | emptyArray hr => exact of_mark hs (by decide)
  | array hr => exact of_mark hs (by decide)
  | scalar hmarks hread => exact scalar_not_blank (hs ▸ hread)
  | badScalar hmarks hread => cases hok

theorem value_not_blank {k : Nat} {r : List Char} {c : Char} {x : Document × List Char}
    (h : value k (c :: r) = .ok x) : Text.isBlank c = false := by
  cases k with
  | zero =>
      rw [value] at h
      cases h
  | succ k => exact (value_step k (c :: r)).not_blank rfl (by rw [h]; rfl)

/-- A text that is read as a value is not blank. -/
theorem readChars_not_blank {s : List Char} {d : Document} (h : readChars s = .ok d) :
    s.all Text.isBlank = false := by
  unfold readChars at h
  split at h
  · cases h
  · cases hs : skipSpace s with
    | nil =>
        rw [hs, value_nil] at h
        cases h
    | cons c r =>
        rw [hs] at h
        cases hv : value (2 * s.length + 2) (c :: r) with
        | error e =>
            rw [hv] at h
            cases h
        | ok x =>
            have hc : c ∈ s := (List.dropWhile_sublist _).subset (hs ▸ List.mem_cons_self)
            refine List.all_eq_false.2 ⟨c, hc, ?_⟩
            rw [value_not_blank hv]
            exact Bool.false_ne_true

end Json

/-! ## Files -/

namespace SettingsFile

/-- The suffix of a path stands for YAML, whatever its case. -/
def IsYaml (p : Path) : Prop :=
  Text.lower p.suffix = ".yaml".toList ∨ Text.lower p.suffix = ".yml".toList

/-- The suffix of a path stands for JSON, whatever its case. -/
def IsJson (p : Path) : Prop := Text.lower p.suffix = ".json".toList

instance (p : Path) : Decidable (IsYaml p) := inferInstanceAs (Decidable (_ ∨ _))

instance (p : Path) : Decidable (IsJson p) := inferInstanceAs (Decidable (_ = _))

/-- The text of a structured file reads as a document. -/
inductive Holds (p : Path) (cs : List Char) (d : Document) : Prop where
  | yaml (hsuffix : IsYaml p) (hread : Yaml.read cs = .ok d)
  | json (hsuffix : IsJson p) (hread : Json.readChars cs = .ok d)

/-- What counts as nothing, though it is no mapping. -/
inductive Void : Document → Prop where
  | null : Void (.scalar .null)
  | falsehood : Void (.scalar (.flag false))
  | zero : Void (.scalar (.number 0))
  /-- of either sign -/
  | realZero {x : Float} (hx : (x == 0.0) = true) : Void (.scalar (.real x))
  | emptyText : Void (.scalar (.text ""))
  | emptyBytes : Void (.scalar (.bytes []))
  | emptyList : Void (.list [])
  | emptySet : Void (.set [])

variable {others others' : Codec.Decoders} {t t' : FileTree} {encoding encoding' : String}
  {p p' : Path} {cs cs' : List Char} {d d' : Document}

theorem IsYaml.format (hp : IsYaml p) : formatOf p = .yaml := by
  rcases hp with hp | hp <;> rw [formatOf, hp] <;> rfl

theorem IsJson.format (hp : IsJson p) : formatOf p = .json := by
  rw [formatOf, hp]
  rfl

theorem IsJson.not_yaml (hp : IsJson p) : ¬ IsYaml p := by
  intro hyaml
  have hformat := hyaml.format
  rw [hp.format] at hformat
  cases hformat

theorem isNothing_iff (hd : ∀ entries, d ≠ .mapping entries) : isNothing d = true ↔ Void d := by
  constructor
  · intro h
    cases d with
    | scalar s =>
        cases s with
        | null => exact .null
        | flag b =>
            cases b with
            | false => exact .falsehood
            | true => cases h
        | number n =>
            obtain rfl : n = 0 := by simpa [isNothing] using h
            exact .zero
        | real x => exact .realZero h
        | text s =>
            obtain rfl : s = "" := by simpa [isNothing, String.isEmpty_iff] using h
            exact .emptyText
        | bytes bs =>
            obtain rfl : bs = [] := List.isEmpty_iff.1 h
            exact .emptyBytes
        | stamp t => cases h
        | recurrence ofMapping => cases h
    | list items =>
        obtain rfl : items = [] := List.isEmpty_iff.1 h
        exact .emptyList
    | pair a b => cases h
    | set members =>
        obtain rfl : members = [] := List.isEmpty_iff.1 h
        exact .emptySet
    | mapping entries => exact absurd rfl (hd entries)
  · intro h
    cases h with
    | realZero hx => exact hx
    | _ => rfl

theorem ofDocument_not_mapping (p : Path) (hd : ∀ entries, d ≠ .mapping entries) :
    ofDocument p d = .error (.invalid (.fileNotMapping p)) := by
  unfold ofDocument
  split
  · next entries => exact absurd rfl (hd entries)
  · rfl

theorem ofDocument_empty (p : Path) : ofDocument p (.mapping []) = .ok .empty := by
  rw [ofDocument, flatten, Document.entriesObstacle?, Document.flatten, Document.flattenOver]

/-- A JSON file with something other than a mapping is refused for that. -/
theorem load_json_not_mapping (htext : text others t p encoding = .ok cs) (hp : IsJson p)
    (hread : Json.readChars cs = .ok d) (hd : ∀ entries, d ≠ .mapping entries) :
    load others t p encoding = .error (.invalid (.fileNotMapping p)) := by
  have hdocument : jsonDocument p cs = .ok d := by
    rw [jsonDocument, Json.readChars_not_blank hread, if_neg Bool.false_ne_true, hread]
  simp only [load, htext, hp.format, hdocument]
  exact ofDocument_not_mapping p hd

theorem load_yaml_not_mapping (htext : text others t p encoding = .ok cs) (hp : IsYaml p)
    (hread : Yaml.read cs = .ok d) (hd : ∀ entries, d ≠ .mapping entries) :
    load others t p encoding =
      if isNothing d then .ok .empty else .error (.invalid (.fileNotMapping p)) := by
  have hdocument : yamlDocument p cs = .ok (if isNothing d then .mapping [] else d) := by
    rw [yamlDocument, hread]
  simp only [load, htext, hp.format, hdocument]
  cases isNothing d with
  | true => exact ofDocument_empty p
  | false => exact ofDocument_not_mapping p hd

theorem load_refused_iff (htext : text others t p encoding = .ok cs) (hholds : Holds p cs d)
    (hd : ∀ entries, d ≠ .mapping entries) :
    load others t p encoding = .error (.invalid (.fileNotMapping p)) ↔ ¬ (IsYaml p ∧ Void d) := by
  cases hholds with
  | yaml hp hread =>
      rw [load_yaml_not_mapping htext hp hread hd, ← isNothing_iff hd, and_iff_right hp]
      cases isNothing d <;> simp
  | json hp hread =>
      exact iff_of_true (load_json_not_mapping htext hp hread hd) fun h => hp.not_yaml h.1

theorem load_void (htext : text others t p encoding = .ok cs) (hholds : Holds p cs d)
    (hd : ∀ entries, d ≠ .mapping entries) (hp : IsYaml p) (hvoid : Void d) :
    load others t p encoding = .ok .empty := by
  cases hholds with
  | yaml hp hread =>
      rw [load_yaml_not_mapping htext hp hread hd, (isNothing_iff hd).2 hvoid, if_pos rfl]
  | json hjson hread => exact absurd hp hjson.not_yaml

theorem text_of_toOption (hs : cs.all Json.isPlain = true)
    (hread : (t.read p).toOption = some (Codec.Utf8.encode cs)) :
    text others t p "utf-8" = .ok cs := by
  cases hr : t.read p with
  | error e =>
      rw [hr] at hread
      cases hread
  | ok bytes =>
      rw [hr] at hread
      exact text_plain (List.all_eq_true.1 hs) (hr.trans (congrArg _ (Option.some.inj hread)))

/-- The number of items of a document that is a list. -/
def size? : Document → Option Nat
  | .list items => some items.length
  | _ => none

theorem read_of_size? {n : Nat} (hn : (Yaml.read cs).toOption.bind size? = some n) :
    ∃ items, Yaml.read cs = .ok (.list items) ∧ items.length = n := by
  cases hread : Yaml.read cs with
  | error e =>
      rw [hread] at hn
      cases hn
  | ok d =>
      rw [hread] at hn
      cases d with
      | list items => exact ⟨items, rfl, Option.some.inj hn⟩
      | _ => cases hn

/-- A structured file that holds something other than a mapping is refused for that just
when it is not a YAML file with something void, and such a file is taken for an empty one.
So a YAML file and a JSON file, be their values equal or not, are treated alike just when
the value of the YAML file is not void. -/
theorem load_not_mapping_iff (htext : text others t p encoding = .ok cs) (hholds : Holds p cs d)
    (hd : ∀ entries, d ≠ .mapping entries) :
    (load others t p encoding = .error (.invalid (.fileNotMapping p)) ↔ ¬ (IsYaml p ∧ Void d)) ∧
    (IsYaml p → Void d → load others t p encoding = .ok .empty) ∧
    ∀ {others' t' encoding' p' cs' d'}, text others' t' p' encoding' = .ok cs' → Holds p' cs' d' →
      (∀ entries, d' ≠ .mapping entries) → IsYaml p → IsJson p' →
      ((load others t p encoding = .error (.invalid (.fileNotMapping p)) ↔
        load others' t' p' encoding' = .error (.invalid (.fileNotMapping p'))) ↔ ¬ Void d) := by
  refine ⟨load_refused_iff htext hholds hd, load_void htext hholds hd, ?_⟩
  intro others' t' encoding' p' cs' d' htext' hholds' hd' hp hp'
  have hrefused : load others' t' p' encoding' = .error (.invalid (.fileNotMapping p')) :=
    (load_refused_iff htext' hholds' hd').2 fun h => hp'.not_yaml h.1
  rw [load_refused_iff htext hholds hd, and_iff_right hp]
  exact iff_true_right hrefused

/-- A list with an item is refused in both formats. -/
theorem load_not_mapping_list :
    let t : FileTree := ⟨[(["l.YML"], .file (Codec.Utf8.encode "- a\n".toList)),
      (["l.json"], .file (Codec.Utf8.encode "[\"a\"]\n".toList))]⟩
    let p : Path := ⟨"", ["l.YML"]⟩
    let p' : Path := ⟨"", ["l.json"]⟩
    load .absent t p "utf-8" = .error (.invalid (.fileNotMapping p)) ∧
      load .absent t p' "utf-8" = .error (.invalid (.fileNotMapping p')) := by
  intro t p p'
  have hyaml : IsYaml p := by decide +kernel
  have hjson : IsJson p' := by decide +kernel
  have htext : text .absent t p "utf-8" = .ok "- a\n".toList :=
    text_of_toOption (by decide) (by decide +kernel)
  have htext' : text .absent t p' "utf-8" = .ok "[\"a\"]\n".toList :=
    text_of_toOption (by decide) (by decide +kernel)
  have hread' : Json.readChars "[\"a\"]\n".toList = .ok (.list [.text "a"]) := rfl
  obtain ⟨items, hread, hlength⟩ :=
    read_of_size? (show (Yaml.read "- a\n".toList).toOption.bind size? = some 1 by decide +kernel)
  have hvoid : ¬ Void (.list items) := by
    rintro ⟨⟩
    cases hlength
  obtain ⟨hrefused, -, halike⟩ := load_not_mapping_iff htext (.yaml hyaml hread)
    fun _ h => by cases h
  have hload := hrefused.2 fun h => hvoid h.2
  refine ⟨hload, ((halike htext' (.json hjson hread') ?_ hyaml hjson).2 hvoid).1 hload⟩
  exact fun _ h => by cases h

/-- An empty list is taken for an empty file in YAML, and refused in JSON. -/
theorem load_empty_list_taken :
    let t : FileTree := ⟨[(["y.yaml"], .file (Codec.Utf8.encode "[]\n".toList)),
      (["y.json"], .file (Codec.Utf8.encode "[]\n".toList))]⟩
    let p : Path := ⟨"", ["y.yaml"]⟩
    let p' : Path := ⟨"", ["y.json"]⟩
    ∃ cs, text .absent t p "utf-8" = .ok cs ∧ Holds p cs (.list []) ∧
      text .absent t p' "utf-8" = .ok cs ∧ Holds p' cs (.list []) ∧ load .absent t p "utf-8" = .ok .empty ∧
        load .absent t p "utf-8" ≠ .error (.invalid (.fileNotMapping p)) ∧
          load .absent t p' "utf-8" = .error (.invalid (.fileNotMapping p')) := by
  intro t p p'
  have hyaml : IsYaml p := by decide +kernel
  have hjson : IsJson p' := by decide +kernel
  obtain ⟨items, hread, hlength⟩ :=
    read_of_size? (show (Yaml.read "[]\n".toList).toOption.bind size? = some 0 by decide +kernel)
  obtain rfl := List.eq_nil_of_length_eq_zero hlength
  have hread' : Json.readChars "[]\n".toList = .ok (.list []) := rfl
  have hnone : ∀ entries, Document.list [] ≠ .mapping entries := fun _ h => by cases h
  have htext : text .absent t p "utf-8" = .ok "[]\n".toList :=
    text_of_toOption (by decide) (by decide +kernel)
  have htext' : text .absent t p' "utf-8" = .ok "[]\n".toList :=
    text_of_toOption (by decide) (by decide +kernel)
  have hload := load_void htext (.yaml hyaml hread) hnone hyaml .emptyList
  refine ⟨_, htext, .yaml hyaml hread, htext', .json hjson hread', hload, ?_,
    load_json_not_mapping htext' hjson hread' hnone⟩
  rw [hload]
  exact fun h => by cases h

end SettingsFile

end MigrationConfig
