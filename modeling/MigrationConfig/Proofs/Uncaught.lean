/-
# Errors that are not expected of a settings file

A settings file is to yield properties, or an error of the configuration: such an error can
be passed over where files are not required.  Opening a file, decoding it and reading its
text have errors of their own.  Some of them are made errors of the configuration by name,
and the others get through.

Which files these are is said of the file and of the encoding (`Breaks`).  For JSON this is
settled on the text alone: a value is an integer of too many digits, and the text in front of
it is sound.  For YAML the reader has to come to it, for a text that is malformed further in
front is refused as such; what it comes to is a number that is too large for its place, or a
scalar that does not fit its tag (`Yaml.Unconvertible`), or an integer too long to be written.

Nothing is supposed of the decoders of the system, beyond those of the library: one that
refuses bytes as a whole is among the cases.  What they yield are characters, and what they
refuse is a run of bytes or all of them; a decoder that yields lone surrogates or fails in
yet another way is not spoken of here, nor is a file that opens and cannot be read to its
end.  Where the system does not let a path be looked up, the file is not even loaded.

Collections that stand inside themselves are set apart (`RunsOn`), for what becomes of them
is a matter of the depth that a stack allows.
-/
import MigrationConfig.Proofs.Converted
import MigrationConfig.Proofs.Encodings
import MigrationConfig.Proofs.Joined
import MigrationConfig.Proofs.Sources
import MigrationConfig.Proofs.Writable

namespace MigrationConfig

/-! ## Encodings -/

namespace Codec

/-- The fault is one of the text as a whole: no run of bytes is to blame. -/
def Fault.BlamesNone (f : Fault) : Prop :=
  ∀ decoder first last value reason, f ≠ .bytes decoder first last value reason

/-- A decoder that goes from byte to byte finds fault with some of them. -/
theorem decodeFrom_error {decoder : String} {head : UInt8 → List UInt8 → Head}
    {bytes : List UInt8} {f : Fault} :
    ∀ {place skip : Nat}, decodeFrom decoder head place skip bytes = .error f →
      ¬ f.BlamesNone := by
  induction bytes with
  | nil =>
      intro place skip h
      cases skip <;> cases h
  | cons b bytes ih =>
      intro place skip h
      cases skip with
      | succ skip => exact ih h
      | zero =>
          rw [decodeFrom] at h
          split at h
          · cases h
            exact fun hnone => hnone _ _ _ _ _ rfl
          · split at h
            · cases h
            · next hrest =>
                cases h
                exact ih hrest

/-- Bytes of whole units in which no byte order mark stands at the front. -/
structure Utf16.LacksMark (bytes : List UInt8) : Prop where
  nonempty : bytes ≠ []
  little : ∀ rest, bytes ≠ 0xFF :: 0xFE :: rest
  big : ∀ rest, bytes ≠ 0xFE :: 0xFF :: rest
  decodes : ∃ cs, Utf16.decode .little bytes = .ok cs

theorem Utf16.decodeMarked_iff {bytes : List UInt8} :
    (∃ f, decodeMarked bytes = .error f ∧ f.BlamesNone) ↔ LacksMark bytes := by
  constructor
  · rintro ⟨f, h, hf⟩
    unfold decodeMarked at h
    split at h
    · exact absurd hf (decodeFrom_error h)
    · exact absurd hf (decodeFrom_error h)
    · cases h
    · next hlittle hbig hempty =>
        split at h
        · next f hdecode =>
            cases h
            exact absurd hf (decodeFrom_error hdecode)
        · next cs hdecode =>
            exact ⟨fun h => hempty h, fun rest h => hlittle rest h, fun rest h => hbig rest h, cs,
              hdecode⟩
  · rintro ⟨hne, hlittle, hbig, cs, hdecode⟩
    refine ⟨.noByteOrderMark, ?_, fun _ _ _ _ _ h => by cases h⟩
    unfold decodeMarked
    split
    · exact absurd rfl (hlittle _)
    · exact absurd rfl (hbig _)
    · exact absurd rfl hne
    · rw [hdecode]

theorem isText_utf16 : ∀ e ∈ registry, e.name = "utf-16" → e.isText = true := by
  decide +kernel

/-- Of the decoders of the library only one refuses a text as a whole. -/
theorem decoder?_error {name : String} {d : List UInt8 → Except Fault (List Char)}
    {bytes : List UInt8} {f : Fault} (hname : name ≠ "utf-16") (hd : decoder? name = some d)
    (hf : d bytes = .error f) : ¬ f.BlamesNone := by
  unfold decoder? at hd
  split at hd
  · cases hd
    exact decodeFrom_error hf
  · cases hd
    unfold Utf8.decodeMarked at hf
    split at hf
    · cases hf
    · cases hf
    · exact decodeFrom_error hf
    · exact decodeFrom_error hf
  · cases hd
    exact decodeFrom_error hf
  · cases hd
    cases hf
  · exact absurd rfl hname
  · cases hd
    exact decodeFrom_error hf
  · cases hd
    exact decodeFrom_error hf
  · cases hd

/-- The system has a decoder for an encoding that the library has none for, and that
refuses the bytes as a whole. -/
structure Decoders.Refuses (others : Decoders) (e : Entry) (bytes : List UInt8) : Prop where
  isText : e.isText = true
  beyond : decoder? e.name = none
  fails : ∃ d f, others e.name = some d ∧ d bytes = .error f ∧ f.BlamesNone

/-- A text that is refused over its bytes, or as a whole, has been decoded. -/
theorem decoder_of_fault {others : Decoders} {name : String} {bytes : List UInt8} {f : Fault}
    (h : decode others name bytes = .error (.fault f)) :
    ∃ e d, lookup? name = some e ∧ e.isText = true ∧
      (decoder? e.name).or (others e.name) = some d ∧ d bytes = .error f := by
  unfold decode at h
  split at h
  · cases h
  · next e he =>
      split at h
      · cases h
      · next htext =>
          split at h
          · cases h
          · next d hd =>
              split at h
              · cases h
              · next f' hf =>
                  cases h
                  exact ⟨e, d, he, by simpa using htext, hd, hf⟩

/-- A text is refused as a whole for want of a byte order mark, in one encoding, or by a
decoder of the system. -/
theorem decode_whole_iff {others : Decoders} {name : String} {bytes : List UInt8} :
    (∃ f, decode others name bytes = .error (.fault f) ∧ f.BlamesNone) ↔
      ∃ e, lookup? name = some e ∧
        (e.name = "utf-16" ∧ Utf16.LacksMark bytes ∨ others.Refuses e bytes) := by
  constructor
  · rintro ⟨f, h, hnone⟩
    obtain ⟨e, d, he, htext, hd, hf⟩ := decoder_of_fault h
    refine ⟨e, he, ?_⟩
    cases hown : decoder? e.name with
    | none =>
        rw [hown, Option.none_or] at hd
        exact .inr ⟨htext, hown, d, f, hd, hf, hnone⟩
    | some d' =>
        rw [hown, Option.some_or] at hd
        obtain rfl := Option.some.inj hd
        by_cases hname : e.name = "utf-16"
        · rw [hname] at hown
          cases hown
          exact .inl ⟨hname, Utf16.decodeMarked_iff.1 ⟨f, hf, hnone⟩⟩
        · exact absurd hnone (decoder?_error hname hown hf)
  · rintro ⟨e, he, ⟨hname, hbytes⟩ | ⟨htext, hbeyond, d, f, hd, hf, hnone⟩⟩
    · obtain ⟨f, hf, hnone⟩ := Utf16.decodeMarked_iff.2 hbytes
      have hown : (decoder? e.name).or (others e.name) = some Utf16.decodeMarked := by
        rw [hname]
        rfl
      refine ⟨f, ?_, hnone⟩
      rw [decode_of_lookup? he (isText_utf16 e (mem_registry_of_lookup? he) hname) hown, hf]
      rfl
    · refine ⟨f, ?_, hnone⟩
      rw [decode_of_lookup? he htext (by rw [hbeyond, Option.none_or, hd]), hf]
      rfl

end Codec

/-! ## Files -/

namespace SettingsFile

/-- Loading a file stops with an error that is none of the configuration. -/
inductive Breaks (others : Codec.Decoders) (t : FileTree) (encoding : String) (p : Path) :
    Prop where
  /-- the name of the encoding holds a null character -/
  | encodingName (h : '\x00' ∈ encoding.toList)
  /-- the path holds a null character -/
  | pathName (h : '\x00' ∈ p.toString.toList)
  /-- the file is to have a byte order mark, and has none -/
  | unmarked {e : Codec.Entry} {bytes : List UInt8} (hname : Codec.lookup? encoding = some e)
      (hutf16 : e.name = "utf-16") (hread : t.read p = .ok bytes)
      (hbytes : Codec.Utf16.LacksMark bytes)
  /-- a decoder of the system refuses what the file holds as a whole -/
  | undecoded {e : Codec.Entry} {bytes : List UInt8} (hname : Codec.lookup? encoding = some e)
      (hread : t.read p = .ok bytes) (hbytes : others.Refuses e bytes)
  /-- an integer of too many digits stands in a JSON text where a value is awaited -/
  | jsonInteger {before sign ds rest : List Char} (hformat : formatOf p = .json)
      (htext : text others t p encoding = .ok (before ++ (sign ++ (ds ++ rest))))
      (hbefore : Json.Awaits before) (hint : Json.IsInteger sign ds rest)
      (hlong : Text.digitLimit < ds.length)
  /-- the reader of YAML comes to something in the text that cannot be converted -/
  | yamlValue {cs : List Char} {f : ValueFault} (hformat : formatOf p = .yaml)
      (htext : text others t p encoding = .ok cs) (hread : Yaml.read cs = .error (.value f))
      (hvalue : Yaml.Unconvertible cs f)
  /-- an integer of a YAML mapping is too long to be written -/
  | yamlInteger {cs : List Char} {entries : List (Scalar × Document)}
      (hformat : formatOf p = .yaml) (htext : text others t p encoding = .ok cs)
      (hread : Yaml.read cs = .ok (.mapping entries))
      (hlong : Document.entriesObstacle? entries = some .tooLong)

/-- Loading yields properties, or an error of the configuration. -/
def Answers (r : Except Error PropertyMap) : Prop := ∀ e, r = .error e → e.isConfiguration = true

/-- Loading follows a collection that stands inside itself. -/
def RunsOn (r : Except Error PropertyMap) : Prop := ∃ what, r = .error (.value (.endless what))

variable {others : Codec.Decoders} {t : FileTree} {encoding : String} {p : Path} {cs : List Char}
  {e : Error}

theorem text_error (h : text others t p encoding = .error e) :
    e.isConfiguration = true ∨ Breaks others t encoding p := by
  unfold text at h
  split at h
  · next hnull => exact .inr (.encodingName (by simpa using hnull))
  · split at h
    · next hread =>
        refine .inr (.pathName ?_)
        unfold FileTree.read at hread
        split at hread
        · next hnull => simpa [FileTree.hasNull] using hnull
        · split at hread <;> cases hread
    · cases h
      exact .inl rfl
    · next bytes hread =>
        have hwhole : (∃ f, Codec.decode others encoding bytes = .error (.fault f) ∧ f.BlamesNone) →
            Breaks others t encoding p := by
          intro hwhole
          obtain ⟨e, hname, ⟨hutf16, hbytes⟩ | hrefuses⟩ := Codec.decode_whole_iff.1 hwhole
          · exact .unmarked hname hutf16 hread hbytes
          · exact .undecoded hname hread hrefuses
        split at h
        · cases h
        · next hdecode => exact .inr (hwhole ⟨_, hdecode, fun _ _ _ _ _ h => by cases h⟩)
        · next hdecode => exact .inr (hwhole ⟨_, hdecode, fun _ _ _ _ _ h => by cases h⟩)
        · cases h
          exact .inl rfl

theorem ofDocument_error {d : Document} (h : ofDocument p d = .error e) :
    e.isConfiguration = true ∨ (∃ what, e = .value (.endless what)) ∨
      ∃ entries, d = .mapping entries ∧ Document.entriesObstacle? entries = some .tooLong := by
  unfold ofDocument at h
  split at h
  · next entries =>
      unfold flatten at h
      split at h
      · cases h
        exact .inr (.inl ⟨_, rfl⟩)
      · next hlong => exact .inr (.inr ⟨entries, rfl, hlong⟩)
      · cases h
  · cases h
    exact .inl rfl

theorem yamlDocument_error (h : yamlDocument p cs = .error e) :
    e.isConfiguration = true ∨ ∃ f, Yaml.read cs = .error (.value f) ∧ e = .value f := by
  unfold yamlDocument at h
  split at h
  · cases h
  · cases h
    exact .inl rfl
  · next f hread =>
      cases h
      exact .inr ⟨f, hread, rfl⟩

/-- The mapping of a YAML file is the one in its text, unless it stands for nothing. -/
theorem yamlDocument_mapping {entries : List (Scalar × Document)}
    (h : yamlDocument p cs = .ok (.mapping entries)) :
    entries = [] ∨ Yaml.read cs = .ok (.mapping entries) := by
  unfold yamlDocument at h
  split at h
  · next d hread =>
      split at h
      · cases h
        exact .inl rfl
      · cases h
        exact .inr hread
  · cases h
  · cases h

theorem jsonDocument_error (h : jsonDocument p cs = .error e) :
    e.isConfiguration = true ∨ ∃ n, Json.readChars cs = .error (.tooManyDigits n) := by
  unfold jsonDocument at h
  split at h
  · cases h
  · split at h
    · cases h
    · cases h
      exact .inl rfl
    · next n hread => exact .inr ⟨n, hread⟩

/-- A JSON document can be flattened if it is a mapping. -/
theorem jsonDocument_writable {d : Document} (h : jsonDocument p cs = .ok d) : d.IsWritable := by
  unfold jsonDocument at h
  split at h
  · cases h
    exact Document.isWritable_mapping (by simp)
  · split at h
    · next hread =>
        cases h
        exact Json.readChars_writable hread
    · cases h
    · cases h

theorem load_yaml_error (hformat : formatOf p = .yaml) (htext : text others t p encoding = .ok cs)
    (h : load others t p encoding = .error e) :
    e.isConfiguration = true ∨ (∃ what, e = .value (.endless what)) ∨
      Breaks others t encoding p := by
  simp only [load, htext, hformat] at h
  cases hd : yamlDocument p cs with
  | error e' =>
      rw [hd] at h
      cases h
      rcases yamlDocument_error hd with he | ⟨f, hread, rfl⟩
      · exact .inl he
      · rcases Yaml.read_fault hread with rfl | hvalue
        · exact .inr (.inl ⟨.text, rfl⟩)
        · exact .inr (.inr (.yamlValue hformat htext hread hvalue))
  | ok d =>
      rw [hd] at h
      rcases ofDocument_error h with he | he | ⟨entries, rfl, hlong⟩
      · exact .inl he
      · exact .inr (.inl he)
      · rcases yamlDocument_mapping hd with rfl | hread
        · rw [Document.entriesObstacle?] at hlong
          cases hlong
        · exact .inr (.inr (.yamlInteger hformat htext hread hlong))

theorem load_json_error (hformat : formatOf p = .json) (htext : text others t p encoding = .ok cs)
    (h : load others t p encoding = .error e) :
    e.isConfiguration = true ∨ (∃ what, e = .value (.endless what)) ∨
      Breaks others t encoding p := by
  simp only [load, htext, hformat] at h
  cases hd : jsonDocument p cs with
  | error e' =>
      rw [hd] at h
      cases h
      rcases jsonDocument_error hd with he | ⟨n, hread⟩
      · exact .inl he
      · obtain ⟨before, sign, ds, rest, rfl, hbefore, hint, rfl, hlong⟩ :=
          Json.readChars_tooManyDigits_iff.1 hread
        exact .inr (.inr (.jsonInteger hformat htext hbefore hint hlong))
  | ok d =>
      rw [hd] at h
      rcases ofDocument_error h with he | he | ⟨entries, rfl, hlong⟩
      · exact .inl he
      · exact .inr (.inl he)
      · rw [(jsonDocument_writable hd).entries entries rfl] at hlong
        cases hlong

theorem load_error (h : load others t p encoding = .error e) :
    e.isConfiguration = true ∨ (∃ what, e = .value (.endless what)) ∨
      Breaks others t encoding p := by
  cases htext : text others t p encoding with
  | error e' =>
      rw [load, htext] at h
      cases h
      exact (text_error htext).imp_right .inr
  | ok cs =>
      cases hformat : formatOf p with
      | properties =>
          rw [load, htext, hformat] at h
          cases h
      | yaml => exact load_yaml_error hformat htext h
      | json => exact load_json_error hformat htext h

theorem load_cases (others : Codec.Decoders) (t : FileTree) (encoding : String) (p : Path) :
    Answers (load others t p encoding) ∨ RunsOn (load others t p encoding) ∨
      Breaks others t encoding p := by
  cases hload : load others t p encoding with
  | ok m => exact .inl fun e h => by cases h
  | error e =>
      rcases load_error hload with he | ⟨what, rfl⟩ | h
      · refine .inl fun e' h' => ?_
        rwa [← Except.error.inj h']
      · exact .inr (.inl ⟨what, rfl⟩)
      · exact .inr (.inr h)

/-- Behind a null character in a name nothing is read, nor is what is refused as a whole. -/
theorem text_stops (h : '\x00' ∈ encoding.toList ∨ '\x00' ∈ p.toString.toList ∨
      ∃ e bytes, Codec.lookup? encoding = some e ∧ t.read p = .ok bytes ∧
        (e.name = "utf-16" ∧ Codec.Utf16.LacksMark bytes ∨ others.Refuses e bytes)) :
    ∃ f, text others t p encoding = .error (.value f) ∧ ∀ what, f ≠ .endless what := by
  unfold text
  split
  · exact ⟨_, rfl, fun what h => by cases h⟩
  · next hname =>
      rcases h with hnull | hnull | ⟨e, bytes, he, hread, hbytes⟩
      · exact absurd (by simpa using hnull) hname
      · have hpath : FileTree.hasNull p = true := by simpa [FileTree.hasNull] using hnull
        rw [FileTree.read, hpath]
        exact ⟨_, rfl, fun what h => by cases h⟩
      · obtain ⟨f, hdecode, hnone⟩ := Codec.decode_whole_iff.2 ⟨e, he, hbytes⟩
        rw [hread]
        simp only [hdecode]
        cases f with
        | bytes decoder first last value reason => exact (hnone _ _ _ _ _ rfl).elim
        | noByteOrderMark => exact ⟨_, rfl, fun what h => by cases h⟩
        | whole message => exact ⟨_, rfl, fun what h => by cases h⟩

theorem jsonDocument_tooManyDigits {before sign ds rest : List Char}
    (hbefore : Json.Awaits before) (hint : Json.IsInteger sign ds rest)
    (hlong : Text.digitLimit < ds.length) :
    jsonDocument p (before ++ (sign ++ (ds ++ rest))) =
      .error (.value (.tooManyDigits ds.length)) := by
  have hread := Json.readChars_tooManyDigits_iff.2
    ⟨before, sign, ds, rest, rfl, hbefore, hint, rfl, hlong⟩
  have hdigit : (before ++ (sign ++ (ds ++ rest))).all Text.isBlank = false := by
    obtain ⟨d, hd⟩ := List.exists_mem_of_ne_nil ds hint.nonempty
    refine List.all_eq_false.2 ⟨d, by simp [hd], ?_⟩
    rw [Text.isBlank_of_isDigit (hint.digits d hd)]
    exact Bool.false_ne_true
  rw [jsonDocument, hdigit, if_neg Bool.false_ne_true, hread]

/-- A file that breaks loading is answered with neither properties nor an error of the
configuration, and not for a collection that stands inside itself. -/
theorem load_of_breaks (h : Breaks others t encoding p) :
    ∃ f, load others t p encoding = .error (.value f) ∧ ∀ what, f ≠ .endless what := by
  have hstops : (∃ f, text others t p encoding = .error (.value f) ∧ ∀ what, f ≠ .endless what) →
      ∃ f, load others t p encoding = .error (.value f) ∧ ∀ what, f ≠ .endless what := by
    rintro ⟨f, htext, hf⟩
    exact ⟨f, by rw [load, htext], hf⟩
  cases h with
  | encodingName hnull => exact hstops (text_stops (.inl hnull))
  | pathName hnull => exact hstops (text_stops (.inr (.inl hnull)))
  | unmarked hname hutf16 hread hbytes =>
      exact hstops (text_stops (.inr (.inr ⟨_, _, hname, hread, .inl ⟨hutf16, hbytes⟩⟩)))
  | undecoded hname hread hbytes =>
      exact hstops (text_stops (.inr (.inr ⟨_, _, hname, hread, .inr hbytes⟩)))
  | @jsonInteger _ _ ds _ hformat htext hbefore hint hlong =>
      refine ⟨.tooManyDigits ds.length, ?_, fun what h => by cases h⟩
      rw [load, htext, hformat]
      simp only [jsonDocument_tooManyDigits hbefore hint hlong]
      rfl
  | yamlValue hformat htext hread hvalue =>
      refine ⟨_, ?_, hvalue.ne_endless⟩
      rw [load, htext, hformat]
      simp only [yamlDocument, hread]
      rfl
  | @yamlInteger cs entries hformat htext hread hlong =>
      have hentries : isNothing (.mapping entries) = false := by
        cases entries with
        | nil =>
            rw [Document.entriesObstacle?] at hlong
            cases hlong
        | cons e entries => rfl
      have hdocument : yamlDocument p cs = .ok (.mapping entries) := by
        rw [yamlDocument, hread]
        simp only [hentries, Bool.false_eq_true, if_false]
      refine ⟨.tooLongToWrite, ?_, fun what h => by cases h⟩
      rw [load, htext, hformat]
      simp only [hdocument]
      show flatten entries "" = _
      rw [flatten, hlong]

/-- Whether a file is answered is settled by the file, its name and the encoding. -/
theorem load_answers_iff :
    Answers (load others t p encoding) ∨ RunsOn (load others t p encoding) ↔
      ¬ Breaks others t encoding p := by
  refine ⟨fun h hbreaks => ?_, fun h => ?_⟩
  · obtain ⟨f, hload, hf⟩ := load_of_breaks hbreaks
    rcases h with h | ⟨what, h⟩
    · cases h _ hload
    · rw [hload] at h
      cases h
      exact hf what rfl
  · rcases load_cases others t encoding p with h' | h' | h'
    · exact .inl h'
    · exact .inr h'
    · exact absurd h' h

/-- A file that is not required is come past if it can be asked for, and is answered if it is
there. -/
theorem passes_iff :
    Passes others t encoding false p ↔
      t.obstacle? p = none ∧ (t.isFile p = true → Answers (load others t p encoding)) := by
  constructor
  · rintro (hsome | ⟨-, hp⟩)
    · unfold contents? at hsome
      split at hsome
      · cases hsome
      · next hfile =>
          rw [Bool.or_eq_true, not_or] at hfile
          refine ⟨by simpa using hfile.1, fun _ e he => ?_⟩
          rw [he] at hsome
          cases hsome
    · cases hp with
      | missing hanswered hfile =>
          exact ⟨hanswered, fun h => absurd (h.symm.trans hfile) (by decide)⟩
      | rejected hanswered hfile hload he =>
          refine ⟨hanswered, fun _ e' he' => ?_⟩
          rw [hload] at he'
          cases he'
          exact he
  · rintro ⟨hanswered, hanswers⟩
    cases hfile : t.isFile p with
    | false => exact .inr ⟨rfl, .missing hanswered hfile⟩
    | true =>
        cases hload : load others t p encoding with
        | ok m =>
            refine .inl ?_
            rw [contents?_of_isFile hanswered hfile, hload]
            rfl
        | error e => exact .inr ⟨rfl, .rejected hanswered hfile hload (hanswers hfile e hload)⟩

end SettingsFile

end MigrationConfig
