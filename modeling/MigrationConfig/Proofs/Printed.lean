/-
# Configurations as JSON

The properties of a configuration that are written as a JSON file come back when the
file is loaded: the same keys in the same order, with the same values, and whatever
characters are in them.

Along the way nothing can go wrong.  The text of the file is plain, so its bytes are its
characters and no line end is changed.  The object is read member by member, each from
its name on, and a new name goes to the end; the count of steps is enough, for each
member takes one and is longer than that.  The mapping that is read has nothing but
texts, so flattening it leaves its entries as they are.
-/
import MigrationConfig.Config.Format
import MigrationConfig.Proofs.Maps
import MigrationConfig.Proofs.Quoted
import MigrationConfig.Proofs.Run
import MigrationConfig.Source.File

namespace MigrationConfig

/-! ## Objects -/

/-- An entry as a member of a mapping. -/
def PropertyMap.memberOf (e : String × String) : Scalar × Document := (.text e.1, .text e.2)

/-- A property map as a document. -/
def PropertyMap.document (m : PropertyMap) : Document := .mapping (m.entries.map memberOf)

open PropertyMap (memberOf)

/-- A member with a new name goes to the end. -/
theorem Entries.put_memberOf {e : String × String} :
    ∀ {es : List (String × String)}, e.1 ∉ keys es →
      put (.text e.1) (.text e.2) (es.map memberOf) = (es ++ [e]).map memberOf := by
  intro es
  induction es with
  | nil => exact fun _ => rfl
  | cons f rest ih =>
      intro hnew
      rw [keys_cons, List.mem_cons, not_or] at hnew
      have hne : (f.1 == e.1) = false := beq_eq_false_iff_ne.2 (Ne.symm hnew.1)
      have hkey : ((memberOf f).1 == Scalar.text e.1) = false := hne
      rw [List.map_cons, put_cons, hkey, if_neg Bool.false_ne_true, ih hnew.2]
      rfl

namespace Json

theorem value_string (steps : Nat) (s : String) (t : List Char) :
    value (steps + 1) (string s ++ t) = .ok (.text s, t) := by
  have hbody : stringBody (string s ++ t) 0 (s.toList.flatMap stringChar ++ ['"'] ++ t) =
      .ok (s.toList, t) := by
    rw [List.append_assoc]
    exact stringBody_string s.toList t
  show (stringBody (string s ++ t) 0 (s.toList.flatMap stringChar ++ ['"'] ++ t)).bind _ = _
  rw [hbody]
  exact congrArg (fun u => Except.ok (Document.text u, t)) String.ofList_toList

/-- A member from its name on. -/
def memberText (e : String × String) : List Char := string e.1 ++ ':' :: ' ' :: string e.2

/-- What stands behind a member: the others, and the end of the object. -/
def membersText : List (String × String) → List Char
  | [] => ['\n', '}']
  | e :: rest => ',' :: member e ++ membersText rest

theorem print_cons {m : PropertyMap} {e : String × String} {es : List (String × String)}
    (hm : m.entries = e :: es) :
    (print m).toList = '{' :: '\n' :: ' ' :: ' ' :: (memberText e ++ membersText es) := by
  have hmembers : ∀ (es : List (String × String)) (e : String × String),
      [','].intercalate ((e :: es).map member) ++ ['\n', '}'] = member e ++ membersText es := by
    intro es
    induction es with
    | nil =>
        intro e
        rw [List.map_singleton, List.intercalate_singleton]
        rfl
    | cons f rest ih =>
        intro e
        have ih := ih f
        rw [List.map_cons] at ih
        rw [List.map_cons, List.map_cons, List.intercalate_cons_cons, List.append_assoc,
          List.append_assoc, ih]
        rfl
  have hfull : m.isEmpty = false := by
    rw [PropertyMap.isEmpty, hm]
    rfl
  rw [print, hfull, if_neg Bool.false_ne_true, String.toList_ofList, hm]
  exact congrArg ('{' :: ·) (hmembers es e)

/-- A member is read, and then there is another one, or the end. -/
theorem members_member (steps : Nat) (before : List (Scalar × Document)) (e : String × String)
    (t : List Char) :
    members (steps + 2) before (memberText e ++ t) =
      match skipSpace t with
      | '}' :: rest => .ok (.mapping (Entries.put (.text e.1) (.text e.2) before), rest)
      | ',' :: r => members (steps + 1) (Entries.put (.text e.1) (.text e.2) before) (skipSpace r)
      | r => .error (.fault .expectingComma r) := by
  have hname : stringBody (memberText e ++ t) 0 (e.1.toList.flatMap stringChar ++ '"' ::
      (':' :: ' ' :: (string e.2 ++ t))) = .ok (e.1.toList, ':' :: ' ' :: (string e.2 ++ t)) :=
    stringBody_string ..
  have htext : memberText e ++ t =
      '"' :: (e.1.toList.flatMap stringChar ++ '"' :: (':' :: ' ' :: (string e.2 ++ t))) := by
    simp only [memberText, string, List.cons_append, List.append_assoc, List.nil_append]
  have hcolon : skipSpace (':' :: ' ' :: (string e.2 ++ t)) = ':' :: ' ' :: (string e.2 ++ t) := rfl
  have hvalue : skipSpace (' ' :: (string e.2 ++ t)) = string e.2 ++ t := rfl
  rw [htext] at hname ⊢
  rw [members]
  simp only [hname, bind, Except.bind, hcolon, hvalue, value_string, String.ofList_toList]
  rfl

/-- The members of an object are read one by one.  Each of them takes a step, and so does
its value. -/
theorem members_membersText (steps : Nat) (rest : List Char) :
    ∀ {es before : List (String × String)} {e : String × String},
      (Entries.keys (before ++ e :: es)).Nodup →
        members (steps + es.length + 2) (before.map memberOf)
            (memberText e ++ (membersText es ++ rest)) =
          .ok (.mapping ((before ++ e :: es).map memberOf), rest) := by
  intro es
  induction es with
  | nil =>
      intro before e hd
      rw [members_member, Entries.put_memberOf (Entries.not_mem_keys_of_nodup hd)]
      rfl
  | cons f es ih =>
      intro before e hd
      have hmove : before ++ e :: f :: es = (before ++ [e]) ++ f :: es := by
        rw [List.append_assoc, List.singleton_append]
      have htext : membersText (f :: es) ++ rest =
          ',' :: '\n' :: ' ' :: ' ' :: (memberText f ++ (membersText es ++ rest)) := by
        simp only [membersText, member, memberText, List.cons_append, List.append_assoc]
      have hcomma : ∀ s : List Char, skipSpace (',' :: s) = ',' :: s := fun _ => rfl
      have hname : skipSpace ('\n' :: ' ' :: ' ' :: (memberText f ++ (membersText es ++ rest))) =
          memberText f ++ (membersText es ++ rest) := rfl
      have hstep := members_member (steps + es.length + 1) (before.map memberOf) e
        (membersText (f :: es) ++ rest)
      rw [Entries.put_memberOf (Entries.not_mem_keys_of_nodup hd)] at hstep
      refine hstep.trans ?_
      rw [htext, hcomma]
      simp only [hname]
      rw [hmove] at hd ⊢
      exact ih hd

/-- Each member is longer than the step that it takes. -/
theorem length_le_membersText (es : List (String × String)) :
    es.length ≤ (membersText es).length := by
  induction es with
  | nil => exact Nat.zero_le _
  | cons e es ih =>
      rw [membersText, List.length_cons, List.length_append, List.length_cons]
      omega

theorem print_empty {m : PropertyMap} (hm : m.entries = []) : print m = "\x7b\x7d" := by
  rw [print, PropertyMap.isEmpty, hm]
  rfl

/-- What is printed of a map is read as its document. -/
theorem readChars_print (m : PropertyMap) : readChars (print m).toList = .ok m.document := by
  cases hm : m.entries with
  | nil =>
      rw [print_empty hm, PropertyMap.document, hm]
      rfl
  | cons e es =>
      have hd : (Entries.keys ([] ++ e :: es)).Nodup := hm ▸ m.distinct
      have hmembers : ∀ steps, members (steps + es.length + 2) []
          (memberText e ++ membersText es) = .ok (.mapping ((e :: es).map memberOf), []) := by
        intro steps
        have hread := members_membersText steps [] hd
        rwa [List.append_nil] at hread
      have hobject : ∀ steps, value (steps + 1)
          ('{' :: '\n' :: ' ' :: ' ' :: (memberText e ++ membersText es)) =
            members steps [] (memberText e ++ membersText es) := fun _ => rfl
      have hlength := length_le_membersText es
      obtain ⟨steps, hsteps⟩ : ∃ steps, 2 * ('{' :: '\n' :: ' ' :: ' ' ::
          (memberText e ++ membersText es)).length + 2 = steps + es.length + 2 + 1 := by
        simp only [List.length_cons, List.length_append]
        exact ⟨2 * (memberText e).length + 2 * (membersText es).length + 7 - es.length, by omega⟩
      rw [print_cons hm, PropertyMap.document, hm]
      show (value (2 * _ + 2) ('{' :: '\n' :: ' ' :: ' ' :: (memberText e ++ membersText es))).bind
        _ = _
      rw [hsteps, hobject, hmembers]
      rfl

/-! ## The text of a printed map -/

theorem isPlain_memberText (e : String × String) : ∀ c ∈ memberText e, isPlain c = true := by
  simp only [memberText, List.forall_mem_append, List.forall_mem_cons]
  exact ⟨isPlain_string e.1, rfl, rfl, isPlain_string e.2⟩

theorem isPlain_membersText (es : List (String × String)) :
    ∀ c ∈ membersText es, isPlain c = true := by
  induction es with
  | nil => exact List.all_eq_true.1 rfl
  | cons e es ih =>
      have hmember : member e = '\n' :: ' ' :: ' ' :: memberText e := rfl
      simp only [membersText, hmember, List.cons_append, List.forall_mem_append,
        List.forall_mem_cons]
      exact ⟨rfl, rfl, rfl, rfl, isPlain_memberText e, ih⟩

/-- A printed map is a plain text that begins with a brace. -/
theorem print_plain (m : PropertyMap) :
    (∀ c ∈ (print m).toList, isPlain c = true) ∧ '{' ∈ (print m).toList := by
  cases hm : m.entries with
  | nil =>
      rw [print_empty hm]
      exact ⟨List.all_eq_true.1 rfl, List.mem_cons_self ..⟩
  | cons e es =>
      rw [print_cons hm]
      simp only [List.forall_mem_append, List.forall_mem_cons]
      exact ⟨⟨rfl, rfl, rfl, rfl, isPlain_memberText e, isPlain_membersText es⟩,
        List.mem_cons_self ..⟩

end Json

/-! ## Plain texts as files -/

theorem Json.isAscii_of_isPlain {c : Char} (hc : isPlain c = true) : c.toNat < 0x80 := by
  simp only [isPlain, Bool.or_eq_true, Bool.and_eq_true, decide_eq_true_eq, beq_iff_eq] at hc
  rcases hc with hc | rfl
  · omega
  · decide

/-- A text in ASCII has a byte for each character. -/
theorem Codec.Utf8.decode_encode_ascii {s : List Char} (hs : ∀ c ∈ s, c.toNat < 0x80) :
    decode (encode s) = .ok s := by
  have hdecode : ∀ {s : List Char}, (∀ c ∈ s, c.toNat < 0x80) → ∀ place,
      decodeFrom "utf-8" head place 0 (encode s) = .ok s := by
    intro s
    induction s with
    | nil => exact fun _ _ => rfl
    | cons c rest ih =>
        intro hs place
        rw [List.forall_mem_cons] at hs
        have hbyte : (UInt8.ofNat c.toNat).toNat = c.toNat := by
          rw [UInt8.toNat_ofNat']
          omega
        have hhead : head (UInt8.ofNat c.toNat) (encode rest) = .char c 0 := by
          unfold head
          simp only [hbyte, hs.1, if_true, Char.ofNat_toNat]
        have hencode : encode (c :: rest) = UInt8.ofNat c.toNat :: encode rest := by
          rw [encode, List.flatMap_cons, encodeChar, if_pos hs.1]
          rfl
        rw [hencode, decodeFrom, hhead]
        simp only [ih hs.2]
  exact hdecode hs 0

/-- A text without carriage returns has its line ends already. -/
theorem Text.unifyLineEnds_eq_self {s : List Char} (hs : '\r' ∉ s) : unifyLineEnds s = s := by
  induction s with
  | nil => rfl
  | cons c rest ih =>
      rw [List.mem_cons, not_or] at hs
      have hc : c ≠ '\r' := Ne.symm hs.1
      rw [unifyLineEnds, if_neg (by simpa using hc), ih hs.2]
      exact fun _ h _ => hc h

/-- An encoding that is found under any of its names decodes by the decoder of the library,
and where there is none by that of the system. -/
theorem Codec.decode_of_lookup? {others : Decoders} {name : String} {e : Entry}
    {d : List UInt8 → Except Fault (List Char)} (he : lookup? name = some e)
    (htext : e.isText = true) (hd : (decoder? e.name).or (others e.name) = some d)
    (bytes : List UInt8) : decode others name bytes = (d bytes).mapError .fault := by
  unfold decode
  rw [he]
  simp only [htext, hd, Bool.not_true, Bool.false_eq_true, if_false]
  cases d bytes <;> rfl

theorem Codec.decode_utf8 {others : Decoders} {bytes : List UInt8} {s : List Char}
    (hs : Utf8.decode bytes = .ok s) : decode others "utf-8" bytes = .ok s := by
  have hlookup : (lookup? "utf-8").map (fun e => (e.name, e.isText)) = some ("utf-8", true) := by
    decide +kernel
  obtain ⟨e, he, hnamed⟩ := Option.map_eq_some_iff.1 hlookup
  obtain ⟨hname, htext⟩ := Prod.mk.inj hnamed
  rw [decode_of_lookup? he htext (d := Utf8.decode) (by rw [hname]; rfl), hs]
  rfl

/-! ## Documents of texts -/

namespace PropertyMap

/-- Texts stand for themselves when a mapping is flattened. -/
theorem flattenOver_members (flat : PropertyMap) (es : List (String × String)) :
    Document.flattenOver flat "" (es.map memberOf) = flat.insertAll es := by
  induction es generalizing flat with
  | nil =>
      rw [List.map_nil, Document.flattenOver]
      rfl
  | cons e es ih =>
      rw [List.map_cons, memberOf, Document.text, Document.flattenOver]
      · exact ih (flat.insert e.1 e.2)
      · intro _ h
        cases h
      · intro h
        cases h

theorem flatten_document (m : PropertyMap) :
    SettingsFile.flatten (m.entries.map memberOf) "" = .ok m := by
  have hfree : ∀ es : List (String × String),
      Document.entriesObstacle? (es.map memberOf) = none := by
    intro es
    induction es with
    | nil => rw [List.map_nil, Document.entriesObstacle?]
    | cons e es ih =>
        rw [List.map_cons, memberOf, Document.text, Document.entriesObstacle?]
        · exact ih
        · intro _ h
          cases h
        · intro _ h
          cases h
  rw [SettingsFile.flatten, hfree, Document.flatten, flattenOver_members]
  exact congrArg Except.ok (ofList_entries m)

end PropertyMap

/-! ## Files -/

namespace SettingsFile

variable {others : Codec.Decoders}

theorem text_of_decode {t : FileTree} {p : Path} {encoding : String} {bytes : List UInt8}
    {s : List Char} (hnull : encoding.toList.contains '\x00' = false)
    (hread : t.read p = .ok bytes) (hdecode : Codec.decode others encoding bytes = .ok s) :
    text others t p encoding = .ok (Text.unifyLineEnds s) := by
  rw [text, hnull, if_neg Bool.false_ne_true, hread]
  simp only [hdecode]

/-- A plain file is read in UTF-8 as it is. -/
theorem text_plain {t : FileTree} {p : Path} {s : List Char}
    (hs : ∀ c ∈ s, Json.isPlain c = true) (hread : t.read p = .ok (Codec.Utf8.encode s)) :
    text others t p "utf-8" = .ok s := by
  have hdecode : Codec.decode others "utf-8" (Codec.Utf8.encode s) = .ok s :=
    Codec.decode_utf8 (Codec.Utf8.decode_encode_ascii fun c hc => Json.isAscii_of_isPlain (hs c hc))
  have hreturn : '\r' ∉ s := fun hmem => absurd (hs _ hmem) (by decide)
  rw [text_of_decode (by decide) hread hdecode, Text.unifyLineEnds_eq_self hreturn]

/-- A map that is printed into a JSON file is loaded from it. -/
theorem load_print {t : FileTree} {p : Path} {m : PropertyMap} (hformat : formatOf p = .json)
    (hread : t.read p = .ok (Codec.Utf8.encode (Json.print m).toList)) :
    load others t p "utf-8" = .ok m := by
  obtain ⟨hplain, hbrace⟩ := Json.print_plain m
  have hblank : (Json.print m).toList.all Text.isBlank = false :=
    List.all_eq_false.2 ⟨'{', hbrace, by decide⟩
  have hdocument : jsonDocument p (Json.print m).toList = .ok m.document := by
    rw [jsonDocument, hblank, if_neg Bool.false_ne_true, Json.readChars_print]
  unfold load
  rw [text_plain hplain hread, hformat]
  simp only [hdocument]
  exact m.flatten_document

end SettingsFile

namespace Config

/-- A configuration that is written as JSON, into a file with the suffix of JSON, is
loaded with exactly its own properties, in their order. -/
theorem format_json_load {c : Config} {m : PropertyMap} (hm : c.properties = .ok m) :
    ∃ text, c.format "json" = .ok text ∧
      ∀ (others : Codec.Decoders) (t : FileTree) (p : Path),
        Text.lower p.suffix = ".json".toList → t.read p = .ok (Codec.Utf8.encode text.toList) →
          SettingsFile.load others t p "utf-8" = .ok m := by
  have hformat : c.format "json" = .ok (Json.print m) := by
    rw [format, hm]
    rfl
  refine ⟨Json.print m, hformat, fun others t p hsuffix hread => ?_⟩
  have hjson : SettingsFile.formatOf p = .json := by
    simp only [SettingsFile.formatOf, hsuffix]
    decide
  exact SettingsFile.load_print hjson hread

/-- Quotes, line ends and characters beyond ASCII come back, in a name and in a value. -/
theorem format_json_load_escaped :
    let c := ((apply (.ofList [("flyway.placeholders.\"ü\"", "a\\\n\t😀\x7f")]) propertyRoot).run
      ⟨new .community ⟨0, none⟩, .bare⟩).2.config
    ∃ m text, c.properties = .ok m ∧
      m.get? "flyway.placeholders.\"ü\"" = some "a\\\n\t😀\x7f" ∧ c.format "json" = .ok text ∧
        SettingsFile.load .absent
          ⟨[(["c.JSON"], .file (Codec.Utf8.encode text.toList))]⟩ ⟨"", ["c.JSON"]⟩ "utf-8" =
            .ok m := by
  intro c
  have hseen : c.properties.toOption.map (fun m => m.get? "flyway.placeholders.\"ü\"") =
      some (some "a\\\n\t😀\x7f") := by
    decide +kernel
  have hread : ∀ bytes, FileTree.read ⟨[(["c.JSON"], .file bytes)]⟩ ⟨"", ["c.JSON"]⟩ =
      .ok bytes := by
    intro bytes
    have hnull : FileTree.hasNull ⟨"", ["c.JSON"]⟩ = false := by decide +kernel
    have hlocate : FileTree.locate ⟨[(["c.JSON"], .file bytes)]⟩ ⟨"", ["c.JSON"]⟩ =
        .ok ["c.JSON"] := by
      rw [FileTree.locate, if_neg (by decide +kernel)]
      show (if FileTree.nameLimit < "c.JSON".utf8ByteSize then .error .nameTooLong
        else .ok ["c.JSON"]) = (.ok ["c.JSON"] : Except FileTrouble Location)
      exact if_neg (by decide +kernel)
    rw [FileTree.read, hnull, if_neg Bool.false_ne_true, hlocate]
    rfl
  cases hm : c.properties with
  | error e =>
      rw [hm] at hseen
      cases hseen
  | ok m =>
      rw [hm] at hseen
      obtain ⟨text, htext, hload⟩ := format_json_load hm
      exact ⟨m, text, rfl, Option.some.inj hseen, htext,
        hload _ _ _ (by decide +kernel) (hread _)⟩

end Config

end MigrationConfig
