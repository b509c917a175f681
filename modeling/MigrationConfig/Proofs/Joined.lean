/-
# Settings files joined to one

Properties files that are loaded one after the other come to the same as one file
with all their texts, each on a new line below the one before.  Where a file ends
does not matter then, as long as it does not end inside a line that goes on; that
line would take the first line of the next file along.

The texts are those that the files are decoded to, with line feeds for all line
ends.  Nothing is said of the bytes, for an encoding with a mark in front does not
join byte by byte.
-/
import MigrationConfig.Proofs.Loading
import MigrationConfig.Proofs.Printed
import MigrationConfig.Proofs.Scan

namespace MigrationConfig.SettingsFile

open PropertiesText (Closed read read_append)

variable {others : Codec.Decoders} {t : FileTree} {encoding : String} {p : Path} {cs : List Char}

/-- What has been read is a file that can be asked for. -/
theorem isFile_of_read {bytes : List UInt8} (h : t.read p = .ok bytes) :
    t.obstacle? p = none ∧ t.isFile p = true := by
  unfold FileTree.read at h
  cases hnull : FileTree.hasNull p with
  | true => simp [hnull] at h
  | false =>
      rw [hnull, if_neg Bool.false_ne_true] at h
      cases hl : t.locate p with
      | error e => simp [hl, Except.bind] at h
      | ok l =>
          simp only [hl, Except.bind, FileTree.bytesAt] at h
          cases hn : t.node? l with
          | none => simp [hn] at h
          | some n =>
              cases n with
              | directory a => cases ha : a.reading <;> simp [hn, FileNode.access, ha] at h
              | file bytes' a =>
                  simp [FileTree.obstacle?, FileTree.isFile, FileTree.find?, hnull, hl, hn]

theorem isFile_of_text (h : text others t p encoding = .ok cs) :
    t.obstacle? p = none ∧ t.isFile p = true := by
  unfold text at h
  split at h
  · cases h
  · split at h
    · cases h
    · cases h
    · next hread => exact isFile_of_read hread

/-- The file of a path is read as properties, and this is its text. -/
structure HoldsProperties (others : Codec.Decoders) (t : FileTree) (encoding : String) (p : Path)
    (cs : List Char) : Prop where
  format : formatOf p = .properties
  text : text others t p encoding = .ok cs

theorem HoldsProperties.fetch (hp : HoldsProperties others t encoding p cs) (areRequired : Bool) :
    fetch others t encoding areRequired p = .ok (some (PropertiesText.read cs), [.fileRead p]) := by
  obtain ⟨hanswered, hfile⟩ := isFile_of_text hp.text
  have hload : load others t p encoding = .ok (PropertiesText.read cs) := by
    rw [load, hp.text, hp.format]
  rw [SettingsFile.fetch, hanswered, hfile, hload]
  rfl

/-- Files of which only the last may end inside a line that goes on are loaded as their
texts one below the other. -/
theorem loadAll_of_holds {files : List Path} {texts : List (List Char)}
    (hfiles : List.Forall₂ (HoldsProperties others t encoding) files texts)
    (hclosed : ∀ s ∈ texts.dropLast, Closed s) (areRequired : Bool) :
    ∀ {h : Host} (loaded : PropertyMap), h.decoders = others → h.files = t →
      ((loadAll encoding areRequired loaded files).run h).1 =
        .ok (loaded.union (read (List.intercalate ['\n'] texts))) := by
  induction hfiles with
  | nil => exact fun _ _ _ => rfl
  | @cons p s files texts hp _ ih =>
      intro h loaded hd hh
      have hstep : (loadAll encoding areRequired loaded (p :: files)).run h =
          (loadAll encoding areRequired (loaded.union (read s)) files).run
            (h.logged [.fileRead p]) := by
        rw [loadAll_cons_run, hd, hh, hp.fetch areRequired]
        rfl
      have hjoined : read (List.intercalate ['\n'] (s :: texts)) =
          (read s).union (read (List.intercalate ['\n'] texts)) := by
        cases texts with
        | nil =>
            rw [List.intercalate_singleton]
            rfl
        | cons s' texts =>
            rw [List.intercalate_cons_cons, List.append_assoc, List.singleton_append,
              read_append (hclosed s (by simp))]
      have hlater : ∀ s' ∈ texts.dropLast, Closed s' := by
        cases texts with
        | nil => simp
        | cons s' texts => exact fun s₁ hs₁ => hclosed s₁ (List.mem_cons_of_mem _ hs₁)
      have hrest := ih hlater (h := h.logged [.fileRead p]) (loaded.union (read s)) hd hh
      rw [hstep, hrest, hjoined, PropertyMap.union_assoc]

/-- Behind a closed text another one is read as if it stood alone, and overrides it: its
values count, and its new keys follow those that are there.  Hence properties files that
are loaded in order come to the same as one file with their texts one below the other. -/
theorem loadAll_joined (h : Host) (encoding : String) (areRequired : Bool) :
    (∀ s t : List Char, Closed s →
      read (s ++ '\n' :: t) = (read s).union (read t) ∧
        (read (s ++ '\n' :: t)).keys =
          (read s).keys ++ (read t).keys.filter (fun k => ((read s).get? k).isNone) ∧
        ∀ k, (read (s ++ '\n' :: t)).get? k = ((read t).get? k).or ((read s).get? k)) ∧
      ∀ (files : List Path) (texts : List (List Char)) (whole : Path),
        List.Forall₂ (HoldsProperties h.decoders h.files encoding) files texts →
        (∀ s ∈ texts.dropLast, Closed s) →
        HoldsProperties h.decoders h.files encoding whole (List.intercalate ['\n'] texts) →
          ((loadAll encoding areRequired .empty files).run h).1 =
              .ok (read (List.intercalate ['\n'] texts)) ∧
            ((loadAll encoding areRequired .empty [whole]).run h).1 =
              .ok (read (List.intercalate ['\n'] texts)) := by
  refine ⟨fun s t hs => ?_, fun files texts whole hfiles hclosed hwhole => ?_⟩
  · rw [read_append hs t]
    exact ⟨rfl, PropertyMap.keys_union _ _, PropertyMap.get?_union _ _⟩
  have hone : List.Forall₂ (HoldsProperties h.decoders h.files encoding) [whole]
      [List.intercalate ['\n'] texts] := .cons hwhole .nil
  have hjoined := loadAll_of_holds hfiles hclosed areRequired .empty (h := h) rfl rfl
  have hwhole := loadAll_of_holds hone (by simp) areRequired .empty (h := h) rfl rfl
  rw [PropertyMap.empty_union] at hjoined hwhole
  rw [List.intercalate_singleton] at hwhole
  exact ⟨hjoined, hwhole⟩

/-- A comment that ends in a backslash does not reach the next file, whose value for a key
counts and whose new key comes last. -/
theorem loadAll_joined_comment :
    let first := "a=1\n# end \\".toList
    let second := "b : 2\na=\\\n  3".toList
    let h : Host := { Host.bare with
      files := ⟨[(["1.conf"], .file (Codec.Utf8.encode first)),
        (["2.conf"], .file (Codec.Utf8.encode second)),
        (["12.conf"], .file (Codec.Utf8.encode (first ++ '\n' :: second)))]⟩ }
    let m : PropertyMap := .ofList [("a", "3"), ("b", "2")]
    Closed first ∧ (read first).union (read second) = m ∧ read (first ++ '\n' :: second) = m ∧
      ((loadAll "utf-8" true .empty [⟨"", ["1.conf"]⟩, ⟨"", ["2.conf"]⟩]).run h).1 = .ok m ∧
        ((loadAll "utf-8" true .empty [⟨"", ["12.conf"]⟩]).run h).1 = .ok m := by
  intro first second h m
  obtain ⟨happend, hload⟩ := loadAll_joined h "utf-8" true
  have hclosed : Closed first := by decide +kernel
  have hunion : (read first).union (read second) = m := by decide +kernel
  have holds : ∀ {p : Path} {cs : List Char}, formatOf p = .properties →
      (h.files.read p).toOption = some (Codec.Utf8.encode cs) →
      (∀ c ∈ cs, c.toNat < 0x80 ∧ c ≠ '\r') → HoldsProperties h.decoders h.files "utf-8" p cs := by
    intro p cs hformat hread hcs
    refine ⟨hformat, ?_⟩
    cases hr : h.files.read p with
    | error e =>
        rw [hr] at hread
        cases hread
    | ok bytes =>
        rw [hr] at hread
        obtain rfl := Option.some.inj hread
        have hdecode : Codec.decode h.decoders "utf-8" (Codec.Utf8.encode cs) = .ok cs :=
          Codec.decode_utf8 (Codec.Utf8.decode_encode_ascii fun c hc => (hcs c hc).1)
        rw [text_of_decode (by decide) hr hdecode,
          Text.unifyLineEnds_eq_self fun hmem => (hcs _ hmem).2 rfl]
  have hfirst : HoldsProperties h.decoders h.files "utf-8" ⟨"", ["1.conf"]⟩ first :=
    holds (by decide +kernel) (by decide +kernel)
      (List.forall_iff_forall_mem.1 (by decide +kernel))
  have hsecond : HoldsProperties h.decoders h.files "utf-8" ⟨"", ["2.conf"]⟩ second :=
    holds (by decide +kernel) (by decide +kernel)
      (List.forall_iff_forall_mem.1 (by decide +kernel))
  have hwhole : HoldsProperties h.decoders h.files "utf-8" ⟨"", ["12.conf"]⟩
      (first ++ '\n' :: second) :=
    holds (by decide +kernel) (by decide +kernel)
      (List.forall_iff_forall_mem.1 (by decide +kernel))
  have hjoined : List.intercalate ['\n'] [first, second] = first ++ '\n' :: second := by
    rw [List.intercalate_cons_cons, List.intercalate_singleton, List.append_assoc]
    rfl
  have hread : read (first ++ '\n' :: second) = m :=
    (happend first second hclosed).1.trans hunion
  obtain ⟨hfiles, hone⟩ := hload _ [first, second] ⟨"", ["12.conf"]⟩
    (.cons hfirst (.cons hsecond .nil)) (by simpa using hclosed) (hjoined ▸ hwhole)
  rw [hjoined, hread] at hfiles hone
  exact ⟨hclosed, hunion, hread, hfiles, hone⟩

end MigrationConfig.SettingsFile
