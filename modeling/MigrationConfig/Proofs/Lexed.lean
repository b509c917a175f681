/-
# Where YAML tokens fail

A text is cut into tokens, and tokens are parsed to a graph.  Nearly whatever does not fit
makes the text malformed; but two numbers are taken out of it on the way, and these may be
too large: the one in an escape of a quoted text, and the ones of a version directive.

The theorem (`Graph.parse_fault`) says that there is no third: where the graph of a text
fails for a value, such an escape or such a directive stands in the text.  All readers go
forward, so what stands behind a cursor is the end of the text, and this is the invariant
that carries the proof (`Cursor.Within`).
-/
import Mathlib.Algebra.Ring.Nat
import Mathlib.Data.List.TakeWhile
import MigrationConfig.Proofs.Yields
import MigrationConfig.Yaml.Parse

namespace MigrationConfig.Yaml

variable {s : List Char}

/-! ## Cursors in a text -/

namespace Cursor

variable {c : Cursor}

@[simp] theorem step_rest (c : Cursor) : c.step.rest = c.rest.tail := by
  unfold step
  split
  · next h => rw [h, List.tail_nil]
  · next h =>
      rw [h]
      split <;> rfl

@[simp] theorem skip_rest (c : Cursor) (n : Nat) : (c.skip n).rest = c.rest.drop n := by
  induction n generalizing c with
  | zero => rfl
  | succ n ih => rw [skip, ih, step_rest, List.drop_tail]

/-- A run and what follows it. -/
theorem span_rest (c : Cursor) (p : Char → Bool) :
    (c.span p).1 ++ (c.span p).2.rest = c.rest := by
  rw [span]
  simp only [skip_rest]
  exact List.prefix_iff_eq_append.1 (List.takeWhile_prefix p)

theorem rest_of_next {x : Char} (h : c.next? = some x) : c.rest = x :: c.step.rest := by
  obtain ⟨r, hr⟩ := List.head?_eq_some_iff.1 h
  rw [step_rest, hr, List.tail_cons]

theorem next_of_sees {x : Char} (h : c.sees (· == x) = true) : c.next? = some x := by
  obtain ⟨y, hy, hyx⟩ := (Option.any_eq_true _ _).1 h
  rw [next?, hy, eq_of_beq hyx]

/-- What stands behind the cursor is the end of a text. -/
def Within (s : List Char) (c : Cursor) : Prop := c.rest <:+ s

namespace Within

theorem start : (Cursor.start s).Within s := List.suffix_refl s

theorem step (h : c.Within s) : c.step.Within s := by
  rw [Within, step_rest]
  exact (List.tail_suffix _).trans h

theorem skip (h : c.Within s) (n : Nat) : (c.skip n).Within s := by
  rw [Within, skip_rest]
  exact (List.drop_suffix n _).trans h

theorem span (h : c.Within s) (p : Char → Bool) : (c.span p).2.Within s := h.skip _

theorem skipWhile (h : c.Within s) (p : Char → Bool) : (c.skipWhile p).Within s := h.span p

theorem skipComment (h : c.Within s) : c.skipComment.Within s := by
  unfold Cursor.skipComment
  split
  · exact h.skipWhile _
  · exact h

theorem lineEnd {e : Char} {d : Cursor} (h : c.Within s) (hend : c.lineEnd? = some (e, d)) :
    d.Within s := by
  unfold Cursor.lineEnd? at hend
  split at hend
  · cases hend
  · split at hend
    · cases hend
    · split at hend
      · cases hend
        exact h.skip 2
      · split at hend <;>
        · cases hend
          exact h.step

/-- The place behind a line end, or the same place if there is none. -/
theorem pastLineEnd (h : c.Within s) : ((c.lineEnd?.map Prod.snd).getD c).Within s := by
  cases hend : c.lineEnd? with
  | none => exact h
  | some e => exact h.lineEnd hend

end Within

end Cursor

/-! ## Numbers that are too large -/

/-- A number in a text is too large: that of an escape lies beyond all characters, or one
in a version directive has too many digits. -/
inductive Unreadable (s : List Char) : ValueFault → Prop where
  | escape {before digits : List Char} {n : Nat} (hs : s = before ++ '\\' :: 'U' :: digits)
      (hn : QuotedText.hexNumber? 8 digits = some n) (hlarge : 0x110000 ≤ n) :
      Unreadable s (if n < 0x80000000 then .noSuchCharacter else .characterTooLarge)
  | directive {before between ds rest : List Char}
      (hs : s = before ++ '%' :: ("YAML".toList ++ (between ++ (ds ++ rest))))
      (hbetween : ∀ c ∈ between, c = ' ' ∨ c = '.' ∨ Text.isDigit c = true)
      (hds : ∀ d ∈ ds, Text.isDigit d = true) (hlong : Text.digitLimit < ds.length) :
      Unreadable s (.tooManyDigits ds.length)

/-- A reading of a text yields only what has a property, and fails for a value only if this
stands in the text. -/
abbrev Reads (s : List Char) {α : Type} (p : α → Prop) (r : Except Fault α) : Prop :=
  Yields (Unreadable s) p r

/-- A part that was read, and a place in the text behind it. -/
abbrev ReadsPart (s : List Char) {α : Type} (r : Except Fault (α × Cursor)) : Prop :=
  Reads s (fun x => x.2.Within s) r

/-! ## Quoted texts -/

namespace QuotedText

variable {c : Cursor}

theorem hexValue?_lt {x : Char} {d : Nat} (h : Text.hexValue? x = some d) : d < 16 := by
  unfold Text.hexValue? at h
  simp only [Bool.and_eq_true, decide_eq_true_eq] at h
  split at h
  · cases h
    omega
  · split at h
    · cases h
      omega
    · split at h
      · cases h
        omega
      · cases h

/-- Behind a character that is no digit there is no number. -/
theorem hexDigits_none (ds : List Char) :
    ds.foldl (fun n c => n.bind fun n => (Text.hexValue? c).map fun d => 16 * n + d)
      (none : Option Nat) = none := by
  induction ds with
  | nil => rfl
  | cons x ds ih => exact ih

/-- The digits behind a number `m` bring it up to less than its successor followed by
zeros. -/
theorem hexDigits_lt {ds : List Char} {m n : Nat}
    (h : ds.foldl (fun n c => n.bind fun n => (Text.hexValue? c).map fun d => 16 * n + d)
      (some m) = some n) : n < (m + 1) * 16 ^ ds.length := by
  induction ds generalizing m with
  | nil =>
      cases h
      simp
  | cons x ds ih =>
      rw [List.foldl_cons, Option.bind_some] at h
      cases hd : Text.hexValue? x with
      | none =>
          rw [hd, Option.map_none, hexDigits_none] at h
          cases h
      | some d =>
          rw [hd, Option.map_some] at h
          calc n < (16 * m + d + 1) * 16 ^ ds.length := ih h
            _ ≤ ((m + 1) * 16) * 16 ^ ds.length := by
                have := hexValue?_lt hd
                exact Nat.mul_le_mul_right _ (by omega)
            _ = (m + 1) * 16 ^ (x :: ds).length := by
                rw [List.length_cons, Nat.pow_succ, Nat.mul_assoc, Nat.mul_comm 16]

theorem hexNumber?_lt {width n : Nat} {t : List Char} (h : hexNumber? width t = some n) :
    n < 16 ^ width := by
  unfold hexNumber? at h
  dsimp only at h
  split at h
  · next hlength =>
      have hlt := hexDigits_lt h
      rwa [eq_of_beq hlength, Nat.zero_add, Nat.one_mul] at hlt
  · cases h

theorem charOf_fails {n : Nat} {f : ValueFault} (h : charOf n = .error (.value f)) :
    0x110000 ≤ n ∧ f = if n < 0x80000000 then .noSuchCharacter else .characterTooLarge := by
  unfold charOf at h
  split at h
  · cases h
  · split at h
    · cases h
    · next hn =>
        refine ⟨Nat.le_of_not_lt hn, ?_⟩
        split at h
        · next hsmall =>
            cases h
            rw [if_pos hsmall]
        · next hlarge =>
            cases h
            rw [if_neg hlarge]

/-- The width of an escape leaves room for what is no character in one case only. -/
theorem eq_of_numberWidth? {x : Char} {width n : Nat} (h : numberWidth? x = some width)
    (hn : n < 16 ^ width) (hlarge : 0x110000 ≤ n) : x = 'U' ∧ width = 8 := by
  unfold numberWidth? at h
  split at h
  · cases h
    omega
  · cases h
    omega
  · cases h
    exact ⟨rfl, rfl⟩
  · cases h

theorem emptyLines_reads {c : Cursor} (h : c.Within s) (k : Nat) :
    ReadsPart s (emptyLines k c) := by
  induction k generalizing c with
  | zero => exact .ok h
  | succ k ih =>
      rw [emptyLines]
      refine .ite (fun _ => .malformed) fun _ => ?_
      dsimp only
      split
      · exact .ok (h.skipWhile _)
      · next hend => exact (ih ((h.skipWhile _).lineEnd hend)).map fun _ hd => hd

theorem escape_reads {c : Cursor} (h : c.Within s) (hslash : c.next? = some '\\') :
    ReadsPart s (escape c.step) := by
  unfold escape
  split
  · exact .malformed
  · next x hx =>
      split
      · exact .ok h.step.step
      · next width _ hwidth =>
          split
          · exact .malformed
          · next n hn =>
              cases hchar : charOf n with
              | ok y => exact .ok (h.step.skip _)
              | error e =>
                  cases e with
                  | malformed => exact .malformed
                  | value f =>
                      obtain ⟨hlarge, rfl⟩ := charOf_fails hchar
                      obtain ⟨rfl, rfl⟩ := eq_of_numberWidth? hwidth (hexNumber?_lt hn) hlarge
                      obtain ⟨before, hs⟩ := h
                      have hescape : s = before ++ '\\' :: 'U' :: c.step.rest.drop 1 := by
                        rw [← hs, Cursor.rest_of_next hslash, Cursor.rest_of_next hx]
                        rfl
                      exact .value (.escape hescape hn hlarge)
      · split
        · exact .malformed
        · next hend => exact emptyLines_reads (h.step.lineEnd hend) _

theorem blanks_reads {c : Cursor} (h : c.Within s) : ReadsPart s (blanks c) := by
  unfold blanks
  dsimp only
  refine .ite (fun _ => .malformed) fun _ => ?_
  split
  · exact .ok (h.span _)
  · next hend => exact (emptyLines_reads ((h.span _).lineEnd hend) _).map fun _ hd => hd

theorem afterQuote_reads {double : Bool} {c : Cursor} (h : c.Within s) (k : Nat) :
    ReadsPart s (afterQuote double k c) := by
  induction k generalizing c with
  | zero => exact .malformed
  | succ k ih =>
      have hpart : ∀ {part : Except Fault (List Char × Cursor)}, ReadsPart s part →
          ReadsPart s (do
            let x ← part
            let y ← afterQuote double k x.2
            return (x.1 ++ y.1, y.2)) := fun hpart =>
        hpart.bind fun _ hd => (ih hd).bind fun _ hd => .ok hd
      rw [afterQuote]
      split
      · exact .malformed
      · next x hx =>
          dsimp only
          refine .ite (fun _ => hpart (blanks_reads h)) fun _ => ?_
          refine .ite (fun hslash => hpart (escape_reads h ?_)) fun _ => ?_
          · rw [Bool.and_eq_true, beq_iff_eq] at hslash
            rw [hx, hslash.2]
          · refine .ite (fun _ => .ok h.step) fun _ => ?_
            refine .ite (fun _ => ?_) fun _ => hpart (.ok h.step)
            exact .ite (fun _ => hpart (.ok (h.skip 2))) fun _ => .ok h.step

theorem read_reads {double : Bool} {c : Cursor} (h : c.Within s) :
    ReadsPart s (read double c) := afterQuote_reads h.step _

end QuotedText

/-! ## Block texts and plain texts -/

namespace BlockText

variable {c : Cursor}

theorem header_reads (h : c.Within s) : Reads s (fun x => x.2.2.Within s) (header c) := by
  have hend : ∀ x : Chomping × Option Nat × Cursor, x.2.2.Within s →
      Reads s (fun x : Chomping × Option Nat × Cursor => x.2.2.Within s) (do
        if !x.2.2.endsAt 0 isSpaceOrBreak then throw .malformed
        let c := (x.2.2.skipWhile (· == ' ')).skipComment
        if !c.endsAt 0 isBreak then throw .malformed
        return (x.1, x.2.1, (c.lineEnd?.map Prod.snd).getD c)) := fun x hx =>
    .guard fun _ => .guard fun _ => .ok (hx.skipWhile _).skipComment.pastLineEnd
  have hincrement : ∀ c : Cursor, Reads s (fun _ => True) (increment? c) := by
    intro c
    unfold increment?
    split
    · exact .ok trivial
    · exact .ite (fun _ => .malformed) fun _ => .ite (fun _ => .ok trivial) fun _ => .ok trivial
  unfold header
  cases chomping? c with
  | some ch =>
      refine (hincrement _).bind fun n _ => .bind (.pure ?_) hend
      dsimp only
      split
      · exact h.step.step
      · exact h.step
  | none =>
      refine (hincrement _).bind fun n _ => ?_
      cases n with
      | none => exact .bind (.pure h) hend
      | some n =>
          dsimp only
          cases chomping? c.step with
          | some ch => exact .bind (.pure h.step.step) hend
          | none => exact .bind (.pure h.step) hend

theorem within_toColumn (h : c.Within s) (indent : Nat) : (toColumn indent c).Within s :=
  h.skip _

theorem within_emptyLines {indent : Nat} (k : Nat) (h : c.Within s) :
    (emptyLines indent k c).2.Within s := by
  induction k generalizing c with
  | zero => exact h
  | succ k ih =>
      rw [emptyLines]
      dsimp only
      split
      · exact h.skip _
      · next hend => exact ih ((within_toColumn h indent).lineEnd hend)

theorem within_leadingLines (k : Nat) (h : c.Within s) : (leadingLines k c).2.2.Within s := by
  induction k generalizing c with
  | zero => exact h
  | succ k ih =>
      rw [leadingLines]
      dsimp only
      split
      · exact h.span _
      · next hend => exact ih ((h.span _).lineEnd hend)

theorem within_body {folded : Bool} {indent : Nat} (k : Nat) {ends : List Char}
    (h : c.Within s) : (body folded indent k ends c).cursor.Within s := by
  induction k generalizing c ends with
  | zero => exact h
  | succ k ih =>
      rw [body]
      split
      · exact h
      · have hc := h.span fun x => !isBreak x
        dsimp only
        cases hend : (c.span fun x => !isBreak x).2.lineEnd? with
        | none =>
            dsimp only
            split
            · exact ih (within_emptyLines _ hc)
            · exact within_emptyLines _ hc
        | some e =>
            dsimp only
            split
            · exact ih (within_emptyLines _ (hc.lineEnd hend))
            · exact within_emptyLines _ (hc.lineEnd hend)

theorem read_reads {folded : Bool} {parent : Int} (h : c.Within s) :
    ReadsPart s (read folded parent c) := by
  unfold read
  refine (header_reads h.step).bind ?_
  rintro ⟨chomping, increment, c⟩ hc
  cases increment with
  | some n =>
      dsimp only
      exact .pure (within_body _ (within_emptyLines (c := c) _ hc))
  | none =>
      dsimp only
      exact .pure (within_body _ (within_leadingLines (c := c) _ hc))

end BlockText

namespace PlainText

variable {c : Cursor}

theorem within_word (inFlow : Bool) (k : Nat) (h : c.Within s) : (word inFlow k c).2.Within s := by
  induction k generalizing c with
  | zero => exact h
  | succ k ih =>
      rw [word]
      split
      · exact h
      · exact ih h.step

theorem within_emptyLines (k : Nat) (h : c.Within s) : (emptyLines k c).2.Within s := by
  induction k generalizing c with
  | zero => exact h
  | succ k ih =>
      rw [emptyLines]
      dsimp only
      split
      · exact h.skipWhile _
      · next hend =>
          split
          · exact (h.skipWhile _).lineEnd hend
          · exact ih ((h.skipWhile _).lineEnd hend)

theorem within_gap (h : c.Within s) : (gap c).2.2.Within s := by
  unfold gap
  dsimp only
  split
  · exact h.span _
  · next hend =>
      have hc := (h.span _).lineEnd hend
      split
      · exact hc
      · split
        · exact within_emptyLines _ hc
        · exact within_emptyLines _ hc

theorem within_words {inFlow : Bool} {indent : Int} (k : Nat) {before : List Char}
    {allowsKey : Bool} (h : c.Within s) :
    (words inFlow indent k before allowsKey c).2.2.Within s := by
  induction k generalizing c before allowsKey with
  | zero => exact h
  | succ k ih =>
      have hc := within_gap (within_word inFlow (c.rest.length + 1) h)
      rw [words]
      split
      · exact h
      · dsimp only
        split
        · exact h
        · split
          · exact hc
          · exact ih hc

theorem within_read {inFlow : Bool} {parent : Int} (h : c.Within s) :
    (read inFlow parent c).2.2.Within s := within_words _ h

end PlainText

/-! ## Tokens -/

namespace Lexer

variable {c : Cursor} {l : Lexer}

theorem closeBlocks_cursor (column : Int) (l : Lexer) (outer : List Int) :
    (closeBlocks column l outer).cursor = l.cursor := by
  induction outer generalizing l with
  | nil => rfl
  | cons o outer ih =>
      rw [closeBlocks]
      split
      · exact ih _
      · rfl

theorem unwind_cursor (l : Lexer) (column : Int) : (l.unwind column).cursor = l.cursor := by
  unfold unwind
  split
  · rfl
  · exact closeBlocks_cursor _ _ _

/-- A step that stays where it is. -/
abbrev Stays (s : List Char) (l : Lexer) (r : Except Fault Lexer) : Prop :=
  Reads s (fun l' => l'.cursor = l.cursor) r

theorem dropStale_stays : Stays s l l.dropStale :=
  .ite (fun _ => .malformed) fun _ => .ok rfl

theorem dropKey_stays : Stays s l l.dropKey := .ite (fun _ => .malformed) fun _ => .ok rfl

theorem noteKey_stays : Stays s l l.noteKey :=
  .ite (fun _ => .ok rfl) fun _ => dropKey_stays.bind fun _ h => .pure h

/-- A step that goes on in the text. -/
abbrev ReadsOn (s : List Char) (r : Except Fault Lexer) : Prop :=
  Reads s (fun l => l.cursor.Within s) r

theorem within_skipToToken (k : Nat) (h : l.cursor.Within s) :
    (skipToToken k l).cursor.Within s := by
  induction k generalizing l with
  | zero => exact h
  | succ k ih =>
      have hc := (h.skipWhile (· == ' ')).skipComment
      rw [skipToToken]
      split
      · exact hc
      · next hend => exact ih (hc.lineEnd hend)

/-- The cursor stands in the version directive of a text, in front of a number or behind
one. -/
def InVersion (s : List Char) (c : Cursor) : Prop :=
  ∃ before between, s = before ++ '%' :: ("YAML".toList ++ (between ++ c.rest)) ∧
    ∀ x ∈ between, x = ' ' ∨ x = '.' ∨ Text.isDigit x = true

namespace InVersion

theorem within (h : InVersion s c) : c.Within s := by
  obtain ⟨before, between, rfl, -⟩ := h
  refine ⟨before ++ '%' :: ("YAML".toList ++ between), ?_⟩
  simp only [List.append_assoc, List.cons_append]

theorem of_name (h : c.Within s) (hmark : c.next? = some '%')
    (hname : (c.step.span isWordChar).1 = "YAML".toList) :
    InVersion s (c.step.span isWordChar).2 := by
  obtain ⟨before, rfl⟩ := h
  refine ⟨before, [], ?_, fun x hx => absurd hx List.not_mem_nil⟩
  rw [List.nil_append, ← hname, Cursor.span_rest, Cursor.rest_of_next hmark]

theorem span (h : InVersion s c) {p : Char → Bool}
    (hp : ∀ x, p x = true → x = ' ' ∨ x = '.' ∨ Text.isDigit x = true) :
    InVersion s (c.span p).2 := by
  obtain ⟨before, between, rfl, hbetween⟩ := h
  refine ⟨before, between ++ (c.span p).1, ?_, fun x hx => ?_⟩
  · rw [List.append_assoc, Cursor.span_rest]
  · rcases List.mem_append.1 hx with hx | hx
    · exact hbetween x hx
    · exact hp x (List.mem_takeWhile_imp hx)

theorem step (h : InVersion s c) (hpoint : c.next? = some '.') : InVersion s c.step := by
  obtain ⟨before, between, rfl, hbetween⟩ := h
  refine ⟨before, between ++ ['.'], ?_, fun x hx => ?_⟩
  · rw [List.append_assoc, Cursor.rest_of_next hpoint]
    rfl
  · rcases List.mem_append.1 hx with hx | hx
    · exact hbetween x hx
    · exact .inr (.inl (List.mem_singleton.1 hx))

end InVersion

theorem directiveNumber_reads (h : InVersion s c) :
    Reads s (fun x => InVersion s x.2) (directiveNumber c) := by
  refine .ite (fun _ => .malformed) fun _ => .ite (fun hlong => ?_) fun _ => ?_
  · obtain ⟨before, between, hs, hbetween⟩ := h
    rw [← c.span_rest Text.isDigit] at hs
    exact .value (.directive hs hbetween (fun d hd => List.mem_takeWhile_imp hd) hlong)
  · exact .ok (h.span fun x hx => .inr (.inr hx))

theorem tagBytes_reads (k : Nat) (h : c.Within s) : ReadsPart s (tagBytes k c) := by
  induction k generalizing c with
  | zero => exact .ok h
  | succ k ih =>
      rw [tagBytes]
      split
      · exact .ok h
      · refine .ite (fun _ => ?_) fun _ => .ite (fun _ => ?_) fun _ => .ok h
        · split
          · exact .malformed
          · exact (ih (h.skip 3)).map fun _ hd => hd
        · exact (ih h.step).map fun _ hd => hd

theorem tagText_reads (h : c.Within s) : ReadsPart s (tagText c) := by
  refine (tagBytes_reads _ h).bind ?_
  rintro ⟨bytes, d⟩ hd
  refine .guard fun _ => ?_
  dsimp only
  split
  · exact .pure hd
  · exact .malformed

theorem tagHandle_reads (h : c.Within s) : ReadsPart s (tagHandle c) := by
  refine .ite (fun _ => .malformed) fun _ => .ite (fun _ => .ok h.step) fun _ => ?_
  exact .ite (fun _ => .ok (h.step.span _).step) fun _ => .malformed

theorem tagToken_reads (h : c.Within s) : ReadsPart s (tagToken c) := by
  have hend : ∀ x : Token × Cursor, x.2.Within s → ReadsPart s (do
      if !x.2.endsAt 0 isSpaceOrBreak then throw .malformed
      return (x.1, x.2)) := fun x hx => .guard fun _ => .pure hx
  unfold tagToken
  refine .ite (fun _ => ?_) fun _ => .ite (fun _ => .bind (.pure h.step) hend) fun _ =>
    .ite (fun _ => ?_) fun _ => ?_
  · refine (tagText_reads (h.skip 2)).bind fun x hx => .guard fun _ => ?_
    exact .bind (.pure hx.step) hend
  · refine (tagHandle_reads h).bind fun x hx => ?_
    exact (tagText_reads hx).bind fun y hy => .bind (.pure hy) hend
  · exact (tagText_reads h.step).bind fun x hx => .bind (.pure hx) hend

theorem directiveBody_reads (h : c.Within s) (hx : c.next? = some '%') :
    ReadsPart s (directiveBody c) := by
  unfold directiveBody
  have hname := h.step.span isWordChar
  refine .guard fun _ => .ite (fun hyaml => ?_) fun _ => .ite (fun _ => ?_) fun _ => ?_
  · have hversion := InVersion.of_name h hx (eq_of_beq hyaml)
    have hspaces := hversion.span (p := (· == ' ')) fun x hx => .inl (eq_of_beq hx)
    refine (directiveNumber_reads hspaces).bind fun x hmajor => .guard fun hpoint => ?_
    refine (directiveNumber_reads (hmajor.step ?_)).bind fun y hminor => ?_
    · exact Cursor.next_of_sees (by simpa using hpoint)
    · exact .guard fun _ => .pure hminor.within
  · refine (tagHandle_reads (hname.skipWhile _)).bind fun x hc => .guard fun _ => ?_
    exact (tagText_reads (hc.skipWhile _)).bind fun y hd => .guard fun _ => .pure hd
  · exact .pure (hname.skipWhile _)

theorem directive_reads (h : l.cursor.Within s) (hx : l.cursor.next? = some '%') :
    ReadsOn s l.directive := by
  refine dropKey_stays.bind fun l' hl => ?_
  rw [unwind_cursor] at hl
  refine (directiveBody_reads (hl ▸ h) (hl ▸ hx)).bind fun x hc => .guard fun _ => .pure ?_
  exact (hc.skipWhile _).skipComment.pastLineEnd

theorem documentMark_reads (h : l.cursor.Within s) (t : Token) :
    ReadsOn s (l.documentMark t) := by
  refine dropKey_stays.bind fun l' hl => .pure ?_
  rw [unwind_cursor] at hl
  exact (hl ▸ h).skip 3

theorem flowStart_reads (h : l.cursor.Within s) (t : Token) : ReadsOn s (l.flowStart t) :=
  noteKey_stays.bind fun _ hl => .pure (hl ▸ h).step

theorem flowEnd_reads (h : l.cursor.Within s) (t : Token) : ReadsOn s (l.flowEnd t) :=
  dropKey_stays.bind fun _ hl => .guard fun _ => .pure (hl ▸ h).step

theorem flowEntry_reads (h : l.cursor.Within s) : ReadsOn s l.flowEntry :=
  dropKey_stays.bind fun _ hl => .pure (hl ▸ h).step

theorem blockMark_reads (h : l.cursor.Within s) (start mark : Token) :
    ReadsOn s (l.blockMark start mark) := by
  unfold blockMark
  refine .guard fun _ => ?_
  dsimp only
  split
  · exact .pure h.step
  · exact .pure h.step

theorem blockEntry_reads (h : l.cursor.Within s) : ReadsOn s l.blockEntry :=
  (blockMark_reads h _ _).bind fun _ h' => dropKey_stays.bind fun _ hl => .pure (hl ▸ h')

theorem keyMark_reads (h : l.cursor.Within s) : ReadsOn s l.keyMark :=
  (blockMark_reads h _ _).bind fun _ h' => dropKey_stays.bind fun _ hl => .pure (hl ▸ h')

theorem valueMark_reads (h : l.cursor.Within s) : ReadsOn s l.valueMark := by
  unfold valueMark
  split
  · dsimp only
    split
    · exact .ok h.step
    · exact .ok h.step
  · exact (blockMark_reads h _ _).bind fun _ h' => dropKey_stays.bind fun _ hl => .pure (hl ▸ h')

theorem reference_reads (h : l.cursor.Within s) (make : List Char → Token) :
    ReadsOn s (l.reference make) := by
  refine noteKey_stays.bind fun l' hl => .guard fun _ => .guard fun _ => .pure ?_
  exact (hl ▸ h).step.span _

theorem tag_reads (h : l.cursor.Within s) : ReadsOn s l.tag :=
  noteKey_stays.bind fun _ hl => (tagToken_reads (hl ▸ h)).bind fun _ hc => .pure hc

theorem blockScalar_reads (h : l.cursor.Within s) (folds : Bool) :
    ReadsOn s (l.blockScalar folds) :=
  dropKey_stays.bind fun _ hl => (BlockText.read_reads (hl ▸ h)).bind fun _ hc => .pure hc

theorem quotedScalar_reads (h : l.cursor.Within s) (double : Bool) :
    ReadsOn s (l.quotedScalar double) :=
  noteKey_stays.bind fun _ hl => (QuotedText.read_reads (hl ▸ h)).bind fun _ hc => .pure hc

theorem plainScalar_reads (h : l.cursor.Within s) : ReadsOn s l.plainScalar :=
  noteKey_stays.bind fun _ hl => .pure (PlainText.within_read (hl ▸ h))

theorem token_reads {x : Char} (h : l.cursor.Within s) (hx : l.cursor.next? = some x) :
    ReadsOn s (l.token x) := by
  unfold token
  dsimp only
  refine .ite (fun hmark => ?_) fun _ => ?_
  · rw [Bool.and_eq_true, beq_iff_eq] at hmark
    exact directive_reads h (hmark.1 ▸ hx)
  iterate 2 refine .ite (fun _ => documentMark_reads h _) fun _ => ?_
  iterate 2 refine .ite (fun _ => flowStart_reads h _) fun _ => ?_
  iterate 2 refine .ite (fun _ => flowEnd_reads h _) fun _ => ?_
  refine .ite (fun _ => flowEntry_reads h) fun _ => ?_
  refine .ite (fun _ => blockEntry_reads h) fun _ => ?_
  refine .ite (fun _ => keyMark_reads h) fun _ => ?_
  refine .ite (fun _ => valueMark_reads h) fun _ => ?_
  iterate 2 refine .ite (fun _ => reference_reads h _) fun _ => ?_
  refine .ite (fun _ => tag_reads h) fun _ => ?_
  iterate 2 refine .ite (fun _ => blockScalar_reads h _) fun _ => ?_
  iterate 2 refine .ite (fun _ => quotedScalar_reads h _) fun _ => ?_
  exact .ite (fun _ => plainScalar_reads h) fun _ => .malformed

theorem finish_reads (h : l.cursor.Within s) : ReadsOn s l.finish := by
  refine dropKey_stays.bind fun l' hl => .pure ?_
  rw [unwind_cursor] at hl
  exact hl ▸ h

theorem read_reads (h : l.cursor.Within s) : ReadsOn s l.read := by
  refine dropStale_stays.bind fun l' hl => ?_
  have hc : (l'.unwind (Int.ofNat l'.cursor.column)).cursor.Within s := by
    rw [unwind_cursor, hl]
    exact within_skipToToken _ h
  dsimp only
  split
  · exact finish_reads hc
  · next hx => exact token_reads hc hx

theorem settle_reads (k : Nat) (h : l.cursor.Within s) : ReadsOn s (settle k l) := by
  induction k generalizing l with
  | zero => exact .malformed
  | succ k ih =>
      rw [settle]
      refine dropStale_stays.bind fun l' hl => .ite (fun _ => .pure (hl ▸ h)) fun _ => ?_
      exact (read_reads (hl ▸ h)).bind fun _ h' => ih h'

theorem ahead_reads (h : l.cursor.Within s) : ReadsOn s l.ahead :=
  .ite (fun _ => .ok h) fun _ => settle_reads _ h

theorem ofText_reads : ReadsOn s (ofText s) := by
  refine .ite (fun _ => .malformed) fun _ => ?_
  dsimp only
  split
  · exact .ok Cursor.Within.start.step
  · exact .ok Cursor.Within.start

end Lexer

/-! ## Nodes -/

/-- A step of parsing that goes on in the text, and fails for a value only if this stands in
the text. -/
abbrev Parses (s : List Char) {α : Type} (m : Parse α) : Prop :=
  Keeps (fun p : Progress => p.lexer.cursor.Within s) (Unreadable s) m

namespace Parse

theorem peek_parses : Parses s peek := by
  refine .get fun p hp => .lift (Lexer.ahead_reads hp) fun l hl => ?_
  exact .bind (.set hl) fun _ => .pure _

theorem drop_parses : Parses s drop := .update fun _ hp => hp

theorem accept_parses (t : Token) : Parses s (accept t) :=
  peek_parses.bind fun _ => .ite (drop_parses.bind fun _ => .pure true) (.pure false)

theorem expect_parses (t : Token) : Parses s (expect t) :=
  (accept_parses t).bind fun _ => .ite .malformed (.pure _)

theorem tagName_parses (handle : Option (List Char)) (suffix : List Char) :
    Parses s (tagName handle suffix) := by
  cases handle with
  | none => exact .pure _
  | some handle =>
      refine .get fun p _ => ?_
      split
      · exact .pure _
      · exact .malformed

theorem anchor?_parses : Parses s anchor? := by
  refine peek_parses.bind fun t => ?_
  split
  · exact drop_parses.bind fun _ => .pure _
  · exact .pure _

theorem tag?_parses : Parses s tag? := by
  refine peek_parses.bind fun t => ?_
  split
  · exact drop_parses.bind fun _ => .pure _
  · exact .pure _

theorem marks_parses : Parses s marks := by
  refine anchor?_parses.bind fun a => ?_
  split
  · exact tag?_parses.bind fun _ => .pure _
  · refine tag?_parses.bind fun t => ?_
    split
    · exact anchor?_parses.bind fun _ => .pure _
    · exact .pure _

theorem properties_parses : Parses s properties := by
  refine marks_parses.bind fun x => ?_
  dsimp only
  split
  · exact .pure _
  · exact (tagName_parses _ _).bind fun _ => .pure _

theorem add_parses (anchor : Option (List Char)) (n : Node) : Parses s (add anchor n) := by
  intro p hp
  cases anchor with
  | none => exact .ok hp
  | some name =>
      show Reads s _ (StateT.run (if (Entries.get? name p.anchors).isSome then _ else _) p)
      split
      · exact .malformed
      · exact .ok hp

theorem fill_parses (id : NodeId) (c : Content) : Parses s (fill id c) :=
  .bind (.update fun _ hp => hp) fun _ => .pure id

theorem aliased_parses (name : List Char) : Parses s (aliased name) := by
  refine .get fun p _ => ?_
  split
  · exact .pure _
  · exact .malformed

theorem atOneOf_parses (ts : List Token) : Parses s (atOneOf ts) :=
  peek_parses.bind fun _ => .pure _

theorem absent_parses : Parses s absent := add_parses none .absent

theorem emptyScalar_parses (anchor tag : Option (List Char)) : Parses s (emptyScalar anchor tag) :=
  .ite .malformed (add_parses _ _)

/-- Nodes and the parts of collections go on in the text, with a bound on the steps. -/
structure NodesParse (s : List Char) (k : Nat) : Prop where
  node : ∀ inBlock mayBeUnindented, Parses s (node k inBlock mayBeUnindented)
  blockItems : Parses s (blockItems k)
  unindentedItems : Parses s (unindentedItems k)
  blockEntries : Parses s (blockEntries k)
  blockValue : Parses s (blockValue k)
  flowItems : ∀ first, Parses s (flowItems k first)
  flowValue : ∀ closing, Parses s (flowValue k closing)
  flowEntries : ∀ first, Parses s (flowEntries k first)

namespace NodesParse

variable {k : Nat}

theorem zero : NodesParse s 0 where
  node _ _ := by
    rw [Parse.node]
    exact .malformed
  blockItems := by
    rw [Parse.blockItems]
    exact .malformed
  unindentedItems := by
    rw [Parse.unindentedItems]
    exact .malformed
  blockEntries := by
    rw [Parse.blockEntries]
    exact .malformed
  blockValue := by
    rw [Parse.blockValue]
    exact .malformed
  flowItems _ := by
    rw [Parse.flowItems]
    exact .malformed
  flowValue _ := by
    rw [Parse.flowValue]
    exact .malformed
  flowEntries _ := by
    rw [Parse.flowEntries]
    exact .malformed

/-- A node that may be left out in front of certain tokens. -/
theorem part (h : NodesParse s k) {α : Type} {next : NodeId → Parse α} {ts : List Token}
    {inBlock mayBeUnindented : Bool} (hnext : ∀ id, Parses s (next id)) :
    Parses s (do
      if ← atOneOf ts then absent >>= next
      else Parse.node k inBlock mayBeUnindented >>= next) :=
  (atOneOf_parses _).bind fun _ => .ite (absent_parses.bind hnext) ((h.node _ _).bind hnext)

/-- A value that may be left out, with its mark or in front of certain tokens. -/
theorem value (h : NodesParse s k) {ts : List Token} {inBlock mayBeUnindented : Bool} :
    Parses s (do
      if ← accept .value then
        if ← atOneOf ts then absent
        else Parse.node k inBlock mayBeUnindented
      else absent) :=
  (accept_parses _).bind fun _ =>
    .ite ((atOneOf_parses _).bind fun _ => .ite absent_parses (h.node _ _)) absent_parses

theorem node_succ (h : NodesParse s k) (inBlock mayBeUnindented : Bool) :
    Parses s (Parse.node (k + 1) inBlock mayBeUnindented) := by
  rw [Parse.node]
  refine peek_parses.bind fun t => ?_
  split
  · exact drop_parses.bind fun _ => aliased_parses _
  · refine properties_parses.bind fun x => ?_
    dsimp only
    refine peek_parses.bind fun t => ?_
    split
    · exact drop_parses.bind fun _ => add_parses _ _
    · refine .ite ?_ (emptyScalar_parses _ _)
      exact (add_parses _ _).bind fun _ => h.unindentedItems.bind fun _ => fill_parses _ _
    · refine drop_parses.bind fun _ => (add_parses _ _).bind fun _ => ?_
      exact (h.flowItems _).bind fun _ => fill_parses _ _
    · refine drop_parses.bind fun _ => (add_parses _ _).bind fun _ => ?_
      exact (h.flowEntries _).bind fun _ => fill_parses _ _
    · refine .ite (drop_parses.bind fun _ => (add_parses _ _).bind fun _ => ?_)
        (emptyScalar_parses _ _)
      exact h.blockItems.bind fun _ => fill_parses _ _
    · refine .ite (drop_parses.bind fun _ => (add_parses _ _).bind fun _ => ?_)
        (emptyScalar_parses _ _)
      exact h.blockEntries.bind fun _ => fill_parses _ _
    · exact emptyScalar_parses _ _

theorem blockItems_succ (h : NodesParse s k) : Parses s (Parse.blockItems (k + 1)) := by
  rw [Parse.blockItems]
  refine (accept_parses _).bind fun _ => .ite ?_ ((expect_parses _).bind fun _ => .pure _)
  exact h.part fun _ => h.blockItems.bind fun _ => .pure _

theorem unindentedItems_succ (h : NodesParse s k) :
    Parses s (Parse.unindentedItems (k + 1)) := by
  rw [Parse.unindentedItems]
  refine (accept_parses _).bind fun _ => .ite ?_ (.pure _)
  exact h.part fun _ => h.unindentedItems.bind fun _ => .pure _

theorem blockEntries_succ (h : NodesParse s k) : Parses s (Parse.blockEntries (k + 1)) := by
  rw [Parse.blockEntries]
  refine (accept_parses _).bind fun _ => .ite ?_ ((expect_parses _).bind fun _ => .pure _)
  exact h.part fun _ => h.blockValue.bind fun _ => h.blockEntries.bind fun _ => .pure _

theorem flowItems_succ (h : NodesParse s k) (first : Bool) :
    Parses s (Parse.flowItems (k + 1) first) := by
  have hitem : Parses s (do
      if ← accept .key then
        let id ← add none ⟨.mapping, .mapping []⟩
        let key ← if ← atOneOf [.value, .flowEntry, .flowSequenceEnd] then absent
          else Parse.node k false false
        let value ← Parse.flowValue k .flowSequenceEnd
        let _ ← fill id (.mapping [(key, value)])
        return id :: (← Parse.flowItems k false)
      else if ← accept .flowSequenceEnd then return []
      else
        let item ← Parse.node k false false
        return item :: (← Parse.flowItems k false)) := by
    refine (accept_parses _).bind fun _ => .ite ?_ ?_
    · refine (add_parses _ _).bind fun id => h.part fun key => ?_
      refine (h.flowValue _).bind fun value => (fill_parses _ _).bind fun _ => ?_
      exact (h.flowItems _).bind fun _ => .pure _
    · refine (accept_parses _).bind fun _ => .ite (.pure _) ?_
      exact (h.node _ _).bind fun _ => (h.flowItems _).bind fun _ => .pure _
  rw [Parse.flowItems]
  refine (accept_parses _).bind fun _ => .ite (.pure _) ?_
  exact .ite ((expect_parses _).bind fun _ => hitem) hitem

theorem flowEntries_succ (h : NodesParse s k) (first : Bool) :
    Parses s (Parse.flowEntries (k + 1) first) := by
  have hentry : Parses s (do
      if ← accept .key then
        let key ← if ← atOneOf [.value, .flowEntry, .flowMappingEnd] then absent
          else Parse.node k false false
        let value ← Parse.flowValue k .flowMappingEnd
        return (key, value) :: (← Parse.flowEntries k false)
      else if ← accept .flowMappingEnd then return []
      else
        let key ← Parse.node k false false
        return (key, ← absent) :: (← Parse.flowEntries k false)) := by
    refine (accept_parses _).bind fun _ => .ite (h.part fun key => ?_) ?_
    · exact (h.flowValue _).bind fun value => (h.flowEntries _).bind fun _ => .pure _
    · refine (accept_parses _).bind fun _ => .ite (.pure _) ?_
      refine (h.node _ _).bind fun _ => absent_parses.bind fun _ => ?_
      exact (h.flowEntries _).bind fun _ => .pure _
  rw [Parse.flowEntries]
  refine (accept_parses _).bind fun _ => .ite (.pure _) ?_
  exact .ite ((expect_parses _).bind fun _ => hentry) hentry

theorem succ (h : NodesParse s k) : NodesParse s (k + 1) where
  node := h.node_succ
  blockItems := h.blockItems_succ
  unindentedItems := h.unindentedItems_succ
  blockEntries := h.blockEntries_succ
  blockValue := by
    rw [Parse.blockValue]
    exact h.value
  flowItems := h.flowItems_succ
  flowValue _ := by
    rw [Parse.flowValue]
    exact h.value
  flowEntries := h.flowEntries_succ

end NodesParse

theorem nodes_parse (k : Nat) : NodesParse s k := by
  induction k with
  | zero => exact .zero
  | succ k ih => exact ih.succ

theorem directives_parse (k : Nat) {hasVersion : Bool} {handles : List (List Char × List Char)} :
    Parses s (directives k hasVersion handles) := by
  induction k generalizing hasVersion handles with
  | zero =>
      rw [directives]
      exact .malformed
  | succ k ih =>
      rw [directives]
      refine peek_parses.bind fun t => ?_
      split
      · exact .ite (Keeps.malformed.bind fun _ => drop_parses.bind fun _ => ih)
          (drop_parses.bind fun _ => ih)
      · exact .ite (Keeps.malformed.bind fun _ => drop_parses.bind fun _ => ih)
          (drop_parses.bind fun _ => ih)
      · exact drop_parses.bind fun _ => ih
      · exact .pure _

theorem documentEnds_parse (k : Nat) : Parses s (documentEnds k) := by
  induction k with
  | zero => exact .pure _
  | succ k ih => exact (accept_parses _).bind fun _ => .ite ih (.pure _)

theorem markedDocument_parses (k : Nat) : Parses s (markedDocument k) := by
  refine (directives_parse k).bind fun handles => Keeps.bind (.update fun _ hp => hp) fun _ => ?_
  refine (expect_parses _).bind fun _ => peek_parses.bind fun t => ?_
  exact .ite absent_parses ((nodes_parse k).node _ _)

theorem nothingElse_parses (k : Nat) : Parses s (nothingElse k) :=
  (accept_parses _).bind fun _ => .ite ((directives_parse k).bind fun _ => .malformed) (.pure _)

theorem document_parses (k : Nat) : Parses s (document k) := by
  have hend : ∀ root : NodeId, Parses s (do
      documentEnds k
      nothingElse k
      return some root) := fun root =>
    (documentEnds_parse k).bind fun _ => (nothingElse_parses k).bind fun _ => .pure _
  refine peek_parses.bind fun t => .ite (.pure _) (.ite ?_ ?_)
  · exact (markedDocument_parses k).bind hend
  · exact Keeps.bind (.update fun _ hp => hp) fun _ => ((nodes_parse k).node _ _).bind hend

end Parse

/-- The graph of a text fails for a value only if a number in the text is too large. -/
theorem Graph.parse_fault {f : ValueFault} (h : Graph.parse s = .error (.value f)) :
    Unreadable s f := by
  have hparse : Reads s (fun _ => True) (Graph.parse s) := by
    unfold Graph.parse
    refine Lexer.ofText_reads.bind fun l hl => ?_
    exact (Parse.document_parses _ ⟨l, .empty, [], []⟩ hl).bind fun _ _ => .pure trivial
  exact hparse.fails f h

end MigrationConfig.Yaml
