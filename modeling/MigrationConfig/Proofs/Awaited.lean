/-
# Where a JSON text awaits a value

A text awaits a value if it is refused at its very end, because a value is expected there.
An integer of too many digits makes a whole text unreadable just when it stands behind such a
text (`readChars_tooManyDigits_iff`).  So whether a text is refused in this way is said of
its parts, without following the reader through it: up to the integer the text is sound, and
what stands behind the integer does not matter.

The reader is followed once, in three relations that list what a value, the members of an
object and the items of an array can come to in one step.  Every induction below is on the
count of steps and goes through the cases of these relations.
-/
import MigrationConfig.Proofs.Front

namespace MigrationConfig.Json

/-! ## One step of a reader -/

/-- A text that begins with neither a quote nor the bracket of a collection. -/
def Unmarked (s : List Char) : Prop := ∀ r, s ≠ '"' :: r ∧ s ≠ '{' :: r ∧ s ≠ '[' :: r

theorem Unmarked.front {used r r' : List Char} (hne : used ≠ []) (h : Unmarked (used ++ r)) :
    Unmarked (used ++ r') := by
  cases used with
  | nil => exact absurd rfl hne
  | cons c used =>
      intro t
      obtain ⟨hquote, hbrace, hbracket⟩ := h (used ++ r)
      refine ⟨fun ht => hquote ?_, fun ht => hbrace ?_, fun ht => hbracket ?_⟩ <;>
        exact congrArg (· :: (used ++ r)) (List.head_eq_of_cons_eq ht)

/-- What becomes of a value. -/
inductive ValueStep (k : Nat) : List Char → Except Stop (Document × List Char) → Prop where
  | string {r cs rest : List Char} (hr : stringBody ('"' :: r) 0 r = .ok (cs, rest)) :
      ValueStep k ('"' :: r) (.ok (.text (String.ofList cs), rest))
  | badString {r : List Char} {e : Stop} (hr : stringBody ('"' :: r) 0 r = .error e) :
      ValueStep k ('"' :: r) (.error e)
  | emptyObject {r r' : List Char} (hr : skipSpace r = '}' :: r') :
      ValueStep k ('{' :: r) (.ok (.mapping [], r'))
  | object {r : List Char} (hr : ∀ r', skipSpace r ≠ '}' :: r') :
      ValueStep k ('{' :: r) (members k [] (skipSpace r))
  | emptyArray {r r' : List Char} (hr : skipSpace r = ']' :: r') :
      ValueStep k ('[' :: r) (.ok (.list [], r'))
  | array {r : List Char} (hr : ∀ r', skipSpace r ≠ ']' :: r') :
      ValueStep k ('[' :: r) (items k [] (skipSpace r))
  | scalar {s r : List Char} {x : Scalar} (hmarks : Unmarked s) (hs : scalar s = .ok (x, r)) :
      ValueStep k s (.ok (.scalar x, r))
  | badScalar {s : List Char} {e : Stop} (hmarks : Unmarked s) (hs : scalar s = .error e) :
      ValueStep k s (.error e)

/-- What becomes of the members of an object from a name on. -/
inductive MembersStep (k : Nat) (before : List (Scalar × Document)) :
    List Char → Except Stop (Document × List Char) → Prop where
  | unnamed {s : List Char} (hs : ∀ r, s ≠ '"' :: r) :
      MembersStep k before s (.error (.fault .expectingName s))
  | badName {r : List Char} {e : Stop} (hr : stringBody ('"' :: r) 0 r = .error e) :
      MembersStep k before ('"' :: r) (.error e)
  | noColon {r cs r₁ : List Char} (hr : stringBody ('"' :: r) 0 r = .ok (cs, r₁))
      (hcolon : ∀ r₂, skipSpace r₁ ≠ ':' :: r₂) :
      MembersStep k before ('"' :: r) (.error (.fault .expectingColon (skipSpace r₁)))
  | failed {r cs r₁ r₂ : List Char} {e : Stop} (hr : stringBody ('"' :: r) 0 r = .ok (cs, r₁))
      (hcolon : skipSpace r₁ = ':' :: r₂) (hv : value k (skipSpace r₂) = .error e) :
      MembersStep k before ('"' :: r) (.error e)
  | closed {r cs r₁ r₂ r₃ rest : List Char} {d : Document}
      (hr : stringBody ('"' :: r) 0 r = .ok (cs, r₁))
      (hcolon : skipSpace r₁ = ':' :: r₂) (hv : value k (skipSpace r₂) = .ok (d, r₃))
      (hend : skipSpace r₃ = '}' :: rest) :
      MembersStep k before ('"' :: r)
        (.ok (.mapping (Entries.put (.text (String.ofList cs)) d before), rest))
  | next {r cs r₁ r₂ r₃ r₄ : List Char} {d : Document}
      (hr : stringBody ('"' :: r) 0 r = .ok (cs, r₁))
      (hcolon : skipSpace r₁ = ':' :: r₂) (hv : value k (skipSpace r₂) = .ok (d, r₃))
      (hend : skipSpace r₃ = ',' :: r₄) :
      MembersStep k before ('"' :: r)
        (members k (Entries.put (.text (String.ofList cs)) d before) (skipSpace r₄))
  | noComma {r cs r₁ r₂ r₃ : List Char} {d : Document}
      (hr : stringBody ('"' :: r) 0 r = .ok (cs, r₁))
      (hcolon : skipSpace r₁ = ':' :: r₂) (hv : value k (skipSpace r₂) = .ok (d, r₃))
      (hend : ∀ r₄, skipSpace r₃ ≠ '}' :: r₄ ∧ skipSpace r₃ ≠ ',' :: r₄) :
      MembersStep k before ('"' :: r) (.error (.fault .expectingComma (skipSpace r₃)))

/-- What becomes of the items of an array from a value on. -/
inductive ItemsStep (k : Nat) (before : List Document) (s : List Char) :
    Except Stop (Document × List Char) → Prop where
  | failed {e : Stop} (hv : value k s = .error e) : ItemsStep k before s (.error e)
  | closed {d : Document} {r r' : List Char} (hv : value k s = .ok (d, r))
      (hend : skipSpace r = ']' :: r') :
      ItemsStep k before s (.ok (.list (d :: before).reverse, r'))
  | next {d : Document} {r r' : List Char} (hv : value k s = .ok (d, r))
      (hend : skipSpace r = ',' :: r') :
      ItemsStep k before s (items k (d :: before) (skipSpace r'))
  | noComma {d : Document} {r : List Char} (hv : value k s = .ok (d, r))
      (hend : ∀ r', skipSpace r ≠ ']' :: r' ∧ skipSpace r ≠ ',' :: r') :
      ItemsStep k before s (.error (.fault .expectingComma (skipSpace r)))

theorem value_step (k : Nat) (s : List Char) : ValueStep k s (value (k + 1) s) := by
  unfold value
  split
  · next r =>
      cases h : stringBody ('"' :: r) 0 r with
      | error e => exact .badString h
      | ok x => exact .string h
  · next r =>
      split
      · next h => exact .emptyObject h
      · next h => exact .object h
  · next r =>
      split
      · next h => exact .emptyArray h
      · next h => exact .array h
  · next hquote hbrace hbracket =>
      have hmarks : Unmarked s := fun r => ⟨hquote r, hbrace r, hbracket r⟩
      cases h : scalar s with
      | error e => exact .badScalar hmarks h
      | ok x => exact .scalar hmarks h

theorem members_step (k : Nat) (before : List (Scalar × Document)) (s : List Char) :
    MembersStep k before s (members (k + 1) before s) := by
  unfold members
  split
  · next r =>
      cases hr : stringBody ('"' :: r) 0 r with
      | error e => exact .badName hr
      | ok x =>
          simp only [bind, Except.bind]
          split
          · next hcolon =>
              cases hv : value k (skipSpace _) with
              | error e => exact .failed hr hcolon hv
              | ok y =>
                  simp only
                  split
                  · next hend => exact .closed hr hcolon hv hend
                  · next hend => exact .next hr hcolon hv hend
                  · next hbrace hcomma =>
                      exact .noComma hr hcolon hv fun r₄ => ⟨hbrace r₄, hcomma r₄⟩
          · next hcolon => exact .noColon hr hcolon
  · next hs => exact .unnamed hs

theorem items_step (k : Nat) (before : List Document) (s : List Char) :
    ItemsStep k before s (items (k + 1) before s) := by
  unfold items
  cases hv : value k s with
  | error e => exact .failed hv
  | ok x =>
      simp only [bind, Except.bind]
      split
      · next hend => exact .closed hv hend
      · next hend => exact .next hv hend
      · next hbracket hcomma => exact .noComma hv fun r' => ⟨hbracket r', hcomma r'⟩

theorem ValueStep.eq {k : Nat} {s : List Char} {x : Except Stop (Document × List Char)}
    (h : ValueStep k s x) : value (k + 1) s = x := by
  cases h with
  | string hr =>
      rw [value, hr]
      rfl
  | badString hr =>
      rw [value, hr]
      rfl
  | emptyObject hr =>
      rw [value, hr]
      rfl
  | object hr =>
      rw [value]
      split
      · next h => exact absurd h (hr _)
      · rfl
  | emptyArray hr =>
      rw [value, hr]
      rfl
  | array hr =>
      rw [value]
      split
      · next h => exact absurd h (hr _)
      · rfl
  | scalar hmarks hs =>
      rw [value, hs]
      · rfl
      · exact fun r h => (hmarks r).1 h
      · exact fun r h => (hmarks r).2.1 h
      · exact fun r h => (hmarks r).2.2 h
  | badScalar hmarks hs =>
      rw [value, hs]
      · rfl
      · exact fun r h => (hmarks r).1 h
      · exact fun r h => (hmarks r).2.1 h
      · exact fun r h => (hmarks r).2.2 h

theorem MembersStep.eq {k : Nat} {before : List (Scalar × Document)} {s : List Char}
    {x : Except Stop (Document × List Char)} (h : MembersStep k before s x) :
    members (k + 1) before s = x := by
  cases h with
  | unnamed hs =>
      rw [members]
      exact hs
  | badName hr =>
      rw [members, hr]
      rfl
  | noColon hr hcolon =>
      rw [members, hr]
      simp only [bind, Except.bind]
      rfl
  | failed hr hcolon hv =>
      rw [members, hr]
      simp only [bind, Except.bind, hcolon, hv]
  | closed hr hcolon hv hend =>
      rw [members, hr]
      simp only [bind, Except.bind, hcolon, hv, hend]
      rfl
  | next hr hcolon hv hend =>
      rw [members, hr]
      simp only [bind, Except.bind, hcolon, hv, hend]
  | noComma hr hcolon hv hend =>
      rw [members, hr]
      simp only [bind, Except.bind, hcolon, hv]
      split
      · next h => exact absurd h (hend _).1
      · next h => exact absurd h (hend _).2
      · rfl

theorem ItemsStep.eq {k : Nat} {before : List Document} {s : List Char}
    {x : Except Stop (Document × List Char)} (h : ItemsStep k before s x) :
    items (k + 1) before s = x := by
  cases h with
  | failed hv =>
      rw [items, hv]
      rfl
  | closed hv hend =>
      rw [items, hv]
      simp only [bind, Except.bind, hend]
      rfl
  | next hv hend =>
      rw [items, hv]
      simp only [bind, Except.bind, hend]
  | noComma hv hend =>
      rw [items, hv]
      simp only [bind, Except.bind]
      split
      · next h => exact absurd h (hend _).1
      · next h => exact absurd h (hend _).2
      · rfl

/-! ## What follows does not matter -/

/-- A reader uses a part of the text at its front, and comes to the same behind that part
with any other text of a kind that follows. -/
def ReadsFront {α : Type} (follows : List Char → Prop)
    (read : List Char → Except Stop (α × List Char)) : Prop :=
  ∀ s a r, read s = .ok (a, r) →
    ∃ used, used ≠ [] ∧ s = used ++ r ∧ ∀ r', follows r' → read (used ++ r') = .ok (a, r')

theorem NoSpace.front {used r r' : List Char} (hne : used ≠ []) (h : NoSpace (used ++ r)) :
    NoSpace (used ++ r') :=
  NoSpace.append hne h.of_append

/-- A mark behind a value, with the blanks in front of it. -/
theorem mark_front {r r' : List Char} {c : Char} (h : skipSpace r = c :: r')
    (hspace : isSpace c = false) (hend : isEnd c = true) :
    ∃ used, r = used ++ r' ∧ ∀ t, Ends (used ++ t) ∧ skipSpace (used ++ t) = c :: t := by
  obtain ⟨blanks, hr, hblanks, hskip⟩ := skipSpace_front r
  rw [h] at hr
  refine ⟨blanks ++ [c], by rw [hr, List.append_assoc, List.singleton_append], fun t => ?_⟩
  rw [List.append_assoc, List.singleton_append]
  refine ⟨?_, hskip _ (noSpace_cons hspace)⟩
  cases blanks with
  | nil => exact ⟨c, t, rfl, hend⟩
  | cons b blanks =>
      refine ⟨b, blanks ++ c :: t, rfl, ?_⟩
      rw [isEnd, hblanks b (List.mem_cons_self ..)]
      rfl

/-- A comma behind a value, with the blanks around it. -/
theorem comma_front {r r' : List Char} (h : skipSpace r = ',' :: r') :
    ∃ used, r = used ++ skipSpace r' ∧ ∀ t, NoSpace t →
      Ends (used ++ t) ∧ ∃ r'', skipSpace (used ++ t) = ',' :: r'' ∧ skipSpace r'' = t := by
  obtain ⟨used, rfl, hmark⟩ := mark_front h rfl rfl
  obtain ⟨blanks, hr', -, hskip⟩ := skipSpace_front r'
  refine ⟨used ++ blanks, by rw [List.append_assoc, ← hr'], fun t ht => ?_⟩
  rw [List.append_assoc]
  exact ⟨(hmark _).1, blanks ++ t, (hmark _).2, hskip t ht⟩

/-- What stands behind an opening bracket, with the blanks in front of it. -/
theorem opening_front {r used rest : List Char} {c : Char} (h : skipSpace r = used ++ rest)
    (hne : used ≠ []) (hr : ∀ r', skipSpace r ≠ c :: r') :
    ∃ blanks, r = blanks ++ (used ++ rest) ∧ ∀ t, skipSpace (blanks ++ (used ++ t)) = used ++ t ∧
      ∀ r', skipSpace (blanks ++ (used ++ t)) ≠ c :: r' := by
  obtain ⟨blanks, hr₀, -, hskip⟩ := skipSpace_front r
  refine ⟨blanks, h ▸ hr₀, fun t => ?_⟩
  have hskip := hskip (used ++ t) (NoSpace.front hne (h ▸ noSpace_skipSpace r))
  refine ⟨hskip, fun r' ht => ?_⟩
  cases used with
  | nil => exact hne rfl
  | cons d used =>
      obtain rfl : d = c := List.head_eq_of_cons_eq (hskip.symm.trans ht)
      exact hr _ h

/-- The name of a member and the colon, with the blanks around it. -/
theorem name_front {r cs r₁ r₂ : List Char} (hr : stringBody ('"' :: r) 0 r = .ok (cs, r₁))
    (hcolon : skipSpace r₁ = ':' :: r₂) :
    ∃ used, r = used ++ skipSpace r₂ ∧ ∀ t, NoSpace t → ∃ r₁' r₂',
      stringBody ('"' :: (used ++ t)) 0 (used ++ t) = .ok (cs, r₁') ∧
        skipSpace r₁' = ':' :: r₂' ∧ skipSpace r₂' = t := by
  obtain ⟨name, -, rfl, hname⟩ := stringBody_front hr
  obtain ⟨blanks, hr₁, -, hskip⟩ := skipSpace_front r₁
  obtain ⟨blanks', hr₂, -, hskip'⟩ := skipSpace_front r₂
  rw [hcolon] at hr₁
  refine ⟨name ++ (blanks ++ ':' :: blanks'), ?_, fun t ht => ?_⟩
  · rw [List.append_assoc, List.append_assoc, List.cons_append, ← hr₂, ← hr₁]
  · refine ⟨blanks ++ ':' :: (blanks' ++ t), blanks' ++ t, ?_, hskip _ (noSpace_cons rfl),
      hskip' t ht⟩
    have hread := hname ('"' :: (name ++ (blanks ++ ':' :: (blanks' ++ t))))
      (blanks ++ ':' :: (blanks' ++ t))
    simpa only [List.append_assoc, List.cons_append] using hread

/-- A member is read the same whatever follows it, if nothing there goes on with its value. -/
theorem member_front {k : Nat} (hvalue : ReadsFront Ends (value k)) {r cs r₁ r₂ r₃ : List Char}
    {d : Document} (hr : stringBody ('"' :: r) 0 r = .ok (cs, r₁))
    (hcolon : skipSpace r₁ = ':' :: r₂) (hv : value k (skipSpace r₂) = .ok (d, r₃)) :
    ∃ used, r = used ++ r₃ ∧ ∀ t, Ends t → ∃ r₁' r₂',
      stringBody ('"' :: (used ++ t)) 0 (used ++ t) = .ok (cs, r₁') ∧
        skipSpace r₁' = ':' :: r₂' ∧ value k (skipSpace r₂') = .ok (d, t) := by
  obtain ⟨name, rfl, hname⟩ := name_front hr hcolon
  obtain ⟨used, hne, hr₂, hread⟩ := hvalue _ _ _ hv
  refine ⟨name ++ used, by rw [List.append_assoc, ← hr₂], fun t ht => ?_⟩
  obtain ⟨r₁', r₂', hstring, hcolon', hskip⟩ := hname (used ++ t)
    (NoSpace.front hne (hr₂ ▸ noSpace_skipSpace r₂))
  refine ⟨r₁', r₂', ?_, hcolon', hskip.symm ▸ hread t ht⟩
  rwa [List.append_assoc]

section Step

variable {k : Nat} (hvalue : ReadsFront Ends (value k))
  (hmembers : ∀ before, ReadsFront (fun _ => True) (members k before))
  (hitems : ∀ before, ReadsFront (fun _ => True) (items k before))

include hvalue hitems in
theorem items_front (before : List Document) :
    ReadsFront (fun _ => True) (items (k + 1) before) := by
  intro s a r h
  have hstep := items_step k before s
  rw [h] at hstep
  generalize hx : (Except.ok (a, r) : Except Stop (Document × List Char)) = x at hstep
  cases hstep with
  | failed hv => cases hx
  | closed hv hend =>
      cases hx
      obtain ⟨used, hne, rfl, hread⟩ := hvalue _ _ _ hv
      obtain ⟨close, rfl, hclose⟩ := mark_front hend rfl rfl
      refine ⟨used ++ close, by simp [hne], by rw [List.append_assoc], fun r' _ => ?_⟩
      rw [List.append_assoc]
      exact (ItemsStep.closed (hread _ (hclose r').1) (hclose r').2).eq
  | @next d r₁ r₂ hv hend =>
      obtain ⟨used, hne, rfl, hread⟩ := hvalue _ _ _ hv
      obtain ⟨comma, rfl, hcomma⟩ := comma_front hend
      obtain ⟨others, hothers, hr₂, hread'⟩ := hitems _ _ _ _ hx.symm
      refine ⟨used ++ (comma ++ others), by simp [hne], by simp only [List.append_assoc, ← hr₂],
        fun r' _ => ?_⟩
      obtain ⟨hends, r'', hmark, hskip⟩ := hcomma (others ++ r')
        (NoSpace.front hothers (hr₂ ▸ noSpace_skipSpace r₂))
      have hstep : items (k + 1) before _ = items k (d :: before) _ :=
        (ItemsStep.next (hread _ hends) hmark).eq
      rw [hskip, hread' r' trivial] at hstep
      simpa only [List.append_assoc] using hstep
  | noComma hv hend => cases hx

include hvalue hmembers in
theorem members_front (before : List (Scalar × Document)) :
    ReadsFront (fun _ => True) (members (k + 1) before) := by
  intro s a r h
  have hstep := members_step k before s
  rw [h] at hstep
  generalize hx : (Except.ok (a, r) : Except Stop (Document × List Char)) = x at hstep
  cases hstep with
  | unnamed hs => cases hx
  | badName hr => cases hx
  | noColon hr hcolon => cases hx
  | failed hr hcolon hv => cases hx
  | closed hr hcolon hv hend =>
      cases hx
      obtain ⟨used, rfl, hmember⟩ := member_front hvalue hr hcolon hv
      obtain ⟨close, rfl, hclose⟩ := mark_front hend rfl rfl
      refine ⟨'"' :: (used ++ close), List.cons_ne_nil _ _,
        by simp only [List.append_assoc, List.cons_append], fun r' _ => ?_⟩
      obtain ⟨r₁', r₂', hstring, hcolon', hv'⟩ := hmember (close ++ r') (hclose r').1
      rw [List.cons_append, List.append_assoc]
      exact (MembersStep.closed hstring hcolon' hv' (hclose r').2).eq
  | @next _ _ _ _ _ r₄ d hr hcolon hv hend =>
      obtain ⟨used, rfl, hmember⟩ := member_front hvalue hr hcolon hv
      obtain ⟨comma, rfl, hcomma⟩ := comma_front hend
      obtain ⟨others, hothers, hr₄, hread'⟩ := hmembers _ _ _ _ hx.symm
      refine ⟨'"' :: (used ++ (comma ++ others)), List.cons_ne_nil _ _,
        by simp only [List.append_assoc, List.cons_append, ← hr₄], fun r' _ => ?_⟩
      obtain ⟨hends, r'', hmark, hskip⟩ := hcomma (others ++ r')
        (NoSpace.front hothers (hr₄ ▸ noSpace_skipSpace r₄))
      obtain ⟨r₁', r₂', hstring, hcolon', hv'⟩ := hmember _ hends
      have hstep : members (k + 1) before _ = members k (Entries.put _ d before) _ :=
        (MembersStep.next hstring hcolon' hv' hmark).eq
      rw [hskip, hread' r' trivial] at hstep
      simpa only [List.append_assoc, List.cons_append] using hstep
  | noComma hr hcolon hv hend => cases hx

include hmembers hitems in
theorem value_front : ReadsFront Ends (value (k + 1)) := by
  intro s a r h
  have hstep := value_step k s
  rw [h] at hstep
  generalize hx : (Except.ok (a, r) : Except Stop (Document × List Char)) = x at hstep
  cases hstep with
  | string hr =>
      cases hx
      obtain ⟨used, -, rfl, hread⟩ := stringBody_front hr
      exact ⟨'"' :: used, List.cons_ne_nil _ _, rfl, fun r' _ => (ValueStep.string (hread _ r')).eq⟩
  | badString hr => cases hx
  | @emptyObject r₀ _ hr =>
      cases hx
      obtain ⟨blanks, hr₀, -, hskip⟩ := skipSpace_front r₀
      rw [hr] at hr₀
      refine ⟨'{' :: (blanks ++ ['}']), List.cons_ne_nil _ _, by simp [hr₀], fun r' _ => ?_⟩
      have hstep := (ValueStep.emptyObject (k := k)
        (hskip _ (noSpace_cons (s := r') (c := '}') rfl))).eq
      simpa only [List.append_assoc, List.cons_append, List.nil_append] using hstep
  | @object r₀ hr =>
      obtain ⟨used, hne, hr₀, hread⟩ := hmembers _ _ _ _ hx.symm
      obtain ⟨blanks, rfl, hopening⟩ := opening_front hr₀ hne hr
      refine ⟨'{' :: (blanks ++ used), List.cons_ne_nil _ _,
        by rw [List.cons_append, List.append_assoc], fun r' _ => ?_⟩
      have hstep := (ValueStep.object (k := k) (hopening r').2).eq
      rw [(hopening r').1, hread r' trivial] at hstep
      rwa [List.cons_append, List.append_assoc]
  | @emptyArray r₀ _ hr =>
      cases hx
      obtain ⟨blanks, hr₀, -, hskip⟩ := skipSpace_front r₀
      rw [hr] at hr₀
      refine ⟨'[' :: (blanks ++ [']']), List.cons_ne_nil _ _, by simp [hr₀], fun r' _ => ?_⟩
      have hstep := (ValueStep.emptyArray (k := k)
        (hskip _ (noSpace_cons (s := r') (c := ']') rfl))).eq
      simpa only [List.append_assoc, List.cons_append, List.nil_append] using hstep
  | @array r₀ hr =>
      obtain ⟨used, hne, hr₀, hread⟩ := hitems _ _ _ _ hx.symm
      obtain ⟨blanks, rfl, hopening⟩ := opening_front hr₀ hne hr
      refine ⟨'[' :: (blanks ++ used), List.cons_ne_nil _ _,
        by rw [List.cons_append, List.append_assoc], fun r' _ => ?_⟩
      have hstep := (ValueStep.array (k := k) (hopening r').2).eq
      rw [(hopening r').1, hread r' trivial] at hstep
      rwa [List.cons_append, List.append_assoc]
  | scalar hmarks hs =>
      cases hx
      obtain ⟨used, hne, rfl, hread⟩ := scalar_front hs
      exact ⟨used, hne, rfl, fun r' hr' => (ValueStep.scalar (hmarks.front hne) (hread r' hr')).eq⟩
  | badScalar hmarks hs => cases hx

end Step

/-- Values, members and items are read the same whatever follows them. -/
theorem reads_front (k : Nat) :
    ReadsFront Ends (value k) ∧ (∀ before, ReadsFront (fun _ => True) (members k before)) ∧
      ∀ before, ReadsFront (fun _ => True) (items k before) := by
  induction k with
  | zero =>
      refine ⟨fun s a r h => ?_, fun before s a r h => ?_, fun before s a r h => ?_⟩
      · rw [value] at h
        cases h
      · rw [members] at h
        cases h
      · rw [items] at h
        cases h
  | succ k ih =>
      obtain ⟨hvalue, hmembers, hitems⟩ := ih
      exact ⟨value_front hmembers hitems, members_front hvalue hmembers, items_front hvalue hitems⟩

/-! ## Enough steps -/

theorem ReadsFront.length_lt {α : Type} {follows : List Char → Prop}
    {read : List Char → Except Stop (α × List Char)} (h : ReadsFront follows read)
    {s r : List Char} {a : α} (hs : read s = .ok (a, r)) : r.length < s.length := by
  obtain ⟨used, hne, rfl, -⟩ := h s a r hs
  rw [List.length_append]
  have := List.length_pos_iff.2 hne
  omega

theorem length_skipSpace_le (s : List Char) : (skipSpace s).length ≤ s.length :=
  List.length_dropWhile_le ..

theorem length_lt_of_skipSpace {s t : List Char} {c : Char} (h : skipSpace s = c :: t) :
    (skipSpace t).length < s.length := by
  have hs := length_skipSpace_le s
  have ht := length_skipSpace_le t
  rw [h, List.length_cons] at hs
  omega

/-- Two readers come to the same on texts of less than half as many characters. -/
def SameBelow (limit : Nat) (read read' : List Char → Except Stop (Document × List Char)) : Prop :=
  ∀ s, 2 * s.length < limit → read s = read' s

section Step

variable {k : Nat} (hvalue : SameBelow k (value (k + 1)) (value k))
  (hmembers : ∀ before, SameBelow k (members (k + 1) before) (members k before))
  (hitems : ∀ before, SameBelow (k - 1) (items (k + 1) before) (items k before))

include hmembers hitems in
theorem value_enough : SameBelow (k + 1) (value (k + 2)) (value (k + 1)) := by
  intro s hs
  have hstep := value_step k s
  generalize hx : value (k + 1) s = x at hstep
  cases hstep with
  | string hr => exact (ValueStep.string hr).eq
  | badString hr => exact (ValueStep.badString hr).eq
  | emptyObject hr => exact (ValueStep.emptyObject hr).eq
  | @object r hr =>
      have hlen := length_skipSpace_le r
      rw [List.length_cons] at hs
      rw [← hmembers [] _ (by omega)]
      exact (ValueStep.object hr).eq
  | emptyArray hr => exact (ValueStep.emptyArray hr).eq
  | @array r hr =>
      have hlen := length_skipSpace_le r
      rw [List.length_cons] at hs
      rw [← hitems [] _ (by omega)]
      exact (ValueStep.array hr).eq
  | scalar hmarks hs => exact (ValueStep.scalar hmarks hs).eq
  | badScalar hmarks hs => exact (ValueStep.badScalar hmarks hs).eq

include hvalue hmembers in
theorem members_enough (before : List (Scalar × Document)) :
    SameBelow (k + 1) (members (k + 2) before) (members (k + 1) before) := by
  intro s hs
  have hstep := members_step k before s
  have hsame : ∀ {r cs r₁ r₂ : List Char}, stringBody ('"' :: r) 0 r = .ok (cs, r₁) →
      skipSpace r₁ = ':' :: r₂ → 2 * ('"' :: r).length < k + 1 →
      value (k + 1) (skipSpace r₂) = value k (skipSpace r₂) ∧
        2 * (skipSpace r₂).length + 2 < k := by
    intro r cs r₁ r₂ hr hcolon hlen
    have hname := stringBody_length hr
    have hvalue' := length_lt_of_skipSpace hcolon
    rw [List.length_cons] at hlen
    exact ⟨hvalue _ (by omega), by omega⟩
  generalize hx : members (k + 1) before s = x at hstep
  cases hstep with
  | unnamed hs => exact (MembersStep.unnamed hs).eq
  | badName hr => exact (MembersStep.badName hr).eq
  | noColon hr hcolon => exact (MembersStep.noColon hr hcolon).eq
  | failed hr hcolon hv =>
      exact (MembersStep.failed hr hcolon ((hsame hr hcolon hs).1.trans hv)).eq
  | closed hr hcolon hv hend =>
      exact (MembersStep.closed hr hcolon ((hsame hr hcolon hs).1.trans hv) hend).eq
  | next hr hcolon hv hend =>
      obtain ⟨hsame, hlen⟩ := hsame hr hcolon hs
      have hlen' := (reads_front k).1.length_lt hv
      have hlen'' := length_lt_of_skipSpace hend
      rw [← hmembers _ _ (by omega)]
      exact (MembersStep.next hr hcolon (hsame.trans hv) hend).eq
  | noComma hr hcolon hv hend =>
      exact (MembersStep.noComma hr hcolon ((hsame hr hcolon hs).1.trans hv) hend).eq

include hvalue hitems in
theorem items_enough (before : List Document) :
    SameBelow k (items (k + 2) before) (items (k + 1) before) := by
  intro s hs
  have hstep := items_step k before s
  have hsame : value (k + 1) s = value k s := hvalue s (by omega)
  generalize hx : items (k + 1) before s = x at hstep
  cases hstep with
  | failed hv => exact (ItemsStep.failed (hsame.trans hv)).eq
  | closed hv hend => exact (ItemsStep.closed (hsame.trans hv) hend).eq
  | next hv hend =>
      have hlen := length_lt_of_skipSpace hend
      have hlen' := (reads_front k).1.length_lt hv
      rw [← hitems _ _ (by omega)]
      exact (ItemsStep.next (hsame.trans hv) hend).eq
  | noComma hv hend => exact (ItemsStep.noComma (hsame.trans hv) hend).eq

end Step

/-- More steps than twice the length of a text make no difference. -/
theorem steps_enough (k : Nat) :
    SameBelow k (value (k + 1)) (value k) ∧
      (∀ before, SameBelow k (members (k + 1) before) (members k before)) ∧
      ∀ before, SameBelow (k - 1) (items (k + 1) before) (items k before) := by
  induction k with
  | zero =>
      exact ⟨fun s h => absurd h (Nat.not_lt_zero _), fun _ s h => absurd h (Nat.not_lt_zero _),
        fun _ s h => absurd h (Nat.not_lt_zero _)⟩
  | succ k ih =>
      obtain ⟨hvalue, hmembers, hitems⟩ := ih
      exact ⟨value_enough hmembers hitems, members_enough hvalue hmembers,
        items_enough hvalue hitems⟩

/-! ## Cutting in front of a value -/

/-- A reader that comes to an integer of too many digits is refused, on the text in front of
that integer, at its end for want of a value. -/
def StopsAtInteger (n : Nat) (read : List Char → Except Stop (Document × List Char)) : Prop :=
  ∀ s, read s = .error (.tooManyDigits n) →
    ∃ before v, s = before ++ v ∧ scalar v = .error (.tooManyDigits n) ∧
      read before = .error (.fault .expectingValue [])

theorem value_nil (k : Nat) : value k [] = .error (.fault .expectingValue []) := by
  cases k with
  | zero => rw [value]
  | succ k =>
      have hmarks : Unmarked [] := fun r =>
        ⟨(List.cons_ne_nil _ _).symm, (List.cons_ne_nil _ _).symm, (List.cons_ne_nil _ _).symm⟩
      exact (ValueStep.badScalar hmarks rfl).eq

theorem members_nil (k : Nat) (acc : List (Scalar × Document)) :
    members k acc [] = .error (.fault .expectingName []) := by
  cases k with
  | zero => rw [members]
  | succ k => exact (MembersStep.unnamed fun r => (List.cons_ne_nil _ _).symm).eq

section Step

variable {k n : Nat} (hvalue : StopsAtInteger n (value k))
  (hmembers : ∀ acc, StopsAtInteger n (members k acc))
  (hitems : ∀ acc, StopsAtInteger n (items k acc))

include hmembers hitems in
theorem value_stops : StopsAtInteger n (value (k + 1)) := by
  intro s h
  have hstep := value_step k s
  rw [h] at hstep
  generalize hx : (Except.error (.tooManyDigits n) : Except Stop (Document × List Char)) = x
    at hstep
  cases hstep with
  | string hr => cases hx
  | badString hr =>
      cases hx
      obtain ⟨_, _, hfault, -⟩ := stringBody_error hr
      cases hfault
  | emptyObject hr => cases hx
  | @object r hr =>
      obtain ⟨before, v, hr', hv, hbefore⟩ := hmembers _ _ hx.symm
      obtain ⟨blanks, hr₀, -, hskip⟩ := skipSpace_front r
      have hskip := hskip before (hr' ▸ noSpace_skipSpace r).of_append
      refine ⟨'{' :: (blanks ++ before), v, ?_, hv, ?_⟩
      · rw [List.cons_append, List.append_assoc, ← hr', ← hr₀]
      · have hstep := (ValueStep.object (k := k) (r := blanks ++ before) fun r' ht =>
          hr (r' ++ v) (by rw [hr', ← hskip, ht, List.cons_append])).eq
        rw [hstep, hskip, hbefore]
  | emptyArray hr => cases hx
  | @array r hr =>
      obtain ⟨before, v, hr', hv, hbefore⟩ := hitems _ _ hx.symm
      obtain ⟨blanks, hr₀, -, hskip⟩ := skipSpace_front r
      have hskip := hskip before (hr' ▸ noSpace_skipSpace r).of_append
      refine ⟨'[' :: (blanks ++ before), v, ?_, hv, ?_⟩
      · rw [List.cons_append, List.append_assoc, ← hr', ← hr₀]
      · have hstep := (ValueStep.array (k := k) (r := blanks ++ before) fun r' ht =>
          hr (r' ++ v) (by rw [hr', ← hskip, ht, List.cons_append])).eq
        rw [hstep, hskip, hbefore]
  | scalar hmarks hs => cases hx
  | badScalar hmarks hs =>
      cases hx
      exact ⟨[], s, rfl, hs, value_nil _⟩

include hvalue hmembers in
theorem members_stop (acc : List (Scalar × Document)) :
    StopsAtInteger n (members (k + 1) acc) := by
  intro s h
  have hstep := members_step k acc s
  rw [h] at hstep
  generalize hx : (Except.error (.tooManyDigits n) : Except Stop (Document × List Char)) = x
    at hstep
  cases hstep with
  | unnamed hs => cases hx
  | badName hr =>
      cases hx
      obtain ⟨_, _, hfault, -⟩ := stringBody_error hr
      cases hfault
  | noColon hr hcolon => cases hx
  | @failed _ _ _ r₂ _ hr hcolon hv =>
      cases hx
      obtain ⟨before, v, hr₂, hlong, hbefore⟩ := hvalue _ hv
      obtain ⟨name, rfl, hname⟩ := name_front hr hcolon
      obtain ⟨r₁', r₂', hstring, hcolon', hskip⟩ := hname before
        (hr₂ ▸ noSpace_skipSpace r₂).of_append
      refine ⟨'"' :: (name ++ before), v, ?_, hlong,
        (MembersStep.failed hstring hcolon' (hskip.symm ▸ hbefore)).eq⟩
      rw [hr₂, List.cons_append, List.append_assoc]
  | closed hr hcolon hv hend => cases hx
  | @next _ _ _ _ _ r₄ _ hr hcolon hv hend =>
      obtain ⟨before, v, hr₄, hlong, hbefore⟩ := hmembers _ _ hx.symm
      obtain ⟨used, rfl, hmember⟩ := member_front (reads_front k).1 hr hcolon hv
      obtain ⟨comma, rfl, hcomma⟩ := comma_front hend
      obtain ⟨hends, r'', hmark, hskip⟩ := hcomma before
        (hr₄ ▸ noSpace_skipSpace r₄).of_append
      obtain ⟨r₁', r₂', hstring, hcolon', hv'⟩ := hmember _ hends
      refine ⟨'"' :: (used ++ (comma ++ before)), v, ?_, hlong, ?_⟩
      · simp only [hr₄, List.cons_append, List.append_assoc]
      · rw [(MembersStep.next hstring hcolon' hv' hmark).eq, hskip, hbefore]
  | noComma hr hcolon hv hend => cases hx

include hvalue hitems in
theorem items_stop (acc : List Document) : StopsAtInteger n (items (k + 1) acc) := by
  intro s h
  have hstep := items_step k acc s
  rw [h] at hstep
  generalize hx : (Except.error (.tooManyDigits n) : Except Stop (Document × List Char)) = x
    at hstep
  cases hstep with
  | failed hv =>
      cases hx
      obtain ⟨before, v, rfl, hlong, hbefore⟩ := hvalue _ hv
      exact ⟨before, v, rfl, hlong, (ItemsStep.failed hbefore).eq⟩
  | closed hv hend => cases hx
  | @next _ _ r' hv hend =>
      obtain ⟨before, v, hr', hlong, hbefore⟩ := hitems _ _ hx.symm
      obtain ⟨used, hne, rfl, hread⟩ := (reads_front k).1 _ _ _ hv
      obtain ⟨comma, rfl, hcomma⟩ := comma_front hend
      obtain ⟨hends, r'', hmark, hskip⟩ := hcomma before
        (hr' ▸ noSpace_skipSpace r').of_append
      refine ⟨used ++ (comma ++ before), v, by simp only [hr', List.append_assoc], hlong, ?_⟩
      rw [(ItemsStep.next (hread _ hends) hmark).eq, hskip, hbefore]
  | noComma hv hend => cases hx

end Step

/-- A text that is refused for the length of an integer is cut in front of that integer. -/
theorem stopsAtInteger (k n : Nat) :
    StopsAtInteger n (value k) ∧ (∀ acc, StopsAtInteger n (members k acc)) ∧
      ∀ acc, StopsAtInteger n (items k acc) := by
  induction k with
  | zero =>
      refine ⟨fun s h => ?_, fun acc s h => ?_, fun acc s h => ?_⟩
      · rw [value] at h
        cases h
      · rw [members] at h
        cases h
      · rw [items] at h
        cases h
  | succ k ih =>
      obtain ⟨hvalue, hmembers, hitems⟩ := ih
      exact ⟨value_stops hmembers hitems, members_stop hvalue hmembers, items_stop hvalue hitems⟩

/-- An integer begins with neither a blank nor a bracket, nor with a byte order mark. -/
theorem head_of_tooManyDigits {v : List Char} {n : Nat}
    (hv : scalar v = .error (.tooManyDigits n)) :
    NoSpace v ∧ Unmarked v ∧ (∀ t, v ≠ ']' :: t) ∧ ∀ t, v ≠ '\uFEFF' :: t := by
  have hmark : ∀ {c : Char} {t : List Char}, v = c :: t → isSpace c = false ∧
      c ≠ '"' ∧ c ≠ '{' ∧ c ≠ '[' ∧ c ≠ ']' ∧ c ≠ '\uFEFF' →
      NoSpace v ∧ Unmarked v ∧ (∀ t, v ≠ ']' :: t) ∧ ∀ t, v ≠ '\uFEFF' :: t := by
    rintro c t rfl ⟨hspace, hquote, hbrace, hbracket, hclose, hbom⟩
    have hhead : ∀ {d : Char}, c ≠ d → ∀ t', c :: t ≠ d :: t' := fun hd t' h =>
      hd (List.head_eq_of_cons_eq h)
    exact ⟨noSpace_cons hspace, fun r => ⟨hhead hquote r, hhead hbrace r, hhead hbracket r⟩,
      hhead hclose, hhead hbom⟩
  obtain ⟨sign, ds, rest, rfl, hint, -⟩ := scalar_tooManyDigits_iff.1 hv
  rcases hint.sign with rfl | rfl
  · cases ds with
    | nil => exact absurd rfl hint.nonempty
    | cons d ds =>
        have hd : Text.isDigit d = true := hint.digits d (List.mem_cons_self ..)
        refine hmark rfl ⟨?_, ?_, ?_, ?_, ?_, ?_⟩
        · cases hspace : isSpace d with
          | false => rfl
          | true =>
              simp only [isSpace, Bool.or_eq_true, beq_iff_eq] at hspace
              rcases hspace with ((rfl | rfl) | rfl) | rfl <;> exact absurd hd (by decide)
        all_goals
          rintro rfl
          exact absurd hd (by decide)
  · exact hmark rfl (by decide)

/-- Behind a text of less than half as many characters that is refused at its end for want of
a value, a reader comes to an integer of too many digits. -/
def Resumes (v : List Char) (n limit : Nat)
    (read : List Char → Except Stop (Document × List Char)) : Prop :=
  ∀ s, 2 * s.length < limit → read s = .error (.fault .expectingValue []) →
    read (s ++ v) = .error (.tooManyDigits n)

section Step

variable {v : List Char} {k n : Nat} (hlong : scalar v = .error (.tooManyDigits n))
  (hvalue : Resumes v n k (value k)) (hmembers : ∀ acc, Resumes v n k (members k acc))
  (hitems : ∀ acc, Resumes v n (k - 1) (items k acc))

include hlong in
theorem noSpace_joined (r : List Char) : NoSpace (skipSpace r ++ v) :=
  skipSpace_append (head_of_tooManyDigits hlong).1 ▸ noSpace_skipSpace (r ++ v)

include hlong hmembers hitems in
theorem value_resumes : Resumes v n (k + 1) (value (k + 1)) := by
  intro s hs h
  obtain ⟨hspace, hmarks, hclose, -⟩ := head_of_tooManyDigits hlong
  have hstep := value_step k s
  rw [h] at hstep
  generalize hx : (Except.error (.fault .expectingValue []) :
    Except Stop (Document × List Char)) = x at hstep
  cases hstep with
  | string hr => cases hx
  | badString hr =>
      cases hx
      obtain ⟨f, _, hfault, hf⟩ := stringBody_error hr
      cases hfault
      exact absurd rfl hf
  | emptyObject hr => cases hx
  | @object r hr =>
      have hlen := length_skipSpace_le r
      rw [List.length_cons] at hs
      have hread := hmembers _ _ (by omega) hx.symm
      rw [← skipSpace_append hspace] at hread
      refine (ValueStep.object (r := r ++ v) fun r' ht => ?_).eq.trans hread
      rw [skipSpace_append hspace] at ht
      cases hr' : skipSpace r with
      | nil =>
          rw [hr', members_nil] at hx
          cases hx
      | cons c t =>
          rw [hr', List.cons_append] at ht
          obtain rfl : c = '}' := List.head_eq_of_cons_eq ht
          exact hr t hr'
  | emptyArray hr => cases hx
  | @array r hr =>
      have hlen := length_skipSpace_le r
      rw [List.length_cons] at hs
      have hread := hitems _ _ (by omega) hx.symm
      rw [← skipSpace_append hspace] at hread
      refine (ValueStep.array (r := r ++ v) fun r' ht => ?_).eq.trans hread
      rw [skipSpace_append hspace] at ht
      cases hr' : skipSpace r with
      | nil => exact hclose r' (by rwa [hr'] at ht)
      | cons c t =>
          rw [hr', List.cons_append] at ht
          obtain rfl : c = ']' := List.head_eq_of_cons_eq ht
          exact hr t hr'
  | scalar hmarks hs => cases hx
  | badScalar _ hs =>
      cases hx
      rcases scalar_error hs with hnil | ⟨n, hn⟩
      · cases hnil
        exact (ValueStep.badScalar hmarks hlong).eq
      · cases hn

include hlong hvalue hmembers in
theorem members_resume (acc : List (Scalar × Document)) :
    Resumes v n (k + 1) (members (k + 1) acc) := by
  intro s hs h
  have hstep := members_step k acc s
  rw [h] at hstep
  generalize hx : (Except.error (.fault .expectingValue []) :
    Except Stop (Document × List Char)) = x at hstep
  cases hstep with
  | unnamed hs => cases hx
  | badName hr =>
      cases hx
      obtain ⟨f, _, hfault, hf⟩ := stringBody_error hr
      cases hfault
      exact absurd rfl hf
  | noColon hr hcolon => cases hx
  | failed hr hcolon hv =>
      cases hx
      obtain ⟨name, rfl, hname⟩ := name_front hr hcolon
      rw [List.length_cons, List.length_append] at hs
      have hread := hvalue _ (by omega) hv
      obtain ⟨r₁', r₂', hstring, hcolon', hskip⟩ := hname _ (noSpace_joined hlong _)
      rw [← hskip] at hread
      rw [List.cons_append, List.append_assoc]
      exact (MembersStep.failed hstring hcolon' hread).eq
  | closed hr hcolon hv hend => cases hx
  | next hr hcolon hv hend =>
      obtain ⟨used, rfl, hmember⟩ := member_front (reads_front k).1 hr hcolon hv
      obtain ⟨comma, rfl, hcomma⟩ := comma_front hend
      rw [List.length_cons, List.length_append, List.length_append] at hs
      have hread := hmembers _ _ (by omega) hx.symm
      obtain ⟨hends, r'', hmark, hskip⟩ := hcomma _ (noSpace_joined hlong _)
      obtain ⟨r₁', r₂', hstring, hcolon', hv'⟩ := hmember _ hends
      rw [← hskip] at hread
      rw [List.cons_append, List.append_assoc, List.append_assoc]
      exact (MembersStep.next hstring hcolon' hv' hmark).eq.trans hread
  | noComma hr hcolon hv hend => cases hx

include hlong hvalue hitems in
theorem items_resume (acc : List Document) : Resumes v n k (items (k + 1) acc) := by
  intro s hs h
  have hstep := items_step k acc s
  rw [h] at hstep
  generalize hx : (Except.error (.fault .expectingValue []) :
    Except Stop (Document × List Char)) = x at hstep
  cases hstep with
  | failed hv =>
      cases hx
      exact (ItemsStep.failed (hvalue _ (by omega) hv)).eq
  | closed hv hend => cases hx
  | next hv hend =>
      obtain ⟨used, hne, rfl, hread⟩ := (reads_front k).1 _ _ _ hv
      obtain ⟨comma, rfl, hcomma⟩ := comma_front hend
      have hused := List.length_pos_iff.2 hne
      rw [List.length_append, List.length_append] at hs
      have hothers := hitems _ _ (by omega) hx.symm
      obtain ⟨hends, r'', hmark, hskip⟩ := hcomma _ (noSpace_joined hlong _)
      rw [← hskip] at hothers
      rw [List.append_assoc, List.append_assoc]
      exact (ItemsStep.next (hread _ hends) hmark).eq.trans hothers
  | noComma hv hend => cases hx

end Step

/-- Behind a text that is refused at its end for want of a value, an integer of too many
digits is come to. -/
theorem tooManyDigits_of_awaits {v : List Char} {n : Nat}
    (hlong : scalar v = .error (.tooManyDigits n)) (k : Nat) :
    Resumes v n k (value k) ∧ (∀ acc, Resumes v n k (members k acc)) ∧
      ∀ acc, Resumes v n (k - 1) (items k acc) := by
  induction k with
  | zero =>
      exact ⟨fun s h => absurd h (Nat.not_lt_zero _), fun _ s h => absurd h (Nat.not_lt_zero _),
        fun _ s h => absurd h (Nat.not_lt_zero _)⟩
  | succ k ih =>
      obtain ⟨hvalue, hmembers, hitems⟩ := ih
      exact ⟨value_resumes hlong hmembers hitems, members_resume hlong hvalue hmembers,
        items_resume hlong hvalue hitems⟩

/-- A text awaits a value: it is refused at its end, where one is expected. -/
def Awaits (s : List Char) : Prop := readChars s = .error (.fault .expectingValue [])

theorem readChars_error_iff {s : List Char} {e : Stop}
    (he : ∀ f rest, e = .fault f rest → f ≠ .extraData ∧ f ≠ .byteOrderMark) :
    readChars s = .error e ↔
      (∀ t, s ≠ '\uFEFF' :: t) ∧ value (2 * s.length + 2) (skipSpace s) = .error e := by
  unfold readChars
  split
  · next t =>
      refine ⟨fun h => ?_, fun h => absurd rfl (h.1 t)⟩
      exact absurd rfl (he _ _ (Except.error.inj h).symm).2
  · next hbom =>
      cases hv : value (2 * s.length + 2) (skipSpace s) with
      | error e' =>
          simp only [bind, Except.bind]
          exact ⟨fun h => ⟨hbom, congrArg _ (Except.error.inj h)⟩,
            fun h => congrArg _ (Except.error.inj h.2)⟩
      | ok x =>
          refine ⟨fun h => ?_, fun h => nomatch h.2⟩
          simp only [bind, Except.bind] at h
          split at h
          · cases h
          · exact absurd rfl (he _ _ (Except.error.inj h).symm).1

theorem value_steps {k : Nat} {s : List Char} (h : 2 * s.length < k) (j : Nat) :
    value (k + j) s = value k s := by
  induction j with
  | zero => rfl
  | succ j ih => exact ((steps_enough (k + j)).1 s (by omega)).trans ih

theorem value_steps_eq {k k' : Nat} {s : List Char} (h : 2 * s.length < k)
    (h' : 2 * s.length < k') : value k s = value k' s := by
  have hk := value_steps h k'
  have hk' := value_steps h' k
  rw [Nat.add_comm] at hk'
  exact hk.symm.trans hk'

/-- A text is refused for the length of an integer just when the integer stands behind a text
that awaits a value. -/
theorem readChars_tooManyDigits_iff {s : List Char} {n : Nat} :
    readChars s = .error (.tooManyDigits n) ↔
      ∃ before sign ds rest, s = before ++ (sign ++ (ds ++ rest)) ∧ Awaits before ∧
        IsInteger sign ds rest ∧ ds.length = n ∧ Text.digitLimit < n := by
  have hvalue : ∀ f rest, Stop.fault .expectingValue [] = .fault f rest →
      f ≠ .extraData ∧ f ≠ .byteOrderMark := by
    rintro f rest ⟨⟩
    decide
  rw [readChars_error_iff fun _ _ h => by cases h]
  constructor
  · rintro ⟨hbom, h⟩
    obtain ⟨front, v, hs, hlong, hfront⟩ := (stopsAtInteger _ n).1 _ h
    obtain ⟨sign, ds, rest, rfl, hint⟩ := scalar_tooManyDigits_iff.1 hlong
    obtain ⟨blanks, hblanks, -, hskip⟩ := skipSpace_front s
    have hskip := hskip front (hs ▸ noSpace_skipSpace s).of_append
    rw [hs] at hblanks
    refine ⟨blanks ++ front, sign, ds, rest, by rw [List.append_assoc, ← hblanks], ?_, hint⟩
    refine (readChars_error_iff hvalue).2 ⟨fun t ht => ?_, ?_⟩
    · refine hbom (t ++ (sign ++ (ds ++ rest))) ?_
      rw [hblanks, ← List.append_assoc, ht, List.cons_append]
    · rw [hskip, ← hfront]
      have hlen := congrArg List.length hblanks
      simp only [List.length_append] at hlen ⊢
      exact value_steps_eq (by omega) (by omega)
  · rintro ⟨before, sign, ds, rest, rfl, hbefore, hint⟩
    have hlong := scalar_tooManyDigits_iff.2 ⟨sign, ds, rest, rfl, hint⟩
    generalize sign ++ (ds ++ rest) = v at hlong ⊢
    obtain ⟨hspace, -, -, hbom⟩ := head_of_tooManyDigits hlong
    obtain ⟨hbefore, hread⟩ := (readChars_error_iff hvalue).1 hbefore
    have hlen := length_skipSpace_le before
    refine ⟨fun t ht => ?_, ?_⟩
    · cases before with
      | nil => exact hbom t ht
      | cons c before => exact hbefore before (congrArg (· :: before) (List.head_eq_of_cons_eq ht))
    · rw [skipSpace_append hspace]
      refine (tooManyDigits_of_awaits hlong _).1 _ (by rw [List.length_append]; omega) ?_
      rw [← hread]
      exact value_steps_eq (by rw [List.length_append]; omega) (by omega)

end MigrationConfig.Json
