/-
# Which streams the library closes, and who still sees them

Two laws are stated of every history.  The library closes nothing but files that it
has opened, and among them only the one of the configuration at hand
(`closes_only_own`).  An output that is refused closes nothing at all, unless it is
refused because that very file cannot be closed.

The other law has exceptions.  A configuration goes on showing a stream that has been
closed just when the file was shared or was stuck.  Copying hands a stream on without the
path, so the owner does not know of the others, and closes it when it opens another file;
and a file that cannot be closed without a fault is closed and keeps its place
(`clean_iff_careful`).
-/
import MigrationConfig.Proofs.History

namespace MigrationConfig

namespace Session

namespace History

variable {s : Session}

/-! ## What is closed -/

/-- A command closes at most the file of a configuration, which then goes on without it
unless it was stuck, and it touches no other configuration. -/
theorem closes_owned (H : History s) {k : Command} {n : StreamId} (hn : s.Closes k n) :
    ∃ id c d p, s.config? id = some c ∧ c.Owns n p ∧ s.host.origin? n = some (.opened p) ∧
      (s.perform k).2.config? id = some d ∧ (d.Exposes n ↔ s.host.stuck? n ≠ none) ∧
      ∀ id', id' ≠ id → (s.perform k).2.config? id' = s.config? id' := by
  rcases (s.perform_turned k).closes hn.2 with hclosed | ⟨id, c, d, p, hc, hp, hd, hgiven, hothers⟩
  · rw [hn.1] at hclosed
    cases hclosed
  · exact ⟨id, c, d, p, hc, hp, H.origin_of_owns hc hp, hd, hgiven, hothers⟩

/-- What a command closes is not stuck if the run has left the files of the library alone. -/
theorem stuck?_of_closes (H : History s) (hH : H.LeftAlone) {k : Command} {n : StreamId}
    (hn : s.Closes k n) : s.host.stuck? n = none := by
  obtain ⟨-, -, -, p, -, -, ho, -⟩ := H.closes_owned hn
  exact H.stuck?_of_leftAlone hH ho

theorem origin_of_closed (H : History s) {n : StreamId} (hn : H.Closed n) :
    ∃ p, s.host.origin? n = some (.opened p) := by
  induction H with
  | new h hgiven => cases hn
  | @perform s k H ih =>
      have hturned := s.perform_turned k
      rcases hn with hn | hn
      · obtain ⟨p, hp⟩ := ih hn
        exact ⟨p, hturned.origin hp⟩
      · obtain ⟨id, c, d, p, -, -, ho, -⟩ := H.closes_owned hn
        exact ⟨p, hturned.origin ho⟩
  | meanwhile H hi ih =>
      obtain ⟨p, hp⟩ := ih hn
      exact ⟨p, hi.origin hp⟩

end History

/-- An output that is refused leaves all streams as they are, unless it is refused because
the old one could not be closed. -/
theorem perform_output_error {s : Session} {id : String} {a : OutputArgument} {e : Error}
    (he : (s.perform (.change id (.assign .dryRunOutput a))).1 = .error e) :
    (s.perform (.change id (.assign .dryRunOutput a))).2.host.streams = s.host.streams ∨
      ∃ c, s.config? id = some c ∧
        c.Jams s.host (s.perform (.change id (.assign .dryRunOutput a))).2.host e := by
  unfold Session.perform runOn onConfig at he ⊢
  simp only at he ⊢
  cases hc : s.config? id with
  | none => exact .inl rfl
  | some c =>
      rw [hc] at he
      simp only [Procedure.run_change] at he ⊢
      rcases hr : ((Change.assign .dryRunOutput a).perform c).run s.host with ⟨r, h'⟩
      rw [hr] at he
      cases r with
      | ok d => cases he
      | error e' =>
          cases he
          exact (Config.assign_output_error hr).imp_right fun hjams => ⟨c, rfl, hjams⟩

namespace History

variable {s : Session}

/-- In every run, all that the library has closed are files that it had opened itself, and
each command closes none but that of a configuration which has it under its path.

An output that is refused closes nothing, after a run of calls of the library or any other
that gets no file of the library stuck.  If callers do that in between, by what they write
to such a file, an output is refused also because that file cannot be closed without a
fault; then this one file is closed all the same. -/
theorem closes_only_own (H : History s) :
    (∀ n, H.Closed n → H.Opened n ∧ ∃ p, s.host.origin? n = some (.opened p)) ∧
      (∀ k n, s.Closes k n → ∃ id c p, s.config? id = some c ∧ c.Owns n p ∧
        s.host.origin? n = some (.opened p)) ∧
      ∀ id a e, let k : Command := .change id (.assign .dryRunOutput a)
        (s.perform k).1 = .error e →
          (H.LeftAlone → (s.perform k).2.host.streams = s.host.streams) ∧
          ((s.perform k).2.host.streams = s.host.streams ∨
            ∃ c, s.config? id = some c ∧ c.Jams s.host (s.perform k).2.host e) := by
  refine ⟨fun n hn => ?_, fun k n hn => ?_, ?_⟩
  · obtain ⟨p, ho⟩ := H.origin_of_closed hn
    exact ⟨H.opened_of_origin ho, p, ho⟩
  · obtain ⟨id, c, d, p, hc, hp, ho, -⟩ := H.closes_owned hn
    exact ⟨id, c, p, hc, hp, ho⟩
  · intro id a e k he
    refine ⟨fun hH => (perform_output_error he).resolve_right ?_, perform_output_error he⟩
    rintro ⟨c, hc, n, f, hstuck, -⟩
    exact H.not_ownsStuck hH hc hstuck

/-- A second file closes the first; a directory is refused and closes nothing. -/
theorem closes_only_own_replaced :
    let s₁ := ((Session.new .bare).perform (.create "c" "teams" none)).2
    let s := (s₁.perform (.change "c" (.assign .dryRunOutput (.file ⟨"", ["a"]⟩)))).2
    let k := Command.change "c" (.assign .dryRunOutput (.file ⟨"", ["b"]⟩))
    let refused := Command.change "c" (.assign .dryRunOutput (.file ⟨"", []⟩))
    ∃ H : History s, (H.perform k).Closed 0 ∧ (H.perform k).Opened 0 ∧
      (∃ id c p, s.config? id = some c ∧ c.Owns 0 p ∧ s.host.origin? 0 = some (.opened p)) ∧
      (s.perform refused).1.isOk = false ∧
      (s.perform refused).2.host.streams = s.host.streams := by
  intro s₁ s k refused
  have hempty : ∀ {n o}, Host.bare.origin? n = some o → ∃ label, o = .given label := by
    intro n o ho
    cases ho
  let H : History s := .perform _ (.perform _ (.new .bare hempty))
  have hclosed : (H.perform k).Closed 0 := .inr ⟨by decide +kernel, by decide +kernel⟩
  obtain ⟨hall, -, -⟩ := (H.perform k).closes_only_own
  obtain ⟨-, howner, herror⟩ := H.closes_only_own
  have hrefused : (s.perform refused).1.isOk = false := by decide +kernel
  obtain ⟨e, he⟩ : ∃ e, (s.perform refused).1 = .error e := by
    cases hr : (s.perform refused).1 with
    | ok a => rw [hr] at hrefused; cases hrefused
    | error e => exact ⟨e, rfl⟩
  exact ⟨H, hclosed, (hall 0 hclosed).1,
    howner k 0 ⟨by decide +kernel, by decide +kernel⟩, hrefused,
    (herror "c" (.file ⟨"", []⟩) e he).1 trivial⟩

end History

/-! ## Who still sees it -/

/-- At most one configuration exposes a stream. -/
def Sole (s : Session) (n : StreamId) : Prop :=
  ∀ {id id' c c'}, s.config? id = some c → s.config? id' = some c' → c.Exposes n →
    c'.Exposes n → id = id'

/-- The streams that configurations expose, by the names of these. -/
def exposures (s : Session) : List (String × StreamId) :=
  s.configs.filterMap fun e => (e.2.get .dryRunOutput).map fun sink => (e.1, sink.stream)

theorem sole_of_nodup {s : Session} (hs : (s.exposures.map Prod.snd).Nodup) (n : StreamId) :
    s.Sole n := by
  have hmem : ∀ {id c}, s.config? id = some c → c.Exposes n → (id, n) ∈ s.exposures := by
    intro id c hc hn
    refine List.mem_filterMap.2 ⟨(id, c), Entries.mem_of_get? hc, ?_⟩
    obtain ⟨sink, hsink, rfl⟩ := Option.map_eq_some_iff.1 hn
    rw [hsink]
    rfl
  intro id id' c c' hc hc' hn hn'
  exact congrArg Prod.fst (List.inj_on_of_nodup_map hs (hmem hc hn) (hmem hc' hn') rfl)

namespace History

/-- The streams that callers hand in are there, and open. -/
def Wary : {s : Session} → History s → Prop
  | _, new _ _ => True
  | _, @perform s k H =>
      H.Wary ∧ ∀ n, k.HandsIn n → s.host.origin? n ≠ none ∧ s.host.isClosed n = false
  | _, meanwhile H _ => H.Wary

/-- No configuration ever exposes a stream that the library has closed. -/
def Clean : {s : Session} → History s → Prop
  | _, new _ _ => True
  | _, @perform s k H =>
      H.Clean ∧ (s.perform k).2.Holds fun c => ∀ n, c.Exposes n → ¬ (H.perform k).Closed n
  | _, meanwhile H _ => H.Clean

/-- No command closes a stream that two configurations expose, or one that is stuck. -/
def Careful : {s : Session} → History s → Prop
  | _, new _ _ => True
  | _, @perform s k H => H.Careful ∧ ∀ n, s.Closes k n → s.Sole n ∧ s.host.stuck? n = none
  | _, meanwhile H _ => H.Careful

variable {s : Session}

/-- What has been clean all the time is clean now. -/
theorem Clean.not_closed {H : History s} (hH : H.Clean) :
    s.Holds fun c => ∀ n, c.Exposes n → ¬ H.Closed n := by
  induction H with
  | new h hgiven => exact fun id c hc n hn hclosed => hclosed
  | perform k H ih => exact hH.2
  | meanwhile H hi ih => exact (ih hH).of_configs hi.configs

/-- In a run that stays clean nobody beside the owner exposes a stream that is closed,
for nobody else gives it up; and the owner does give it up. -/
theorem sole_of_clean (H : History s) {k : Command} (hH : (H.perform k).Clean) {n : StreamId}
    (hn : s.Closes k n) : s.Sole n ∧ s.host.stuck? n = none := by
  obtain ⟨owner, d, d', p, hd, hp, ho, hd', hgiven, hothers⟩ := H.closes_owned hn
  have howner : ∀ id c, s.config? id = some c → c.Exposes n → id = owner := by
    intro id c hc hexposes
    by_contra hne
    have hkept : (s.perform k).2.config? id = some c := (hothers id hne).trans hc
    exact hH.2 id c hkept n hexposes (.inr hn)
  refine ⟨fun {id id' c c'} hc hc' hexposes hexposes' => ?_, ?_⟩
  · exact (howner id c hc hexposes).trans (howner id' c' hc' hexposes').symm
  · by_contra hstuck
    exact hH.2 owner d' hd' n (hgiven.2 hstuck) (.inr hn)

/-- If only the owner exposes the stream that a command closes, and it is not stuck, nobody
does after it; and nobody takes up one that was closed before. -/
theorem not_closed_of_sole (H : History s) {k : Command} (hH : H.Clean)
    (hwary : ∀ n, k.HandsIn n → s.host.origin? n ≠ none ∧ s.host.isClosed n = false)
    (hsole : ∀ n, s.Closes k n → s.Sole n ∧ s.host.stuck? n = none) :
    (s.perform k).2.Holds fun c => ∀ n, c.Exposes n → ¬ (H.perform k).Closed n := by
  rintro id c hc n hn (hclosed | hcloses)
  · have hisClosed := H.isClosed_of_closed hclosed
    rcases (s.perform_turned k).exposes hc hn with ⟨id', c', hc', hn'⟩ | hhanded | hnew
    · exact hH.not_closed id' c' hc' n hn' hclosed
    · rw [(hwary n hhanded).2] at hisClosed
      cases hisClosed
    · exact Host.origin?_of_isClosed hisClosed hnew
  · obtain ⟨owner, d, d', p, hd, hp, -, hd', hgiven, hothers⟩ := H.closes_owned hcloses
    obtain ⟨honly, hstuck⟩ := hsole n hcloses
    by_cases hid : id = owner
    · subst hid
      cases hc.symm.trans hd'
      exact hgiven.1 hn hstuck
    · have hc' : s.config? id = some c := (hothers id hid).symm.trans hc
      exact hid (honly hc' hd hn hp.exposes)

/-- With callers that pass open streams only, no configuration ever shows a stream
that the library has closed just when the library never closes a stream that two
configurations show, nor one that cannot be closed without a fault. -/
theorem clean_iff_careful (H : History s) (hwary : H.Wary) : H.Clean ↔ H.Careful := by
  induction H with
  | new h hgiven => exact Iff.rfl
  | @perform s k H ih =>
      constructor
      · intro hH
        exact ⟨(ih hwary.1).1 hH.1, fun n hn => H.sole_of_clean hH hn⟩
      · intro hH
        have hclean := (ih hwary.1).2 hH.1
        exact ⟨hclean, H.not_closed_of_sole hclean hwary.2 hH.2⟩
  | meanwhile H hi ih => exact ih hwary

/-- Two configurations with a stream of their own each, one from the caller and one
that is closed when another file is opened. -/
theorem clean_iff_careful_apart :
    let h : Host := { Host.bare with streams := [⟨.given "w", false, none⟩] }
    let s₁ := ((Session.new h).perform (.create "a" "teams" none)).2
    let s₂ := (s₁.perform (.change "a" (.assign .dryRunOutput (.file ⟨"", ["a"]⟩)))).2
    let s₃ := (s₂.perform (.create "b" "enterprise" none)).2
    let s₄ := (s₃.perform (.change "b" (.assign .dryRunOutput (.stream (some 0))))).2
    let s := (s₄.perform (.change "a" (.assign .dryRunOutput (.file ⟨"", ["b"]⟩)))).2
    ∃ H : History s, H.Wary ∧ H.Clean ∧ H.Closed 1 := by
  intro h s₁ s₂ s₃ s₄ s
  have hgiven : ∀ {n o}, h.origin? n = some o → ∃ label, o = .given label := by
    intro n o ho
    cases n with
    | zero =>
        cases ho
        exact ⟨"w", rfl⟩
    | succ n => cases ho
  let H₁ : History s₁ := .perform _ (.new h hgiven)
  let H₂ : History s₂ := .perform _ H₁
  let H₃ : History s₃ := .perform _ H₂
  let H₄ : History s₄ := .perform _ H₃
  let H : History s := .perform _ H₄
  have hhanded : s₃.host.origin? 0 ≠ none ∧ s₃.host.isClosed 0 = false := by decide +kernel
  have hwary : H.Wary := by
    refine ⟨⟨⟨⟨⟨trivial, ?_⟩, ?_⟩, ?_⟩, ?_⟩, ?_⟩ <;> intro n hn <;> cases hn
    exact hhanded
  have hstep : ∀ {s : Session} {k : Command} (H : History s), H.LeftAlone →
      (s.exposures.map Prod.snd).Nodup →
      ∀ n, s.Closes k n → s.Sole n ∧ s.host.stuck? n = none :=
    fun H hH hs n hn => ⟨sole_of_nodup hs n, H.stuck?_of_closes hH hn⟩
  have hcareful : H.Careful :=
    ⟨⟨⟨⟨⟨trivial, hstep (.new h hgiven) trivial (by decide +kernel)⟩,
      hstep H₁ trivial (by decide +kernel)⟩, hstep H₂ trivial (by decide +kernel)⟩,
      hstep H₃ trivial (by decide +kernel)⟩, hstep H₄ trivial (by decide +kernel)⟩
  exact ⟨H, hwary, (H.clean_iff_careful hwary).2 hcareful,
    .inr ⟨by decide +kernel, by decide +kernel⟩⟩

/-- A file that was shared by a copy is closed under the copy. -/
theorem shared_file_closed :
    let s₁ := ((Session.new .bare).perform (.create "a" "teams" none)).2
    let s₂ := (s₁.perform (.create "b" "teams" none)).2
    let s₃ := (s₂.perform (.change "a" (.assign .dryRunOutput (.file ⟨"", ["a.sql"]⟩)))).2
    let s₄ := (s₃.perform (.copy "b" "a")).2
    let s := (s₄.perform (.change "a" (.assign .dryRunOutput (.file ⟨"", ["b.sql"]⟩)))).2
    ∃ H : History s, H.Wary ∧ ¬ H.Clean ∧
      ∃ c, s.config? "b" = some c ∧ c.edition = .teams ∧ c.Exposes 0 ∧ H.Closed 0 := by
  have hempty : ∀ {n o}, Host.bare.origin? n = some o → ∃ label, o = .given label := by
    intro n o ho
    cases ho
  have hshown : ∀ {s : Session} {k : Command} (H : History s), (H.perform k).Wary →
      (s.host.isClosed 0 = false ∧ (s.perform k).2.host.isClosed 0 = true ∧
        ((s.perform k).2.config? "b").map (fun c =>
          (c.edition, (c.get .dryRunOutput).map Sink.stream)) = some (.teams, some 0)) →
      ∃ H : History (s.perform k).2, H.Wary ∧ ¬ H.Clean ∧
        ∃ c, (s.perform k).2.config? "b" = some c ∧ c.edition = .teams ∧ c.Exposes 0 ∧
          H.Closed 0 := by
    rintro s k H hwary ⟨hbefore, hafter, hseen⟩
    have hclosed : (H.perform k).Closed 0 := .inr ⟨hbefore, hafter⟩
    obtain ⟨c, hc, hlook⟩ := Option.map_eq_some_iff.1 hseen
    obtain ⟨hedition, hexposes⟩ := Prod.mk.inj hlook
    refine ⟨H.perform k, hwary, fun hclean => ?_, c, hc, hedition, hexposes, hclosed⟩
    exact hclean.not_closed "b" c hc 0 hexposes hclosed
  dsimp only
  refine hshown (.perform _ (.perform _ (.perform _ (.perform _ (.new .bare hempty))))) ?_
    (by decide +kernel)
  refine ⟨⟨⟨⟨⟨trivial, ?_⟩, ?_⟩, ?_⟩, ?_⟩, ?_⟩ <;> intro n hn <;> cases hn

end History

end Session

end MigrationConfig
