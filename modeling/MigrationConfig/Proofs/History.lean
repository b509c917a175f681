/-
# Runs of a session

A run is kept as a history here, so that the streams which the library itself has opened
or closed can be told from those of a caller (`History.Opened`, `History.Closed`).

The invariant of all runs is that whoever has a path has the file of this path
(`origin_of_owns`).  No command gets a file stuck, for the library writes to none; only
who writes to a file in between can.  So a run that leaves the files of the library alone
in this respect (`History.LeftAlone`) can close each of them (`not_ownsStuck`).
-/
import MigrationConfig.Proofs.Turned

namespace MigrationConfig

namespace Session

/-! ## Histories -/

/-- A stream that was not closed before a command is closed after it. -/
def Closes (s : Session) (k : Command) (n : StreamId) : Prop :=
  s.host.isClosed n = false ∧ (s.perform k).2.host.isClosed n = true

/-- What may happen between two commands: anything that leaves the configurations
alone and opens no closed stream.  What callers make is theirs. -/
structure Interlude (s s' : Session) : Prop where
  configs : s'.configs = s.configs
  origin : ∀ {n o}, s.host.origin? n = some o → s'.host.origin? n = some o
  stays : ∀ {n}, s.host.isClosed n = true → s'.host.isClosed n = true
  given : ∀ {n o}, s.host.origin? n = none → s'.host.origin? n = some o →
    ∃ label, o = .given label

/-- The run that has led to a session.  It begins on a host where the library has
opened nothing yet. -/
inductive History : Session → Type where
  | new (h : Host) : (∀ {n o}, h.origin? n = some o → ∃ label, o = .given label) →
      History (.new h)
  | perform {s : Session} (k : Command) : History s → History (s.perform k).2
  | meanwhile {s s' : Session} : History s → s.Interlude s' → History s'

namespace History

/-- The streams that commands have closed. -/
def Closed : {s : Session} → History s → StreamId → Prop
  | _, new _ _, _ => False
  | _, @perform s k H, n => H.Closed n ∨ s.Closes k n
  | _, meanwhile H _, n => H.Closed n

/-- The streams that commands have opened: there was no such stream before. -/
def Opened : {s : Session} → History s → StreamId → Prop
  | _, new _ _, _ => False
  | _, @perform s k H, n =>
      H.Opened n ∨ (s.host.origin? n = none ∧ (s.perform k).2.host.origin? n ≠ none)
  | _, meanwhile H _, n => H.Opened n

/-- What happens between the commands gets no file stuck that the library has opened.  A run
of commands alone is of this kind. -/
def LeftAlone : {s : Session} → History s → Prop
  | _, new _ _ => True
  | _, perform _ H => H.LeftAlone
  | _, @meanwhile _ s' H _ =>
      H.LeftAlone ∧ ∀ n p, s'.host.origin? n = some (.opened p) → s'.host.stuck? n = none

variable {s : Session}

theorem isClosed_of_closed (H : History s) {n : StreamId} (hn : H.Closed n) :
    s.host.isClosed n = true := by
  induction H with
  | new h hgiven => cases hn
  | @perform s k H ih =>
      rcases hn with hn | hn
      · exact (s.perform_turned k).stays (ih hn)
      · exact hn.2
  | meanwhile H hi ih => exact hi.stays (ih hn)

/-! ## Files that were opened -/

/-- Who has a path has the file of this path. -/
theorem origin_of_owns (H : History s) {id : String} {c : Config} {n : StreamId} {p : Path}
    (hc : s.config? id = some c) (hn : c.Owns n p) : s.host.origin? n = some (.opened p) := by
  induction H generalizing id c with
  | new h hgiven => cases hc
  | @perform s k H ih =>
      have hturned := s.perform_turned k
      rcases hturned.owns hc hn with ⟨d, hd, hn⟩ | hn
      · exact hturned.origin (ih hd hn)
      · exact hn
  | @meanwhile s s' H hi ih =>
      have hd : s.config? id = some c := by rw [config?, ← hi.configs]; exact hc
      exact hi.origin (ih hd hn)

/-- Files are opened by commands only. -/
theorem opened_of_origin (H : History s) {n : StreamId} {p : Path}
    (ho : s.host.origin? n = some (.opened p)) : H.Opened n := by
  induction H with
  | new h hgiven =>
      obtain ⟨label, hlabel⟩ := hgiven ho
      cases hlabel
  | @perform s k H ih =>
      cases hbefore : s.host.origin? n with
      | none => exact .inr ⟨hbefore, by rw [ho]; simp⟩
      | some o =>
          have hsame := (s.perform_turned k).origin hbefore
          rw [ho] at hsame
          obtain rfl := Option.some.inj hsame
          exact .inl (ih hbefore)
  | @meanwhile s s' H hi ih =>
      cases hbefore : s.host.origin? n with
      | none =>
          obtain ⟨label, hlabel⟩ := hi.given hbefore ho
          cases hlabel
      | some o =>
          have hsame := hi.origin hbefore
          rw [ho] at hsame
          obtain rfl := Option.some.inj hsame
          exact ih hbefore

/-- What commands open is not stuck, and no command makes it so. -/
theorem stuck?_of_leftAlone (H : History s) (hH : H.LeftAlone) {n : StreamId} {p : Path}
    (ho : s.host.origin? n = some (.opened p)) : s.host.stuck? n = none := by
  induction H with
  | new h hgiven =>
      obtain ⟨label, hlabel⟩ := hgiven ho
      cases hlabel
  | @perform s k H ih =>
      have hturned := s.perform_turned k
      refine hturned.stuck ?_
      cases hbefore : s.host.origin? n with
      | none => exact Host.stuck?_of_origin? hbefore
      | some o =>
          have hsame := hturned.origin hbefore
          rw [ho] at hsame
          obtain rfl := Option.some.inj hsame
          exact ih hH hbefore
  | meanwhile H hi ih => exact hH.2 n p ho

theorem not_ownsStuck (H : History s) (hH : H.LeftAlone) {id : String} {c : Config}
    (hc : s.config? id = some c) {n : StreamId} {f : SystemFault} :
    ¬ c.OwnsStuck s.host n f := by
  rintro ⟨⟨p, hp⟩, hf⟩
  cases hf.symm.trans (H.stuck?_of_leftAlone hH (H.origin_of_owns hc hp))

end History

end Session

end MigrationConfig
