/-
# The streams behind a dry-run output

A configuration *exposes* a stream if its dry-run output goes there.  It *owns* the
stream if it has the path beside it: the library opened that file for this very
setting, and closes it when another output takes its place.  If the file is stuck that
is a fault; it is closed then as well, but its place is not taken.  A stream that was
handed in, or came along with a copy, has no path and is never closed.

Only assignments of the dry-run output move any of this.  A pass makes at most one
of them and so does a copy, so what can become of the streams on the way is the same
in all cases: `Rerouted` lists it, and the proofs about sessions look at nothing
else.
-/
import MigrationConfig.Proofs.Overwritten

namespace MigrationConfig

/-! ## Streams of a host -/

namespace Host

/-- Where a stream comes from, if there is such a stream. -/
def origin? (h : Host) (n : StreamId) : Option StreamOrigin := (h.streams[n]?).map Stream.origin

variable {h : Host} {n : StreamId}

/-- What has been closed is there. -/
theorem origin?_of_isClosed (hn : h.isClosed n = true) : h.origin? n ≠ none := by
  unfold isClosed at hn
  unfold origin?
  cases hs : h.streams[n]? with
  | none => simp [hs] at hn
  | some st => simp

/-- Only what is there can be stuck. -/
theorem stuck?_of_origin? (hn : h.origin? n = none) : h.stuck? n = none := by
  rw [stuck?, Option.map_eq_none_iff.1 hn]

theorem closeStream_getElem? (h : Host) (m n : StreamId) :
    (h.closeStream m).streams[n]? =
      (h.streams[n]?).map fun st => if m = n then { st with isClosed := true } else st := by
  show (h.streams.modify m _)[n]? = _
  rw [List.getElem?_modify]
  rfl

theorem origin?_closeStream (h : Host) (m n : StreamId) :
    (h.closeStream m).origin? n = h.origin? n := by
  unfold origin?
  rw [closeStream_getElem?, Option.map_map]
  congr 1
  funext st
  simp only [Function.comp_apply]
  split <;> rfl

theorem isClosed_closeStream_of_ne {m : StreamId} (hm : m ≠ n) :
    (h.closeStream m).isClosed n = h.isClosed n := by
  unfold isClosed
  rw [closeStream_getElem?]
  simp [hm]

/-- Nothing is opened by closing. -/
theorem isClosed_closeStream (hn : h.isClosed n = true) (m : StreamId) :
    (h.closeStream m).isClosed n = true := by
  unfold isClosed at hn ⊢
  rw [closeStream_getElem?]
  cases hs : h.streams[n]? with
  | none => simp [hs] at hn
  | some st =>
      rw [hs] at hn
      simp only [Option.map_some]
      split
      · rfl
      · exact hn

/-- What is closed by closing. -/
theorem isClosed_closeStream_iff {m : StreamId} (hn : h.origin? n ≠ none) :
    (h.closeStream m).isClosed n = true ↔ h.isClosed n = true ∨ n = m := by
  by_cases hm : m = n
  · subst hm
    refine iff_of_true ?_ (.inr rfl)
    unfold isClosed
    rw [closeStream_getElem?]
    cases hs : h.streams[m]? with
    | none => exact absurd (by rw [origin?, hs]; rfl) hn
    | some st => simp
  · rw [isClosed_closeStream_of_ne hm, or_iff_left (Ne.symm hm)]

/-- What has been closed is closed again without a fault, and nothing else changes. -/
theorem stuck?_closeStream (h : Host) (m n : StreamId) :
    (h.closeStream m).stuck? n = if m = n then none else h.stuck? n := by
  unfold stuck?
  rw [closeStream_getElem?]
  by_cases hm : m = n
  · rw [if_pos hm]
    cases h.streams[n]? with
    | none => rfl
    | some st => simp [hm]
  · simp [hm]

/-- A stream at the end is a new one, and open. -/
theorem getElem?_of_append {h' : Host} {st : Stream} (hs : h'.streams = h.streams ++ [st]) :
    h'.streams[h.streams.length]? = some st ∧
      ∀ n, n ≠ h.streams.length → h'.streams[n]? = h.streams[n]? := by
  rw [hs]
  refine ⟨List.getElem?_concat_length, fun n hn => ?_⟩
  rcases Nat.lt_or_gt_of_ne hn with hlt | hgt
  · exact List.getElem?_append_left hlt
  · have hnone : h.streams[n]? = none := List.getElem?_eq_none (Nat.le_of_lt hgt)
    rw [hnone]
    exact List.getElem?_eq_none (by rw [List.length_append]; exact hgt)

section Replaced

variable (old next : Option Sink)

/-- Of what is replaced at most one stream is closed: the one that is given up. -/
theorem closeReplaced_cases (h : Host) :
    (Sink.givenUp? old next = none ∧ h.closeReplaced old next = h) ∨
      ∃ m, Sink.givenUp? old next = some m ∧ h.closeReplaced old next = h.closeStream m := by
  unfold closeReplaced
  cases hgiven : Sink.givenUp? old next with
  | none => exact .inl ⟨rfl, rfl⟩
  | some m => exact .inr ⟨m, rfl, rfl⟩

theorem origin?_closeReplaced (h : Host) (n : StreamId) :
    (h.closeReplaced old next).origin? n = h.origin? n := by
  rcases h.closeReplaced_cases old next with ⟨-, heq⟩ | ⟨m, -, heq⟩
  · rw [heq]
  · rw [heq, origin?_closeStream]

theorem isClosed_closeReplaced (hn : h.isClosed n = true) :
    (h.closeReplaced old next).isClosed n = true := by
  rcases h.closeReplaced_cases old next with ⟨-, heq⟩ | ⟨m, -, heq⟩
  · rw [heq]
    exact hn
  · rw [heq]
    exact isClosed_closeStream hn m

theorem stuck?_closeReplaced (hn : h.stuck? n = none) :
    (h.closeReplaced old next).stuck? n = none := by
  rcases h.closeReplaced_cases old next with ⟨-, heq⟩ | ⟨m, -, heq⟩
  · rw [heq]
    exact hn
  · rw [heq, stuck?_closeStream, hn, ite_self]

variable {old next}

theorem givenUp?_of_closed (hn : (h.closeReplaced old next).isClosed n = true) :
    h.isClosed n = true ∨ Sink.givenUp? old next = some n := by
  rcases h.closeReplaced_cases old next with ⟨-, heq⟩ | ⟨m, hgiven, heq⟩
  · rw [heq] at hn
    exact .inl hn
  · by_cases hm : m = n
    · exact .inr (hm ▸ hgiven)
    · rw [heq, isClosed_closeStream_of_ne hm] at hn
      exact .inl hn

theorem closing_of_givenUp?_eq_some (hn : Sink.givenUp? old next = some n) (h : Host) :
    h.closing old next =
      match h.stuck? n with
      | some f => .error (.stream f)
      | none => .ok () := by
  rw [closing, hn]
  rfl

/-- The fault of closing is that of the stream that is given up. -/
theorem givenUp?_of_closing_eq_error {e : Error} (he : h.closing old next = .error e) :
    ∃ n f, Sink.givenUp? old next = some n ∧ h.stuck? n = some f ∧ e = .stream f := by
  cases hgiven : Sink.givenUp? old next with
  | none =>
      rw [(h.closing_of_givenUp? hgiven).1] at he
      cases he
  | some n =>
      rw [closing_of_givenUp?_eq_some hgiven] at he
      cases hf : h.stuck? n with
      | none =>
          rw [hf] at he
          cases he
      | some f =>
          rw [hf] at he
          exact ⟨n, f, rfl, hf, (Except.error.inj he).symm⟩

end Replaced

end Host

namespace Config

/-- The dry-run output goes to a stream. -/
def Exposes (c : Config) (n : StreamId) : Prop :=
  (c.get .dryRunOutput).map Sink.stream = some n

/-- The dry-run output goes to a stream that was opened for it, under a path. -/
def Owns (c : Config) (n : StreamId) (p : Path) : Prop := c.get .dryRunOutput = some ⟨n, some p⟩

/-- The dry-run output goes to a stream that was opened for it and cannot be closed
without a fault. -/
def OwnsStuck (c : Config) (h : Host) (n : StreamId) (f : SystemFault) : Prop :=
  (∃ p, c.Owns n p) ∧ h.stuck? n = some f

variable {c : Config} {n : StreamId} {p : Path}

theorem Owns.exposes (hc : c.Owns n p) : c.Exposes n := by
  rw [Exposes, hc]
  rfl

theorem Owns.outputPath (hc : c.Owns n p) : c.outputPath = some p := by
  rw [Config.outputPath, hc]

theorem not_exposes_of_none (hc : c.get .dryRunOutput = none) : ¬ c.Exposes n := by
  rw [Exposes, hc]
  intro h
  cases h

end Config

namespace Situation

/-! ## One output after another -/

/-- The same output, and the same streams. -/
structure SameOutput (t t' : Situation) : Prop where
  output : t'.config.get .dryRunOutput = t.config.get .dryRunOutput
  streams : t'.host.streams = t.host.streams

/-- What can become of the output and of the streams, where some streams are offered
from outside. -/
structure Rerouted (offered : StreamId → Prop) (t t' : Situation) : Prop where
  /-- no stream goes away -/
  origin : ∀ {n o}, t.host.origin? n = some o → t'.host.origin? n = some o
  /-- no stream is opened again -/
  stays : ∀ {n}, t.host.isClosed n = true → t'.host.isClosed n = true
  /-- no stream gets stuck -/
  stuck : ∀ {n}, t.host.stuck? n = none → t'.host.stuck? n = none
  /-- a stream that is closed was owned, and is given up unless it was stuck -/
  closes : ∀ {n}, t'.host.isClosed n = true → t.host.isClosed n = true ∨
    (∃ p, t.config.Owns n p) ∧ (t'.config.Exposes n ↔ t.host.stuck? n ≠ none)
  /-- a stream that is taken up was offered, or was not there before -/
  exposes : ∀ {n}, t'.config.Exposes n →
    offered n ∨ t.config.Exposes n ∨ t.host.origin? n = none
  /-- a file is owned by who opened it -/
  owns : ∀ {n p}, t'.config.Owns n p →
    t.config.Owns n p ∨ t'.host.origin? n = some (.opened p)

section Rerouted

variable {offered : StreamId → Prop} {t t₁ t₂ t' : Situation}

namespace SameOutput

theorem refl (t : Situation) : SameOutput t t := ⟨rfl, rfl⟩

theorem trans (h : SameOutput t t₁) (h' : SameOutput t₁ t') : SameOutput t t' :=
  ⟨h'.output.trans h.output, h'.streams.trans h.streams⟩

theorem origin? (h : SameOutput t t') (n : StreamId) : t'.host.origin? n = t.host.origin? n := by
  rw [Host.origin?, h.streams]
  rfl

theorem isClosed (h : SameOutput t t') (n : StreamId) :
    t'.host.isClosed n = t.host.isClosed n := by
  rw [Host.isClosed, h.streams]
  rfl

theorem stuck? (h : SameOutput t t') (n : StreamId) : t'.host.stuck? n = t.host.stuck? n := by
  rw [Host.stuck?, h.streams]
  rfl

theorem exposes (h : SameOutput t t') (n : StreamId) :
    t'.config.Exposes n ↔ t.config.Exposes n := by
  rw [Config.Exposes, h.output]
  rfl

theorem owns (h : SameOutput t t') (n : StreamId) (p : Path) :
    t'.config.Owns n p ↔ t.config.Owns n p := by
  rw [Config.Owns, h.output]
  rfl

end SameOutput

namespace Rerouted

theorem of_same (h : SameOutput t t') : Rerouted offered t t' where
  origin ho := (h.origin? _).trans ho
  stays hn := (h.isClosed _).trans hn
  stuck hn := (h.stuck? _).trans hn
  closes hn := .inl ((h.isClosed _).symm.trans hn)
  exposes hn := .inr (.inl ((h.exposes _).1 hn))
  owns hn := .inl ((h.owns _ _).1 hn)

/-- What does not touch the output may come before and after. -/
theorem between (h : Rerouted offered t₁ t₂) (hbefore : SameOutput t t₁)
    (hafter : SameOutput t₂ t') : Rerouted offered t t' where
  origin ho := by
    rw [hafter.origin?]
    exact h.origin ((hbefore.origin? _).trans ho)
  stays hn := by
    rw [hafter.isClosed]
    exact h.stays ((hbefore.isClosed _).trans hn)
  stuck hn := by
    rw [hafter.stuck?]
    exact h.stuck ((hbefore.stuck? _).trans hn)
  closes hn := by
    rw [hafter.isClosed] at hn
    rcases h.closes hn with hn | ⟨⟨p, hp⟩, hgiven⟩
    · exact .inl ((hbefore.isClosed _).symm.trans hn)
    · rw [hbefore.stuck?, ← hafter.exposes] at hgiven
      exact .inr ⟨⟨p, (hbefore.owns _ _).1 hp⟩, hgiven⟩
  exposes hn := by
    rcases h.exposes ((hafter.exposes _).1 hn) with hn | hn | hn
    · exact .inl hn
    · exact .inr (.inl ((hbefore.exposes _).1 hn))
    · exact .inr (.inr ((hbefore.origin? _).symm.trans hn))
  owns hn := by
    rcases h.owns ((hafter.owns _ _).1 hn) with hn | hn
    · exact .inl ((hbefore.owns _ _).1 hn)
    · exact .inr ((hafter.origin? _).trans hn)

/-- An output is to take the place of another one, on a host that may have got another
stream for it; if the other one cannot be closed its place is not taken. -/
theorem assigned {c d : Config} {h h' : Host} {v : Option Sink}
    (horigin : ∀ {n o}, h.origin? n = some o → h'.origin? n = some o)
    (hclosed : ∀ n, h'.isClosed n = h.isClosed n) (hstuck : ∀ n, h'.stuck? n = h.stuck? n)
    (hexposes : ∀ {sink}, v = some sink →
      offered sink.stream ∨ c.Exposes sink.stream ∨ h.origin? sink.stream = none)
    (howns : ∀ {n p}, v = some ⟨n, some p⟩ → h'.origin? n = some (.opened p))
    (hd : d.get .dryRunOutput =
      if (h'.closing (c.get .dryRunOutput) v).isOk then v else c.get .dryRunOutput) :
    Rerouted offered ⟨c, h⟩ ⟨d, h'.closeReplaced (c.get .dryRunOutput) v⟩ where
  origin ho := (Host.origin?_closeReplaced ..).trans (horigin ho)
  stays hn := Host.isClosed_closeReplaced _ _ ((hclosed _).trans hn)
  stuck hn := Host.stuck?_closeReplaced _ _ ((hstuck _).trans hn)
  closes {n} hn := by
    rcases Host.givenUp?_of_closed hn with hn | hgiven
    · exact .inl ((hclosed n).symm.trans hn)
    · obtain ⟨⟨p, hp⟩, hne⟩ := Sink.givenUp?_eq_some_iff.1 hgiven
      refine .inr ⟨⟨p, hp⟩, ?_⟩
      rw [Host.closing_of_givenUp?_eq_some hgiven, hstuck] at hd
      show d.Exposes n ↔ h.stuck? n ≠ none
      cases hf : h.stuck? n with
      | none =>
          rw [hf] at hd
          rw [Config.Exposes, hd]
          exact iff_of_false hne fun h => h rfl
      | some f =>
          rw [hf] at hd
          rw [Config.Exposes, hd]
          exact iff_of_true (Config.Owns.exposes hp) fun h => by cases h
  exposes {n} hn := by
    rw [Config.Exposes, hd] at hn
    split at hn
    · obtain ⟨sink, hv, rfl⟩ := Option.map_eq_some_iff.1 hn
      exact hexposes hv
    · exact .inr (.inl hn)
  owns {n p} hn := by
    rw [Config.Owns, hd] at hn
    split at hn
    · exact .inr ((Host.origin?_closeReplaced ..).trans (howns hn))
    · exact .inl hn

end Rerouted

end Rerouted

end Situation

/-! ## One change -/

/-- The argument that a change gives the dry-run output, if it gives it one. -/
def Change.output? : Change → Option OutputArgument
  | .assign .dryRunOutput a => some a
  | _ => none

theorem Change.eq_assign_of_output? {k : Change} {a : OutputArgument} (hk : k.output? = some a) :
    k = .assign .dryRunOutput a := by
  cases k with
  | assign s b => cases s <;> cases hk; rfl
  | _ => cases hk

namespace Kind

/-- What comes of an argument of the dry-run output: it is refused, a stream is taken
as it is, or a file is opened as the last of the streams. -/
theorem acceptOutput_cases (a : OutputArgument) (h : Host) :
    (∃ e h', (acceptOutput a).run h = (.error e, h') ∧ h'.streams = h.streams) ∨
      (∃ o, a = .stream o ∧
        (acceptOutput a).run h = (.ok (o.map fun id => ⟨id, none⟩), h)) ∨
      ∃ p h', (acceptOutput a).run h = (.ok (some ⟨h.streams.length, some p⟩), h') ∧
        h'.streams = h.streams ++ [⟨.opened p, false, none⟩] := by
  cases a with
  | stream o => exact .inr (.inl ⟨o, rfl, rfl⟩)
  | file p =>
      rw [acceptOutput_run_file]
      rcases openOutput_cases p h with ⟨-, e, h', hr, hs⟩ | ⟨-, h', hr, hs⟩
      · rw [hr]
        exact .inl ⟨e, h', rfl, hs⟩
      · rw [hr]
        exact .inr (.inr ⟨p, h', rfl, hs⟩)

/-- An output that is accepted is a stream at hand or one that has just been opened, and
all streams are as they were. -/
theorem accepted_output {a : OutputArgument} {h h' : Host} {v : Option Sink}
    (ha : (acceptOutput a).run h = (.ok v, h')) :
    (∀ n, h'.stuck? n = h.stuck? n) ∧ (∀ n, h'.isClosed n = h.isClosed n) ∧
      (∀ {n o}, h.origin? n = some o → h'.origin? n = some o) ∧
      ((∃ o, a = .stream o ∧ v = o.map fun id => ⟨id, none⟩) ∨
        ∃ p, v = some ⟨h.streams.length, some p⟩ ∧ h.origin? h.streams.length = none ∧
          h'.origin? h.streams.length = some (.opened p)) := by
  rcases acceptOutput_cases a h with ⟨e, h'', hr, -⟩ | ⟨o, ho, hr⟩ | ⟨p, h'', hr, hs⟩
  · cases ha.symm.trans hr
  · cases ha.symm.trans hr
    exact ⟨fun _ => rfl, fun _ => rfl, id, .inl ⟨o, ho, rfl⟩⟩
  · cases ha.symm.trans hr
    obtain ⟨hlast, hothers⟩ := Host.getElem?_of_append hs
    have hnone : h.streams[h.streams.length]? = none := List.getElem?_eq_none (Nat.le_refl _)
    refine ⟨Host.stuck?_opened hs, fun n => ?_, fun {n o} ho => ?_, .inr ⟨p, rfl, ?_, ?_⟩⟩
    · by_cases hn : n = h.streams.length
      · subst hn
        simp [Host.isClosed, hlast]
      · rw [Host.isClosed, hothers n hn]
        rfl
    · by_cases hn : n = h.streams.length
      · subst hn
        rw [Host.origin?, hnone] at ho
        cases ho
      · rw [Host.origin?, hothers n hn]
        exact ho
    · rw [Host.origin?, hnone]
      rfl
    · rw [Host.origin?, hlast]
      rfl

end Kind

namespace Config

open Situation

/-- The output could not be replaced, for the file of the configuration was stuck.  That
has been closed all the same, and no other stream that was there. -/
def Jams (c : Config) (h h' : Host) (e : Error) : Prop :=
  ∃ n f, c.OwnsStuck h n f ∧ e = .stream f ∧
    ∀ m, h.origin? m ≠ none → (h'.isClosed m = true ↔ h.isClosed m = true ∨ m = n)

/-- An output is refused with the streams as they were, or it is accepted, and then it is a
matter of closing the old one whether it takes its place. -/
theorem assign_output_cases (c : Config) (a : OutputArgument) (h : Host) :
    (∃ e h', (c.assign .dryRunOutput a).run h = (.error e, h') ∧ h'.streams = h.streams) ∨
      ∃ v h', (Kind.acceptOutput a).run h = (.ok v, h') ∧
        (c.assign .dryRunOutput a).run h =
          ((h'.closing (c.get .dryRunOutput) v).map fun _ => c.put .dryRunOutput v,
            h'.closeReplaced (c.get .dryRunOutput) v) := by
  rw [assign_output_run]
  cases hreq : c.require .dryRunOutput with
  | error e => exact .inl ⟨e, h, rfl, rfl⟩
  | ok u =>
      rcases Kind.acceptOutput_cases a h with
        ⟨e, h', ha, hs⟩ | ⟨o, -, ha⟩ | ⟨p, h', ha, -⟩
      · rw [ha]
        exact .inl ⟨e, h', rfl, hs⟩
      · rw [ha]
        exact .inr ⟨_, _, rfl, rfl⟩
      · rw [ha]
        exact .inr ⟨_, _, rfl, rfl⟩

/-- An output that is refused leaves the streams as they are, unless the old one could not
be closed. -/
theorem assign_output_error {c : Config} {a : OutputArgument} {h h' : Host} {e : Error}
    (hr : (c.assign .dryRunOutput a).run h = (.error e, h')) :
    h'.streams = h.streams ∨ c.Jams h h' e := by
  rcases c.assign_output_cases a h with ⟨e', h₁, hrun, hs⟩ | ⟨v, h₁, ha, hrun⟩
  · cases hr.symm.trans hrun
    exact .inl hs
  · obtain ⟨hstuck, hclosed, horigin, -⟩ := Kind.accepted_output ha
    obtain ⟨hresult, rfl⟩ := Prod.mk.inj (hr.symm.trans hrun)
    have hfault : h₁.closing (c.get .dryRunOutput) v = .error e := by
      cases hc : h₁.closing (c.get .dryRunOutput) v with
      | ok u =>
          rw [hc] at hresult
          cases hresult
      | error e' =>
          rw [hc] at hresult
          rw [Except.error.inj hresult]
    obtain ⟨n, f, hgiven, hf, rfl⟩ := Host.givenUp?_of_closing_eq_error hfault
    obtain ⟨howned, -⟩ := Sink.givenUp?_eq_some_iff.1 hgiven
    refine .inr ⟨n, f, ⟨howned, (hstuck n).symm.trans hf⟩, rfl, fun m hm => ?_⟩
    have hm₁ : h₁.origin? m ≠ none := by
      obtain ⟨o, ho⟩ := Option.ne_none_iff_exists'.1 hm
      rw [horigin ho]
      simp
    rw [Host.closeReplaced, hgiven, Host.isClosed_closeStream_iff hm₁, hclosed]

variable {offered : StreamId → Prop}

/-- An assignment of the output reroutes it. -/
theorem assign_output_rerouted {a : OutputArgument} {t : Situation}
    (ha : ∀ n, a = .stream (some n) → offered n ∨ t.config.Exposes n) :
    Rerouted offered t ((Procedure.change fun c => c.assign .dryRunOutput a).run t).2 := by
  rw [Procedure.run_change]
  rcases t.config.assign_output_cases a t.host with ⟨e, h', hrun, hs⟩ | ⟨v, h', hacc, hrun⟩
  · rw [hrun]
    exact .of_same ⟨rfl, hs⟩
  · obtain ⟨hstuck, hclosed, horigin, hv⟩ := Kind.accepted_output hacc
    have hexposes : ∀ {sink : Sink}, v = some sink →
        offered sink.stream ∨ t.config.Exposes sink.stream ∨
          t.host.origin? sink.stream = none := by
      intro sink hsink
      rcases hv with ⟨o, rfl, rfl⟩ | ⟨p, rfl, hnew, -⟩
      · obtain ⟨n, rfl, rfl⟩ := Option.map_eq_some_iff.1 hsink
        rcases ha n rfl with hn | hn
        · exact .inl hn
        · exact .inr (.inl hn)
      · cases hsink
        exact .inr (.inr hnew)
    have howns : ∀ {n : StreamId} {p : Path}, v = some ⟨n, some p⟩ →
        h'.origin? n = some (.opened p) := by
      intro n p hsink
      rcases hv with ⟨o, rfl, rfl⟩ | ⟨q, rfl, -, hopened⟩
      · obtain ⟨m, -, hm⟩ := Option.map_eq_some_iff.1 hsink
        cases hm
      · cases hsink
        exact hopened
    rw [hrun]
    cases hc : h'.closing (t.config.get .dryRunOutput) v with
    | error e => exact .assigned horigin hclosed hstuck hexposes howns (by rw [hc]; rfl)
    | ok u =>
        refine .assigned horigin hclosed hstuck hexposes howns ?_
        rw [hc]
        exact t.config.get_put_same .dryRunOutput v

/-- An assignment elsewhere has no part in the output. -/
theorem assign_sameOutput {s : Setting} (hs : s ≠ .dryRunOutput) (a : s.Argument)
    (t : Situation) :
    SameOutput t ((Procedure.change fun c => c.assign s a).run t).2 := by
  obtain ⟨h', hr, hk⟩ := t.config.assign_run s a t.host
  have hstreams : h'.streams = t.host.streams := hk.streams (by simpa using hs.symm)
  rw [Procedure.run_change, hr]
  cases t.config.takes t.host s a with
  | error e => exact ⟨rfl, hstreams⟩
  | ok v => exact ⟨assigned_get_of_ne _ v hs, hstreams⟩

theorem withIdentity_sameOutput (t : Situation) (url user password : Option String) :
    SameOutput t ⟨t.config.withIdentity url user password, t.host⟩ :=
  ⟨withIdentity_get_of_not_mem _ _ _ _ (by decide), rfl⟩

theorem withDescriptor_sameOutput (t : Situation) (d : Option Descriptor) :
    SameOutput t ⟨t.config.withDescriptor d, t.host⟩ :=
  ⟨withDescriptor_get_of_ne _ _ (by decide), rfl⟩

theorem change_sameOutput {k : Change} (hk : k.output? = none) (t : Situation) :
    SameOutput t ((Procedure.change fun c => k.perform c).run t).2 := by
  cases k with
  | assign s a =>
      refine assign_sameOutput ?_ a t
      rintro rfl
      cases hk
  | target v => exact assign_sameOutput (s := .target) (by decide) _ t
  | descriptor d => exact withDescriptor_sameOutput t d
  | connectTo url user password =>
      have hrun : ((Change.connectTo url user password).perform t.config).run t.host = _ :=
        t.config.connectTo_run url user password t.host
      rw [Procedure.run_change, hrun]
      exact ⟨t.config.withIdentity_get_of_not_mem (s := .dryRunOutput) url user password
        (by decide), rfl⟩
  | deriveConnection p =>
      have hrun : ((Change.deriveConnection p).perform t.config).run t.host = _ :=
        t.config.deriveConnection_run p t.host
      rw [Procedure.run_change, hrun]
      exact ⟨rfl, rfl⟩
  | identity url user password => exact withIdentity_sameOutput t url user password

/-- A change reroutes the output to the stream that it hands in, if any. -/
theorem change_rerouted {k : Change} (t : Situation)
    (hk : ∀ n, k.output? = some (.stream (some n)) → offered n) :
    Rerouted offered t ((Procedure.change fun c => k.perform c).run t).2 := by
  cases ho : k.output? with
  | none => exact .of_same (change_sameOutput ho t)
  | some a =>
      obtain rfl := Change.eq_assign_of_output? ho
      refine assign_output_rerouted fun n hn => .inl (hk n ?_)
      rw [ho, hn]

/-! ## Passes and copies -/

/-- Settings that are dealt with one by one, each once, reroute the output at most
once. -/
theorem forM_rerouted {f : Setting → Procedure PUnit}
    (hother : ∀ s, s ≠ .dryRunOutput → ∀ t, SameOutput t ((f s).run t).2)
    (houtput : ∀ t, Rerouted offered t ((f .dryRunOutput).run t).2) :
    ∀ {ss : List Setting}, ss.Nodup → ∀ t,
      Rerouted offered t ((ss.forM f).run t).2 ∧
        (.dryRunOutput ∉ ss → SameOutput t ((ss.forM f).run t).2) := by
  intro ss
  induction ss with
  | nil => exact fun _ t => ⟨.of_same (.refl t), fun _ => .refl t⟩
  | cons s rest ih =>
      intro hnd t
      obtain ⟨hnew, hrest⟩ := List.nodup_cons.1 hnd
      rcases hr : (f s).run t with ⟨r, t₁⟩
      have hstep : ((s :: rest).forM f).run t = ((f s >>= fun _ => rest.forM f)).run t := rfl
      by_cases hs : s = .dryRunOutput
      · subst hs
        have hfirst := houtput t
        rw [hr] at hfirst
        refine ⟨?_, fun hn => absurd (List.mem_cons_self ..) hn⟩
        cases r with
        | error e =>
            rw [hstep, Procedure.run_bind_error hr]
            exact hfirst
        | ok u =>
            rw [hstep, Procedure.run_bind_ok hr]
            exact hfirst.between (.refl t) ((ih hrest t₁).2 hnew)
      · have hfirst := hother s hs t
        rw [hr] at hfirst
        cases r with
        | error e =>
            rw [hstep, Procedure.run_bind_error hr]
            exact ⟨.of_same hfirst, fun _ => hfirst⟩
        | ok u =>
            rw [hstep, Procedure.run_bind_ok hr]
            obtain ⟨ih₁, ih₂⟩ := ih hrest t₁
            refine ⟨ih₁.between hfirst (.refl _), fun hn => hfirst.trans (ih₂ fun hm => hn ?_)⟩
            exact List.mem_cons_of_mem _ hm

theorem applySettings_eq_forM (m : PropertyMap) :
    ∀ ss : List Setting, applySettings m ss = ss.forM (applySetting m) := by
  intro ss
  induction ss with
  | nil => rfl
  | cons s rest ih =>
      unfold applySettings
      rw [ih]
      rfl

theorem copySettings_eq_forM (source : Source) :
    ∀ ss : List Setting, copySettings source ss = ss.forM (copySetting source) := by
  intro ss
  induction ss with
  | nil => rfl
  | cons s rest ih =>
      unfold copySettings
      rw [ih]
      rfl

/-- A pass hands no stream in; it opens a file. -/
theorem applySettings_rerouted (m : PropertyMap) (t : Situation) :
    Rerouted offered t ((applySettings m Setting.applied).run t).2 := by
  have hcases : ∀ (s : Setting) (t : Situation), (∃ a, argument? m s = .ok (some a) ∧
      ((applySetting m s).run t).2 = ((Procedure.change fun c => c.assign s a).run t).2) ∨
        ((applySetting m s).run t).2 = t := by
    intro s t
    rw [applySetting_run]
    cases argument? m s with
    | error e => exact .inr rfl
    | ok o =>
        cases o with
        | none => exact .inr rfl
        | some a => exact .inl ⟨a, rfl, rfl⟩
  rw [applySettings_eq_forM]
  refine (forM_rerouted (fun s hs t => ?_) (fun t => ?_) Setting.nodup_applied t).1
  · rcases hcases s t with ⟨a, -, hr⟩ | hr
    · rw [hr]
      exact assign_sameOutput hs a t
    · rw [hr]
      exact .refl t
  · rcases hcases .dryRunOutput t with ⟨a, ha, hr⟩ | hr
    · rw [hr]
      refine assign_output_rerouted fun n hn => ?_
      -- the text of a property stands for a file
      subst hn
      unfold argument? at ha
      split at ha <;> cases ha
    · rw [hr]
      exact .of_same (.refl t)

theorem apply_rerouted (m : PropertyMap) (root : String) (t : Situation) :
    Rerouted offered t ((apply m root).run t).2 := by
  have hsettings : Rerouted offered t _ := applySettings_rerouted m t
  rw [apply_run]
  rcases hr : (applySettings m Setting.applied).run t with ⟨r, t₁⟩
  rw [hr] at hsettings
  cases r with
  | error e => exact hsettings
  | ok u => exact hsettings.between (.refl t) ⟨concluded_get_applied _ _ (by decide), rfl⟩

/-- A copy takes over the stream of its source, if it takes over any. -/
theorem copySetting_rerouted {source : Source}
    (hsource : ∀ d n, (source.of d).Exposes n → offered n ∨ d.Exposes n) (t : Situation) :
    Rerouted offered t ((copySetting source .dryRunOutput).run t).2 := by
  unfold copySetting
  rw [Procedure.run_bind_ok (Procedure.run_config t)]
  split
  · rw [Procedure.run_bind_ok (source.read_run t)]
    refine assign_output_rerouted fun n hn => hsource t.config n ?_
    exact OutputArgument.stream.inj hn
  · exact .of_same (.refl t)

theorem copySetting_sameOutput (source : Source) {s : Setting} (hs : s ≠ .dryRunOutput)
    (t : Situation) : SameOutput t ((copySetting source s).run t).2 := by
  unfold copySetting
  rw [Procedure.run_bind_ok (Procedure.run_config t)]
  split
  · rw [Procedure.run_bind_ok (source.read_run t)]
    exact assign_sameOutput hs _ t
  · exact .refl t

theorem copyFrom_rerouted (source : Source)
    (hsource : ∀ d n, (source.of d).Exposes n → offered n ∨ d.Exposes n) (t : Situation) :
    Rerouted offered t ((copyFrom source).run t).2 := by
  have hnd : copied.Nodup := by decide
  have hbegin := withDescriptor_sameOutput t (source.of t.config).descriptor
  have hsettings := (forM_rerouted (fun s hs => copySetting_sameOutput source hs)
    (copySetting_rerouted hsource) hnd
    ⟨t.config.withDescriptor (source.of t.config).descriptor, t.host⟩).1
  rw [← copySettings_eq_forM] at hsettings
  rw [copyFrom_run]
  rcases hr : (copySettings source copied).run
      ⟨t.config.withDescriptor (source.of t.config).descriptor, t.host⟩ with ⟨r, t₁⟩
  rw [hr] at hsettings
  cases r with
  | error e => exact hsettings.between hbegin (.refl _)
  | ok u => exact hsettings.between hbegin (withIdentity_sameOutput t₁ _ _ _)

end Config

end MigrationConfig
