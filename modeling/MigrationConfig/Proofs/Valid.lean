/-
# Configurations are valid at all times

What the checks of the settings are for: separators and the marks of placeholders
have text, numbers of attempts are not negative, the encoding is one that can be
looked up, extensions play their roles.  `Config.Valid` says this of a whole
configuration.  It follows from what each setting has let through (`Checked`), and
that is kept by every change, so it holds after every command, also after one that
has failed halfway.

The other side of it is that no value makes a copy fail.  A copy hands every value in
again, and the destination checks it again; but what one configuration holds no other one
refuses, whatever the two editions are.  That goes for a configuration that is copied
into itself, too, where every value is checked that was put just before.  What is left is
the file that a copy gives up: it has to be closed, and that succeeds unless somebody else
has got it stuck.
-/
import MigrationConfig.Proofs.SelfCopy

namespace MigrationConfig

namespace Config

/-! ## Valid configurations -/

/-- A counter shows as a natural number: as no truth value, and as nothing below
zero. -/
def ShowsCount (c : Config) (s : Setting) : Prop :=
  ∃ n : Nat, ∀ h, c.read h (.setting s) = .number n

/-- What holds of every configuration. -/
structure Valid (c : Config) : Prop where
  placeholderPrefix : c.get .placeholderPrefix ≠ ""
  placeholderSuffix : c.get .placeholderSuffix ≠ ""
  sqlMigrationSeparator : c.get .sqlMigrationSeparator ≠ ""
  connectRetries : c.ShowsCount .connectRetries
  lockRetryCount : c.ShowsCount .lockRetryCount
  installedBy : c.get .installedBy ≠ some ""
  /-- the encoding is found, under the very name that it is found by -/
  encoding : ∃ e, Codec.lookup? (c.get .encoding) = some e ∧ e.name = c.get .encoding
  callbacks : ∀ i ∈ c.get .callbacks, i.ofClass.plays .callback = true
  resolvers : ∀ i ∈ c.get .resolvers, i.ofClass.plays .resolver = true
  codeMigrations : ∀ i ∈ c.get .codeMigrations, i.ofClass.plays .codeMigration = true
  cherryPick : ∀ p ∈ c.get .cherryPick, Text.isBlankText p.text = false

section Checked

variable {c : Config}

theorem Checked.showsCount (hc : c.Checked) {s : Setting} (hs : s.kind = .counter) :
    c.ShowsCount s := by
  have hcheck := hc s
  have hread : ∀ {k : Kind} (v : k.Value), k = .counter → k.Checked v →
      ∃ n : Nat, ∀ h, Reading.ofValue h k v = .number n := by
    rintro k v rfl hv
    obtain ⟨n, rfl⟩ := Int.eq_ofNat_of_zero_le hv
    exact ⟨n, fun _ => rfl⟩
  exact hread _ hs hcheck

theorem Checked.valid (hc : c.Checked) : c.Valid where
  placeholderPrefix := hc .placeholderPrefix
  placeholderSuffix := hc .placeholderSuffix
  sqlMigrationSeparator := hc .sqlMigrationSeparator
  connectRetries := hc.showsCount rfl
  lockRetryCount := hc.showsCount rfl
  installedBy := hc .installedBy
  encoding := by
    obtain ⟨n, e, hn, -, he, hname⟩ := Kind.acceptEncoding_eq_ok.1 (hc .encoding)
    cases hn
    exact ⟨e, he, hname⟩
  callbacks := hc .callbacks
  resolvers := hc .resolvers
  codeMigrations := hc .codeMigrations
  cherryPick p _ := p.notBlank

end Checked

end Config

/-! ## Copies between configurations -/

namespace Session

open Config

variable {s : Session} {id source : String} {c d : Config}

/-- What one configuration holds no other one refuses, nor does it itself.  So a copy can
fail only where it gives a file up. -/
theorem Reachable.copy_ends (hs : s.Reachable) (hd : s.config? id = some d)
    (hc : s.config? source = some c) :
    (∃ d', s.Leaves (.copy id source) id d') ∨
      ∃ e, (s.perform (.copy id source)).1 = .error e ∧ s.Jammed c d e := by
  by_cases hid : id = source
  · subst hid
    have hrun := selfCopy_run hd (hs.holds checked_invariant id d hd)
      (hs.holds lacksUnset_invariant id d hd)
    refine .inl ⟨d.selfCopied, ?_⟩
    rw [Leaves, hrun, config?_withSituation, if_pos rfl]
    exact ⟨rfl, rfl⟩
  · exact copy_returns hc hd hid (hs.holds checked_invariant source c hc)

/-- However a session has come about, each of its configurations is valid, and can be
copied into each of them, into itself and into a new one; the outcome is valid
again.

This is so after every run of calls of the library, and after any other one that gets no
file of the library stuck.  If callers do that in between, by what they write to such a
file, a copy that has to give it up fails with the fault of closing it.  Nothing else makes
a copy fail, and a copy into a new configuration never does. -/
theorem Reachable.valid_and_copies (hs : s.Reachable) :
    s.Holds Valid ∧
      (∀ H : History s, H.LeftAlone →
        ∀ id source d c, s.config? id = some d → s.config? source = some c →
          ∃ d', s.Leaves (.copy id source) id d' ∧ d'.Valid) ∧
      (∀ id source d c, s.config? id = some d → s.config? source = some c →
        (∃ d', s.Leaves (.copy id source) id d' ∧ d'.Valid) ∨
          ∃ e, (s.perform (.copy id source)).1 = .error e ∧ s.Jammed c d e) ∧
      ∀ id source c, s.config? source = some c →
        ∃ d, s.Leaves (.clone id source) id d ∧ d.Valid := by
  have hchecked : s.Holds Checked := hs.holds checked_invariant
  have hafter : ∀ k id d, s.Leaves k id d → d.Valid := by
    intro k id d hd
    exact ((hs.perform k).holds checked_invariant id d hd.2).valid
  have hcopy : ∀ id source d c, s.config? id = some d → s.config? source = some c →
      (∃ d', s.Leaves (.copy id source) id d' ∧ d'.Valid) ∨
        ∃ e, (s.perform (.copy id source)).1 = .error e ∧ s.Jammed c d e := by
    intro id source d c hd hc
    rcases hs.copy_ends hd hc with ⟨d', hd'⟩ | hjammed
    · exact .inl ⟨d', hd', hafter _ id d' hd'⟩
    · exact .inr hjammed
  refine ⟨fun id c hc => (hchecked id c hc).valid, ?_, hcopy, ?_⟩
  · intro H hH id source d c hd hc
    refine (hcopy id source d c hd hc).resolve_right ?_
    rintro ⟨e, -, hjammed⟩
    exact H.not_jammed hH hd hjammed
  · intro id source c hc
    obtain ⟨d, hd, -⟩ := clone_leaves hc (hchecked source c hc) id
    exact ⟨d, hd, hafter _ id d hd⟩

/-- A number that is a truth value was refused, another spelling of an encoding and a
pattern were taken; the copy goes into a lower edition. -/
theorem valid_and_copies_teams :
    let s₁ := (((Session.new .bare).perform (.create "c" "teams" none)).2.perform
      (.change "c" (.assign .encoding (some "LATIN1")))).2
    let s₂ := (s₁.perform (.change "c" (.assign .cherryPick (.single "x")))).2
    let s₃ := (s₂.perform (.change "c" (.assign .connectRetries (.scalar (.flag true))))).2
    let s := (s₃.perform (.create "d" "community" none)).2
    s.Reachable ∧ (s₂.perform (.change "c"
      (.assign .connectRetries (.scalar (.flag true))))).1.isOk = false ∧
      ∃ c d d' c', s.config? "c" = some c ∧ c.get .encoding = "iso8859-1" ∧ c.Valid ∧
        s.config? "d" = some d ∧ s.Leaves (.copy "d" "c") "d" d' ∧ d'.Valid ∧
        s.Leaves (.copy "c" "c") "c" c' := by
  intro s₁ s₂ s₃ s
  have hs : s.Reachable := .perform _ (.perform _ (.perform _ (.perform _ (.perform _ (.new _)))))
  have hgiven : ∀ {n o}, Host.bare.origin? n = some o → ∃ label, o = .given label := by
    intro n o ho
    cases ho
  let H : History s :=
    .perform _ (.perform _ (.perform _ (.perform _ (.perform _ (.new .bare hgiven)))))
  have hseen : (s₂.perform (.change "c"
      (.assign .connectRetries (.scalar (.flag true))))).1.isOk = false ∧
      (s.config? "c").map (fun c => c.get .encoding) = some "iso8859-1" ∧
      (s.config? "d").map Config.edition = some .community := by
    decide +kernel
  obtain ⟨hrefused, hc, hd⟩ := hseen
  obtain ⟨c, hc, hencoding⟩ := Option.map_eq_some_iff.1 hc
  obtain ⟨d, hd, -⟩ := Option.map_eq_some_iff.1 hd
  obtain ⟨hvalid, hcopy, -⟩ := hs.valid_and_copies
  obtain ⟨d', hd', hvalid'⟩ := hcopy H trivial "d" "c" d c hd hc
  obtain ⟨c', hc', -⟩ := hcopy H trivial "c" "c" c c hc hc
  exact ⟨hs, hrefused, c, d, d', c', hc, hencoding, hvalid "c" c hc, hd, hd', hvalid', hc'⟩

end Session

end MigrationConfig
