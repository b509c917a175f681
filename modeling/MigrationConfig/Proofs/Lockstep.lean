/-
# Two passes side by side

To compare two passes is to run them in lockstep: setting by setting, from related
configurations and on corresponding hosts, the second pass does what the first one
does.  What is meant by related is left open here, and so is which outcomes of the
first pass count, since an edition that has more does not refuse what the other one
refuses.  Hosts correspond by a function; it is the identity where both passes happen
on one host.

The steps are compared once (`Procedure.Mirrors`), and the passes are put together
from them: the settings by induction, the conclusion by what it is made of.
-/
import MigrationConfig.Advice
import MigrationConfig.Proofs.Conclusion

namespace MigrationConfig

/-- What comes of the first procedure comes of the second as well, if it counts: from
configurations that `R` relates and on corresponding hosts they have one outcome, on
corresponding hosts again, with configurations that `S` relates. -/
def Procedure.Mirrors (Counts : Except Error Unit → Prop) (g : Host → Host)
    (R S : Config → Config → Prop) (x y : Procedure Unit) : Prop :=
  ∀ ⦃c c' : Config⦄ ⦃h : Host⦄ ⦃r : Except Error Unit⦄ ⦃c₁ : Config⦄ ⦃h₁ : Host⦄, R c c' →
    x.run ⟨c, h⟩ = (r, ⟨c₁, h₁⟩) → Counts r →
      ∃ c₁', y.run ⟨c', g h⟩ = (r, ⟨c₁', g h₁⟩) ∧ S c₁ c₁'

namespace Config

section Passes

variable {Counts : Except Error Unit → Prop} {g : Host → Host} {R S : Config → Config → Prop}
  {m m' : PropertyMap}

/-- A setting for which both maps have the same argument is mirrored if its assignment is. -/
theorem applySetting_mirrors {s : Setting} (hargument : argument? m' s = argument? m s)
    (hassign : ∀ a : s.Argument, Procedure.Mirrors Counts g R R
      (Procedure.change fun c => c.assign s a) (Procedure.change fun c => c.assign s a)) :
    Procedure.Mirrors Counts g R R (applySetting m s) (applySetting m' s) := by
  intro c c' h r c₁ h₁ hc hr hcounts
  rw [applySetting_run] at hr
  rw [applySetting_run, hargument]
  cases ha : argument? m s with
  | error e =>
      rw [ha] at hr
      cases hr
      exact ⟨c', rfl, hc⟩
  | ok o =>
      rw [ha] at hr
      cases o with
      | none =>
          cases hr
          exact ⟨c', rfl, hc⟩
      | some a => exact hassign a hc hr hcounts

/-- Settings mirror each other if each of them does. -/
theorem applySettings_mirrors (hok : Counts (.ok ())) {ss : List Setting}
    (hstep : ∀ s ∈ ss, Procedure.Mirrors Counts g R R (applySetting m s) (applySetting m' s)) :
    Procedure.Mirrors Counts g R R (applySettings m ss) (applySettings m' ss) := by
  induction ss with
  | nil =>
      intro c c' h r c₁ h₁ hc hr _
      cases hr
      exact ⟨c', rfl, hc⟩
  | cons s rest ih =>
      intro c c' h r c₁ h₁ hc hr hcounts
      have hs := hstep s (List.mem_cons_self ..)
      have hrest := ih fun t ht => hstep t (List.mem_cons_of_mem _ ht)
      rcases hfirst : (applySetting m s).run ⟨c, h⟩ with ⟨q, c₂, h₂⟩
      cases q with
      | error e =>
          have herror : (applySettings m (s :: rest)).run ⟨c, h⟩ = (.error e, ⟨c₂, h₂⟩) :=
            Procedure.run_bind_error hfirst
          cases herror.symm.trans hr
          obtain ⟨c₂', hfirst', hc₂⟩ := hs hc hfirst hcounts
          exact ⟨c₂', Procedure.run_bind_error hfirst', hc₂⟩
      | ok u =>
          obtain ⟨c₂', hfirst', hc₂⟩ := hs hc hfirst hok
          rw [applySettings_cons_ok hfirst] at hr
          obtain ⟨c₁', hr', hc₁⟩ := hrest hc₂ hr hcounts
          exact ⟨c₁', (applySettings_cons_ok hfirst').trans hr', hc₁⟩

/-- Passes mirror each other if their settings do, and if related configurations lead to
conclusions that are alike. -/
theorem apply_mirrors {root : String} (hok : Counts (.ok ()))
    (hlogged : ∀ h es, g (Host.logged h es) = (g h).logged es)
    (hsettings : Procedure.Mirrors Counts g R R (applySettings m Setting.applied)
      (applySettings m' Setting.applied))
    (hrefused : ∀ ⦃c c'⦄, R c c' → S c c')
    (hconcluded : ∀ ⦃c c'⦄, R c c' → S (c.concluded m) (c'.concluded m'))
    (hlog : ∀ ⦃c c'⦄, R c c' → c'.conclusionLog m' = c.conclusionLog m)
    (hverdict : verdict m' root = verdict m root)
    (hverdictLog : verdictLog m' root = verdictLog m root) :
    Procedure.Mirrors Counts g R S (apply m root) (apply m' root) := by
  intro c c' h r c₁ h₁ hc hr hcounts
  rw [apply_run] at hr
  rcases hs : (applySettings m Setting.applied).run ⟨c, h⟩ with ⟨q, c₂, h₂⟩
  rw [hs] at hr
  cases q with
  | error e =>
      cases hr
      obtain ⟨c₂', hs', hc₂⟩ := hsettings hc hs hcounts
      exact ⟨c₂', apply_error root hs', hrefused hc₂⟩
  | ok u =>
      cases hr
      obtain ⟨c₂', hs', hc₂⟩ := hsettings hc hs hok
      refine ⟨c₂'.concluded m', ?_, hconcluded hc₂⟩
      rw [apply_ok root hs', hverdict, hverdictLog, hlog hc₂, hlogged]

end Passes

end Config

/-! ## Readings and reviews -/

namespace Config

theorem connection_run (c : Config) (h : Host) :
    c.connection.run h =
      (.ok c.descriptor, h.logged (if c.warnsOnRead then [.incompleteConnection] else [])) := by
  unfold connection
  cases c.warnsOnRead with
  | true => rfl
  | false => exact congrArg _ h.logged_nil.symm

/-- Of the password, a reader of the connection sees whether it has text. -/
theorem warnsOnRead_congr {c c' : Config} (hnone : c'.descriptor.isNone = c.descriptor.isNone)
    (hdriver : c'.get .driver = c.get .driver) (huser : c'.get .user = c.get .user)
    (hpassword : Text.hasText (c'.get .password) = Text.hasText (c.get .password)) :
    c'.warnsOnRead = c.warnsOnRead := by
  unfold warnsOnRead
  rw [hnone, hdriver, huser, hpassword]

end Config

/-- The settings that a review looks at; of the password it sees only whether it has
text. -/
def Findings.reviewed : List Setting := [.driver, .url, .user, .defaultSchema, .schemas,
  .placeholderReplacement, .placeholders, .cleanOnValidationError, .cleanDisabled,
  .baselineOnMigrate, .baselineVersion, .validateOnMigrate, .lockRetryCount, .outOfOrder,
  .ignorePendingMigrations]

theorem Findings.of_congr {c c' : Config} (hget : ∀ s ∈ reviewed, c'.get s = c.get s)
    (hpassword : Text.hasText (c'.get .password) = Text.hasText (c.get .password)) :
    Findings.of c' = Findings.of c := by
  have hincomplete : isIncomplete c' = isIncomplete c := by
    unfold isIncomplete Descriptor.isIncomplete
    rw [hget .driver (by decide), hget .url (by decide), hget .user (by decide), hpassword]
  have hunlisted : unlistedSchema c' = unlistedSchema c := by
    unfold unlistedSchema
    rw [hget .schemas (by decide), hget .defaultSchema (by decide)]
  unfold Findings.of
  rw [hincomplete, hunlisted, hget .placeholders (by decide),
    hget .cleanOnValidationError (by decide), hget .cleanDisabled (by decide),
    hget .baselineOnMigrate (by decide), hget .baselineVersion (by decide),
    hget .placeholderReplacement (by decide), hget .validateOnMigrate (by decide),
    hget .lockRetryCount (by decide), hget .outOfOrder (by decide),
    hget .ignorePendingMigrations (by decide)]

end MigrationConfig
