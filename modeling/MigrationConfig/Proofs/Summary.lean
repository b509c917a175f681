/-
# What a loader tells of its loads

A summary is made of three things that a loader remembers, and a load writes them at
different moments: the files and the use of the environment as soon as the sources
are settled, which is before anything can fail, and the findings at the very end.
The findings are therefore always those of the last load that returned, the files
and the use of the environment those of the last load.

So a summary describes one single load unless the last load has failed; and then it
does only if the sources of that load happen to be those that are described
(`Loader.summary_describes_iff`).
-/
import Mathlib.Data.List.Induction
import MigrationConfig.Proofs.Loading

namespace MigrationConfig

/-- A load that is asked of a loader, and the host that it finds. -/
structure Load where
  overrides : PropertyMap
  environment : Option Variables
  host : Host

/-- What a loader tells of its loads. -/
structure Summary where
  files : List Path
  usedEnvironment : Bool
  findings : Findings

namespace Loader

def summary (l : Loader) : Summary := ⟨l.files, l.usedEnvironment, l.findings⟩

/-- The loader as it was before its first load. -/
def fresh (l : Loader) : Loader := .new l.settings l.classes l.edition

end Loader

/-! ## One load -/

namespace Load

/-- The outcome of a load, and the loader that it leaves. -/
def run (k : Load) (l : Loader) : Except Error Config × Loader :=
  ((Loader.load k.overrides k.environment).run l k.host).1

def returns (k : Load) (l : Loader) : Bool := (k.run l).1.isOk

/-- The sources of a load. -/
def sources (k : Load) (l : Loader) : Loader.Sources :=
  l.sources k.host k.overrides k.environment

/-- The environment had properties. -/
def usesEnvironment (k : Load) (l : Loader) : Bool := !(k.sources l).given.isEmpty

/-- A load remembers its sources in any case, and what it has found if it returns. -/
theorem run_loader (k : Load) (l : Loader) :
    (k.run l).2 =
      match (k.run l).1 with
      | .ok c => { l.recalling (k.sources l) with findings := .of c }
      | .error _ => l.recalling (k.sources l) := by
  have hsources : l.sources k.host k.overrides k.environment = k.sources l := rfl
  unfold run
  rw [Loader.load_run hsources]
  rcases (k.sources l).loadFiles.run (k.host.logged (k.sources l).events) with ⟨r, h₁⟩
  cases r with
  | error e => rfl
  | ok loaded =>
      dsimp only
      rw [Loader.make_run]
      rcases (Loader.configured (.new l.edition (l.classesOn h₁).1)
        (Config.configure ((k.sources l).merged loaded k.overrides))).run (l.classesOn h₁).2
        with ⟨r, h₂⟩
      cases r <;> rfl

/-- The outcome of a load does not depend on the loads before it. -/
theorem run_outcome_fresh (k : Load) (l : Loader) : (k.run l.fresh).1 = (k.run l).1 := by
  have hsources : l.sources k.host k.overrides k.environment = k.sources l := rfl
  have hfresh : l.fresh.sources k.host k.overrides k.environment = k.sources l := rfl
  unfold run
  rw [Loader.load_run hsources, Loader.load_run hfresh]
  rcases (k.sources l).loadFiles.run (k.host.logged (k.sources l).events) with ⟨r, h₁⟩
  cases r with
  | error e => rfl
  | ok loaded =>
      have hclasses : l.fresh.classesOn h₁ = l.classesOn h₁ := rfl
      have hedition : l.fresh.edition = l.edition := rfl
      dsimp only
      rw [Loader.make_run, Loader.make_run, hclasses, hedition]
      rcases (Loader.configured (.new l.edition (l.classesOn h₁).1)
        (Config.configure ((k.sources l).merged loaded k.overrides))).run (l.classesOn h₁).2
        with ⟨r, h₂⟩
      cases r <;> rfl

theorem returns_fresh (k : Load) (l : Loader) : k.returns l.fresh = k.returns l := by
  rw [returns, run_outcome_fresh]
  rfl

@[simp] theorem run_fresh (k : Load) (l : Loader) : (k.run l).2.fresh = l.fresh := by
  rw [run_loader]
  cases (k.run l).1 <;> rfl

theorem run_files (k : Load) (l : Loader) : (k.run l).2.files = (k.sources l).files := by
  rw [run_loader]
  cases (k.run l).1 <;> rfl

theorem run_usedEnvironment (k : Load) (l : Loader) :
    (k.run l).2.usedEnvironment = k.usesEnvironment l := by
  rw [run_loader]
  cases (k.run l).1 <;> rfl

/-- A load that fails leaves the findings as they are. -/
theorem run_findings_of_fails {k : Load} {l : Loader} (hk : k.returns l = false) :
    (k.run l).2.findings = l.findings := by
  rw [run_loader]
  unfold returns at hk
  cases hr : (k.run l).1 with
  | ok c =>
      rw [hr] at hk
      cases hk
  | error e => rfl

/-- A load that returns finds what it would have found alone. -/
theorem run_findings_of_returns {k : Load} {l : Loader} (hk : k.returns l = true) :
    (k.run l).2.findings = (k.run l.fresh).2.findings := by
  rw [run_loader, run_loader, run_outcome_fresh]
  unfold returns at hk
  cases hr : (k.run l).1 with
  | ok c => rfl
  | error e =>
      rw [hr] at hk
      cases hk

end Load

/-! ## Loads one after the other -/

namespace Loader

/-- The loader that loads lead to. -/
def after (l : Loader) (ks : List Load) : Loader := ks.foldl (fun l k => (k.run l).2) l

/-- The last load that returned. -/
def lastReturned (l : Loader) (ks : List Load) : Option Load :=
  ks.reverse.find? fun k => k.returns l

/-- The summary of the last load that returned, or that of a loader without one. -/
def settledSummary (l : Loader) (ks : List Load) : Summary :=
  match l.lastReturned ks with
  | some k => (k.run l.fresh).2.summary
  | none => l.fresh.summary

theorem after_concat (l : Loader) (ks : List Load) (k : Load) :
    l.after (ks ++ [k]) = (k.run (l.after ks)).2 := by
  rw [after, List.foldl_append]
  rfl

/-- Loads do not change what a loader was made of. -/
theorem after_fresh (l : Loader) (ks : List Load) : (l.after ks).fresh = l.fresh := by
  induction ks using List.reverseRecOn with
  | nil => rfl
  | append_singleton ks k ih => rw [after_concat, Load.run_fresh, ih]

/-- Nothing about a load but what it finds remembered depends on the loads before it. -/
theorem after_load (l : Loader) (ks : List Load) (k : Load) :
    k.returns (l.after ks) = k.returns l ∧ k.sources (l.after ks) = k.sources l := by
  have hfresh := l.after_fresh ks
  refine ⟨?_, ?_⟩
  · rw [← Load.returns_fresh, hfresh, Load.returns_fresh]
  · show k.sources (l.after ks).fresh = k.sources l.fresh
    rw [hfresh]

theorem lastReturned_concat (l : Loader) (ks : List Load) (k : Load) :
    l.lastReturned (ks ++ [k]) = if k.returns l then some k else l.lastReturned ks := by
  unfold lastReturned
  rw [List.reverse_append, List.reverse_singleton, List.singleton_append, List.find?_cons]
  cases k.returns l <;> rfl

theorem settledSummary_concat (l : Loader) (ks : List Load) (k : Load) :
    l.settledSummary (ks ++ [k]) =
      if k.returns l then (k.run l.fresh).2.summary else l.settledSummary ks := by
  unfold settledSummary
  rw [lastReturned_concat]
  cases k.returns l <;> rfl

/-- A load that fails after one that returned settles nothing. -/
theorem settledSummary_of_fails {l : Loader} {k failed : Load} (hk : k.returns l = true)
    (hfailed : failed.returns l = false) :
    l.settledSummary [k, failed] = (k.run l.fresh).2.summary := by
  have hconcat : [k, failed] = [k] ++ [failed] := rfl
  rw [hconcat, settledSummary_concat, hfailed, if_neg Bool.false_ne_true, ← List.nil_append [k],
    settledSummary_concat, if_pos hk]

variable {l : Loader}

/-- The findings are always those of the last load that returned. -/
theorem after_findings (hl : l.fresh = l) (ks : List Load) :
    (l.after ks).findings = (l.settledSummary ks).findings := by
  induction ks using List.reverseRecOn with
  | nil =>
      show l.findings = l.fresh.findings
      rw [hl]
  | append_singleton ks k ih =>
      rw [after_concat, settledSummary_concat]
      cases hk : k.returns l with
      | true =>
          rw [Load.run_findings_of_returns (((l.after_load ks k).1).trans hk), after_fresh]
          rfl
      | false =>
          rw [Load.run_findings_of_fails (((l.after_load ks k).1).trans hk), ih]
          rfl

/-- The files and the use of the environment are those of the last load. -/
theorem after_concat_sources (l : Loader) (ks : List Load) (k : Load) :
    (l.after (ks ++ [k])).files = (k.sources l).files ∧
      (l.after (ks ++ [k])).usedEnvironment = k.usesEnvironment l := by
  rw [after_concat, Load.run_files, Load.run_usedEnvironment, Load.usesEnvironment,
    (l.after_load ks k).2]
  exact ⟨rfl, rfl⟩

theorem after_one_files (l : Loader) (k : Load) :
    (l.after [k]).summary.files = (k.sources l).files :=
  (l.after_concat_sources [] k).1

theorem after_two_files (l : Loader) (k₁ k₂ : Load) :
    (l.after [k₁, k₂]).summary.files = (k₂.sources l).files :=
  (l.after_concat_sources [k₁] k₂).1

theorem summary_eq_iff {l : Loader} {s : Summary} (hs : l.findings = s.findings) :
    l.summary = s ↔ l.files = s.files ∧ l.usedEnvironment = s.usedEnvironment := by
  rcases s with ⟨files, used, findings⟩
  unfold summary
  simp only [Summary.mk.injEq]
  exact ⟨fun h => ⟨h.1, h.2.1⟩, fun h => ⟨h.1, h.2, hs⟩⟩

/-- What a loader is made of never changes.  Its summary is that of the last load that
returned, or the initial one, exactly when the last load has not failed or had the
sources that are described; and a load that fails leaves the summary as it was exactly
when it has the sources that were described before. -/
theorem summary_describes_iff (settings : SourceSettings) (classes : Option ClassLoader)
    (edition : Edition) (ks : List Load) :
    let l : Loader := .new settings classes edition
    (l.after ks).fresh = l ∧
      ((l.after ks).summary = l.settledSummary ks ↔
        ∀ k ∈ ks.getLast?, k.returns l = false →
          (k.sources l).files = (l.settledSummary ks).files ∧
            k.usesEnvironment l = (l.settledSummary ks).usedEnvironment) ∧
      ∀ k : Load, k.returns l = false →
        ((l.after (ks ++ [k])).summary = (l.after ks).summary ↔
          (k.sources l).files = (l.after ks).files ∧
            k.usesEnvironment l = (l.after ks).usedEnvironment) := by
  intro l
  have hl : l.fresh = l := rfl
  refine ⟨l.after_fresh ks, ?_, fun k hk => ?_⟩
  · rw [summary_eq_iff (after_findings hl ks)]
    cases ks using List.reverseRecOn with
    | nil => exact ⟨fun _ k hk => (nomatch hk), fun _ => ⟨rfl, rfl⟩⟩
    | append_singleton ks k =>
        obtain ⟨hfiles, hused⟩ := l.after_concat_sources ks k
        rw [hfiles, hused, List.getLast?_concat]
        constructor
        · intro hsame k' hk' _
          obtain rfl := Option.some.inj hk'
          exact hsame
        · intro hfailed
          cases hk : k.returns l with
          | false => exact hfailed k rfl hk
          | true =>
              rw [settledSummary_concat, if_pos hk, hl]
              exact ⟨(k.run_files l).symm, (k.run_usedEnvironment l).symm⟩
  · obtain ⟨hfiles, hused⟩ := l.after_concat_sources ks k
    have hfindings : (l.after (ks ++ [k])).findings = (l.after ks).findings := by
      rw [after_concat]
      exact Load.run_findings_of_fails ((l.after_load ks k).1.trans hk)
    rw [summary_eq_iff (s := (l.after ks).summary) hfindings, hfiles, hused]
    rfl

/-- A load that is refused after its sources are settled leaves the summary as it was if it
reads the same files: it still tells of the load before. -/
theorem summary_describes_refused :
    let l : Loader := .new .standard none .community
    let h : Host := { Host.bare with home := Path.ofString "home" }
    let returned : Load := ⟨.ofList [("flyway.mixed", "true")], some [], h⟩
    let refused : Load := ⟨.ofList [("flyway.mixed", "maybe")], some [], h⟩
    returned.returns l = true ∧ refused.returns l = false ∧
      (l.after [returned, refused]).summary = l.settledSummary [returned, refused] := by
  intro l h returned refused
  have hreturned : returned.returns l = true := by decide +kernel
  have hrefused : refused.returns l = false := by decide +kernel
  have hspec := summary_describes_iff .standard none .community [returned, refused]
  refine ⟨hreturned, hrefused, hspec.2.1.2 fun k hk _ => ?_⟩
  obtain rfl := Option.some.inj hk
  rw [settledSummary_of_fails hreturned hrefused, summary, returned.run_files,
    returned.run_usedEnvironment]
  exact ⟨by decide +kernel, by decide +kernel⟩

/-- A load that cannot read its files leaves a summary of no load at all: its own files
stand beside the findings of the load before. -/
theorem summary_of_two_loads :
    let l : Loader := .new .standard none .community
    let h : Host := { Host.bare with home := Path.ofString "home" }
    let returned : Load := ⟨.ofList [("flyway.cleanOnValidationError", "true")], some [], h⟩
    let failed : Load := ⟨.ofList [("flyway.configFiles", "missing.conf")], some [], h⟩
    returned.returns l = true ∧ failed.returns l = false ∧
      (l.after [returned, failed]).summary ≠ l.settledSummary [returned, failed] ∧
      (l.after [returned, failed]).summary ≠ (l.after [returned]).summary := by
  intro l h returned failed
  have hreturned : returned.returns l = true := by decide +kernel
  have hfailed : failed.returns l = false := by decide +kernel
  have hreturnedFiles : (returned.sources l).files = defaultFiles h.home := by decide +kernel
  have hfailedFiles : (failed.sources l).files = [Path.ofString "missing.conf"] := by
    decide +kernel
  have hafter : (l.after [returned, failed]).summary.files = [Path.ofString "missing.conf"] :=
    (l.after_two_files returned failed).trans hfailedFiles
  have hbefore : (l.after [returned]).summary.files = defaultFiles h.home :=
    (l.after_one_files returned).trans hreturnedFiles
  have hsettled : (l.settledSummary [returned, failed]).files = defaultFiles h.home := by
    rw [settledSummary_of_fails hreturned hfailed]
    exact (returned.run_files l.fresh).trans hreturnedFiles
  have hne : [Path.ofString "missing.conf"] ≠ defaultFiles h.home := by decide
  refine ⟨hreturned, hfailed, fun heq => hne ?_, fun heq => hne ?_⟩
  · rw [← hafter, heq, hsettled]
  · rw [← hafter, heq, hbefore]

end Loader

end MigrationConfig
