import Mender.Proofs.Patch.Locking
import Mender.Repair.Validate

/-!
# The validation of a candidate

`Validates` says how the validation of one candidate ends, with a constructor for each way out. But
for an accepted candidate the files are as they were, and the tests are run once at most, on the
files with the candidate applied and nothing else.
-/

namespace Mender

open FileAccess Site

/-- Between two states of a site a candidate was applied and accepted. If candidates are tested, a
run of the tests saw the files that are left and answered with the outcome. -/
structure Accepts {E : Type} (config : RepairConfig) (c : Crew E) (p : Patch) (o : Outcome)
    (s s' : Site E) : Prop where
  accepted : o.accepted = true
  files : s.files.patched? p = some s'.files
  runs :
    if Validate.runsTests config c.host then
      ∃ reply, acceptance? (s'.files, reply) = some (s'.files, o) ∧
        s'.runs = s.runs ++ [(s'.files, reply)]
    else s'.runs = s.runs

/-- How the validation of a candidate at a site ends: the answer, and the last site. -/
inductive Validates {E : Type} (config : RepairConfig) (c : Crew E) (p : Patch) (s : Site E) :
    Except Failure Outcome → Site E → Prop
  | raised {f s'} :
      s'.files = s.files → s'.runs = s.runs → Validates config c p s (.error f) s'
  | unapplied {o s'} :
      o.accepted = false → s'.files = s.files → s'.runs = s.runs → Validates config c p s (.ok o) s'
  | rejected {o seen reply s'} :
      o.accepted = false →
      s.files.patched? p = some seen → acceptance? (seen, reply) = none →
      s'.files = s.files → s'.runs = s.runs ++ [(seen, reply)] →
      Validates config c p s (.ok o) s'
  | accepted {o s'} :
      Accepts config c p o s s' → Validates config c p s (.ok o) s'

/-- An accepted candidate was run the tests for once at most, on the files with it applied. -/
theorem Accepts.new_run {E : Type} {config : RepairConfig} {c : Crew E} {p : Patch} {o : Outcome}
    {s s' : Site E} (h : Accepts config c p o s s') :
    ∃ run? : Option (FileStore × Reply Outcome), s'.runs = s.runs ++ run?.toList ∧
      ∀ run, run? = some run → s.files.patched? p = some run.1 := by
  have hruns := h.runs
  split at hruns
  · obtain ⟨reply, _, hran⟩ := hruns
    exact ⟨some (s'.files, reply), hran, by rintro _ ⟨⟩; exact h.files⟩
  · exact ⟨none, by simpa using hruns, by simp⟩

/-- So was every candidate. -/
theorem Validates.new_run {E : Type} {config : RepairConfig} {c : Crew E} {p : Patch}
    {ended : Except Failure Outcome} {s s' : Site E} (h : Validates config c p s ended s') :
    ∃ run? : Option (FileStore × Reply Outcome), s'.runs = s.runs ++ run?.toList ∧
      ∀ run, run? = some run → s.files.patched? p = some run.1 := by
  cases h with
  | raised _ hruns | unapplied _ _ hruns => exact ⟨none, by simpa using hruns, by simp⟩
  | @rejected _ seen reply _ _ hseen _ _ hruns =>
      exact ⟨some (seen, reply), hruns, by rintro _ ⟨⟩; exact hseen⟩
  | accepted haccepts => exact haccepts.new_run

theorem Outcome.failure_not_accepted (messages : List String) (compiled : Bool) :
    (Outcome.failure messages compiled).accepted = false :=
  rfl

namespace Validate

variable {E : Type} {c : Crew E} {locked : Set String} (config : RepairConfig)

/-- A failure of the patch is an outcome that does not accept it. -/
theorem patch_outcome_of_patch {f : Failure} (hkind : f.kind = .patch) :
    patchOutcome (.error f) = .ok (.failure [f.message] false, false) := by
  simp [patchOutcome, hkind]

theorem patch_outcome_of_other {f : Failure} (hkind : f.kind ≠ .patch) :
    patchOutcome (.error f) = .error f := by
  simp [patchOutcome, hkind]

/-- Running the tests as a validation does is a run of the tests, and the outcome is accepted
exactly when the tests answered with it and accept. -/
theorem run_tests_sees (answer : Site E → Reply Outcome × E) (s : Site E) :
    ∃ o, runTests config (Crew.test answer) s = (o, (Crew.test answer s).2) ∧
      acceptance? (s.files, (answer s).1) = if o.accepted then some (s.files, o) else none := by
  rw [runTests, run_bind]
  obtain ⟨o, hreply, hrun⟩ | ⟨hreply, f, hrun⟩ :=
    bounded_eq config.testTimeout testTimeout (Crew.test answer) s
  · refine ⟨o, by rw [hrun]; rfl, ?_⟩
    rw [show (answer s).1 = .value o from hreply]
    rfl
  · have hnone : acceptance? (s.files, (answer s).1) = none := by
      cases hvalue : (answer s).1 with
      | value o => exact absurd hvalue (hreply o)
      | raised f | silent => rfl
    rw [hrun, hnone]
    by_cases hkind : f.kind = .testTimeout
    · exact ⟨_, by simp only [hkind, if_true]; rfl, by simp [Outcome.failure_not_accepted]⟩
    · exact ⟨_, by simp only [hkind, if_false]; rfl, by simp [Outcome.failure_not_accepted]⟩

variable {config} {p : Patch} {s s₁ : Site E} {taken : Snapshots}

/-- A candidate of a crew is tested, or applied without a test. -/
theorem candidate_eq (config : RepairConfig) (c : Crew E) (p : Patch) :
    (runsTests config c.host = false ∧
        candidate config c.host p = applyUntested (some c.files) p) ∨
      (runsTests config c.host = true ∧ ∃ answer,
        candidate config c.host p = applyAndTest config c.host c.files (Crew.test answer) p) := by
  cases hwith : config.validateWithTests with
  | false => exact .inl ⟨by simp [runsTests, hwith], by simp [candidate, hwith]⟩
  | true =>
      cases htests : c.tests? with
      | none => exact .inl ⟨by simp [runsTests, htests], by simp [candidate, htests]⟩
      | some answer =>
          refine .inr ⟨by simp [runsTests, hwith, htests], answer, ?_⟩
          simp [candidate, hwith, htests]

/-- An outcome of a patch that was not tested is answered as it is. -/
theorem patch_outcome_error (f : Failure) :
    patchOutcome (.error f) = .error f ∨
      patchOutcome (.error f) = .ok (.failure [f.message] false, false) := by
  by_cases hkind : f.kind = .patch
  · exact .inr (patch_outcome_of_patch hkind)
  · exact .inl (patch_outcome_of_other hkind)

/-- A candidate that does not apply is taken back. -/
theorem candidate_unapplied {f : Failure}
    (happly : c.files.applyTo p.changes p.files [] s = ((taken, .error f), s₁)) :
    candidate config c.host p s =
      ((patchOutcome (afterRestoring (c.files.restore taken s₁).1 (.error f))).map (·.1),
        (c.files.restore taken s₁).2) := by
  obtain ⟨_, heq⟩ | ⟨_, answer, heq⟩ := candidate_eq config c p
  · rw [heq]
    simp only [applyUntested, run_bind, trial_unapplied happly]
    rfl
  · rw [heq]
    simp only [applyAndTest, run_bind, trial_unapplied happly]
    obtain ⟨f', hended⟩ := after_restoring_error Outcome (c.files.restore taken s₁).1 f
    -- a failure of the patch is an outcome that was not tested, so no rollback is told of
    rcases patch_outcome_error f' with houtcome | houtcome <;>
      simp [hended, houtcome, Except.map, run_pure]

/-- A candidate that applies and is not tested is accepted. -/
theorem candidate_untested (hruns : runsTests config c.host = false)
    (happly : c.files.applyTo p.changes p.files [] s = ((taken, .ok ()), s₁)) :
    candidate config c.host p s = (.ok { success := true }, s₁) := by
  obtain ⟨_, heq⟩ | ⟨htested, _⟩ := candidate_eq config c p
  · rw [heq]
    simp only [applyUntested, run_bind, trial_committed happly (run_pure _ _)]
    rfl
  · simp [hruns] at htested

/-- A candidate that applies and is tested is taken back unless the tests accept it. -/
theorem candidate_tested (hlocks : c.Locks locked) (hruns : runsTests config c.host = true)
    (happly : c.files.applyTo p.changes p.files [] s = ((taken, .ok ()), s₁))
    (happlies : Applies c.files p.changes p.files s taken (.ok ()) s₁) :
    ∃ reply s₂ o, Unwritten s₁ s₂ ∧ s₂.runs = s₁.runs ++ [(s₁.files, reply)] ∧
      acceptance? (s₁.files, reply) = (if o.accepted then some (s₁.files, o) else none) ∧
      ((o.accepted = true ∧ candidate config c.host p s = (.ok o, s₂)) ∨
        (o.accepted = false ∧ ∃ s₃, Untouched (c.files.restore taken s₂).2 s₃ ∧
          candidate config c.host p s = (.ok o, s₃))) := by
  obtain ⟨huntested, _⟩ | ⟨_, answer, heq⟩ := candidate_eq config c p
  · simp [hruns] at huntested
  obtain ⟨o, hran, hseen⟩ := run_tests_sees config answer s₁
  refine ⟨(answer s₁).1, (Crew.test answer s₁).2, o, Crew.test_keeps answer s₁, ?_, hseen, ?_⟩
  · simp [Crew.test, Exchange.run?]
  rw [heq]
  simp only [applyAndTest, run_bind]
  cases haccepted : o.accepted with
  | true =>
      rw [trial_committed happly (show _ = ((true, .ok o), (Crew.test answer s₁).2) by
        simp only [run_bind, hran, haccepted]
        rfl)]
      exact .inl ⟨rfl, by simp [patchOutcome, haccepted, run_pure]⟩
  | false =>
      rw [trial_rejected happly (show _ = ((false, .ok o), (Crew.test answer s₁).2) by
        simp only [run_bind, hran, haccepted]
        rfl)]
      -- every file was written, so none is locked and they can be put back
      have hfree : ∀ snapshot ∈ taken, snapshot.1 ∉ locked := fun snapshot hmem =>
        hlocks.applies_unlocked happlies rfl _
          (happlies.taken_prefix.subset (List.mem_map_of_mem hmem))
      rcases hlocks.restore_result taken (Crew.test answer s₁).2 with
        ⟨hok, _⟩ | ⟨_, _, hmem, hlocked⟩
      · refine .inr ⟨rfl, _, c.notify_keeps (.rollback p.files) _, ?_⟩
        simp [hok, afterRestoring, patchOutcome, haccepted, run_bind, run_pure]
      · exact absurd hlocked (hfree _ hmem)

/-- The validation of a candidate ends as `Validates` says. -/
theorem candidate_validates (hlocks : c.Locks locked) (config : RepairConfig) (p : Patch)
    (s : Site E) :
    Validates config c p s (candidate config c.host p s).1 (candidate config c.host p s).2 := by
  obtain ⟨taken, applied, s₁, happly, happlies⟩ :=
    apply_to_applies c.files p.changes p.files [] s
  rw [List.nil_append] at happly
  have hruns := Crew.applies_runs happlies
  cases applied with
  | error f =>
      -- the tests are not reached, and what was written is taken back
      have hfiles := hlocks.files_restored happlies (refl_of Unwritten s₁)
      have hruns := (Crew.restore_runs (c := c) taken s₁).trans hruns
      rw [candidate_unapplied happly]
      obtain ⟨f', hended⟩ := after_restoring_error Outcome (c.files.restore taken s₁).1 f
      rw [hended]
      rcases patch_outcome_error f' with houtcome | houtcome <;> rw [houtcome]
      · exact .raised hfiles hruns
      · exact .unapplied (Outcome.failure_not_accepted _ _) hfiles hruns
  | ok =>
      have hpatched := Crew.applies_patched happlies
      cases htested : runsTests config c.host with
      | false =>
          rw [candidate_untested htested happly]
          exact .accepted ⟨rfl, hpatched, by simpa [htested] using hruns⟩
      | true =>
          obtain ⟨reply, s₂, o, hkeeps, hran, hseen, hends⟩ :=
            candidate_tested hlocks htested happly happlies
          rcases hends with ⟨haccepted, hends⟩ | ⟨haccepted, s₃, hlast, hends⟩
          · rw [haccepted, if_pos rfl] at hseen
            rw [hruns, ← hkeeps.files] at hran
            rw [← hkeeps.files] at hpatched hseen
            have haccepts : Accepts config c p o s s₂ :=
              ⟨haccepted, hpatched, by simpa [htested] using ⟨reply, hseen, hran⟩⟩
            exact hends ▸ .accepted haccepts
          · rw [haccepted, if_neg (by simp)] at hseen
            rw [hruns] at hran
            have hrestored := hlocks.files_restored happlies hkeeps
            have hlastruns := hlast.runs.trans ((Crew.restore_runs taken s₂).trans hran)
            exact hends ▸ .rejected haccepted hpatched hseen (hlast.files.trans hrestored) hlastruns

end Validate

end Mender
