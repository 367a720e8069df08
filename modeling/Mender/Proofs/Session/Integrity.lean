import Mender.Proofs.Repair.Accounting
import Mender.Proofs.Session.Course
import Mender.Session.Engine

/-!
# Integrity of the files over a session

Whatever a session meets with (reads that fail, tests and a model that fail, patches that fit in
part, a request to stop), the files at its end are those at its start after the patches that its
results say were applied, in their order. Everything else that a session does leaves them alone.
-/

namespace Mender

open Site

section Reading

variable {σ : Type} {R : σ → σ → Prop} [IsPreorder σ R] {host : Host (StateM σ)}

theorem Localization.with_snippets_keeps (hreads : host.Reads R) (context : Int)
    (faults : List Fault) : Keeps R (Localization.withSnippets host context faults) := by
  induction faults with
  | nil => exact .pure _
  | cons f fs ih =>
      refine .bind (host.readable_keeps hreads _) fun content => ?_
      cases content with
      | error e => exact .pure _
      | ok content => exact .bind ih fun _ => .pure _

theorem localize_keeps (hreads : host.Reads R) (config : LocalizationConfig) (output : String)
    (coverage : Option Coverage) : Keeps R (localize config host output coverage) := by
  unfold localize
  cases Localization.found config output coverage with
  | error e => exact .pure _
  | ok found => exact .bind (Localization.with_snippets_keeps hreads _ _) fun _ => .pure _

theorem Session.code_context_keeps (hreads : host.Reads R) (config : RepairConfig)
    (hint : Option String) (f : Fault) :
    Keeps R (Session.codeContext ⟨config, host, hint⟩ f) := by
  unfold Session.codeContext
  split
  · refine .bind (host.readable_keeps hreads _) fun content => ?_
    rcases content with e | _ | content <;> exact .pure _
  · exact .pure _

end Reading

namespace Session

variable {E : Type} {c : Crew E} {locked : Set String}

/-- What an attempt at a fault comes to accounts for what it did. An attempt that fails did
nothing. -/
theorem attempt_accounts (hlocks : c.Locks locked) (config : RepairConfig) (hint : Option String)
    (memory : Memory) (f : Fault) (s : Site E) :
    ∃ memory' result s', attempt ⟨config, c.host, hint⟩ memory f s = ((memory', result), s') ∧
      Accounts config c result.toOption.toList s s' := by
  have hcontext := code_context_keeps c.host_reads config hint f s
  rw [attempt, run_bind]
  rcases hcode : codeContext ⟨config, c.host, hint⟩ f s with ⟨e | context, s₁⟩ <;>
    rw [hcode] at hcontext
  · exact ⟨memory, .error e, s₁, rfl, .of_untouched hcontext⟩
  · let task : Generate.Task :=
      { fault := f, codeContext := context, hint
        learned := learned? ⟨config, c.host, hint⟩ memory f }
    have hmade := Generate.candidates_yields c.host_reads c.host_asks config memory.registry task s₁
    simp only [run_bind]
    rcases hpool : Generate.candidates config c.host memory.registry task s₁ with ⟨e | pool, s₂⟩ <;>
      rw [hpool] at hmade
    · exact ⟨memory, .error e, s₂, rfl, .of_untouched (trans_of Untouched hcontext hmade.1)⟩
    · obtain ⟨memory', result, s', hrun, haccounts⟩ :=
        Loop.run_accounts hlocks config f context memory (hmade.2 pool rfl) s₂
      exact ⟨memory', result, s', hrun, .between (trans_of Untouched hcontext hmade.1) haccounts
        (refl_of Untouched s')⟩

/-- The result of a fault accounts for what its repair did, also when the repair failed. -/
theorem repair_fault_accounts (hlocks : c.Locks locked) (config : RepairConfig)
    (hint : Option String) (memory : Memory) (f : Fault) (s : Site E) :
    ∃ memory' r s', repairFault ⟨config, c.host, hint⟩ memory f s = ((memory', r), s') ∧
      Accounts config c [r] s s' := by
  obtain ⟨memory', result, s₁, hattempt, haccounts⟩ := attempt_accounts hlocks config hint memory f
    (c.host.notify (.faultStart f) s).2
  have hstart := c.notify_keeps (.faultStart f) s
  rw [repairFault, run_bind, run_bind, hattempt]
  cases result with
  | ok r => exact ⟨memory', r, s₁, rfl, .between hstart haccounts (refl_of Untouched s₁)⟩
  | error e =>
      have hend := c.notify_keeps (.failure (failedResult f e.described)) s₁
      -- the failed attempt did nothing, and telling of it does nothing either
      have hfailed : Accounts config c [failedResult f e.described]
          (c.host.notify (.failure (failedResult f e.described)) s₁).2
          (c.host.notify (.failure (failedResult f e.described)) s₁).2 :=
        .of_unchanged (by simp [failedResult]) rfl rfl
      exact ⟨memory', failedResult f e.described, _, rfl,
        (haccounts.between hstart hend).append hfailed⟩

/-- The work for a fault is its repair once listeners were told. -/
theorem work_repairs {config : RepairConfig} {hint : Option String} {total number : Nat}
    {memory : Memory} {f : Fault} {s s' : Site E} {ended : Memory × RepairResult}
    (h : work ⟨config, c.host, hint⟩ total number memory f s = (ended, s')) :
    ∃ s₁, Untouched s s₁ ∧ repairFault ⟨config, c.host, hint⟩ memory f s₁ = (ended, s') :=
  ⟨_, c.notify_keeps _ s, h⟩

/-- The results of faults that were worked on account for what their repair did. -/
theorem Worked.accounts (hlocks : c.Locks locked) {config : RepairConfig} {hint : Option String}
    {total number : Nat} {memory memory' : Memory} {faults : List Fault}
    {results : List RepairResult} {s s' : Site E}
    (h : Worked ⟨config, c.host, hint⟩ total number memory s faults results memory' s') :
    Accounts config c results s s' := by
  induction h with
  | nil => exact .of_unchanged (by simp) rfl rfl
  | @cons _ _ _ _ _ _ _ _ s _ s₂ _ hgoes hworks _ ih =>
      have hasked := c.stop_asked_keeps s
      rw [hgoes] at hasked
      obtain ⟨_, htold, hrepairs⟩ := work_repairs hworks
      obtain ⟨_, _, _, hrun, haccounts⟩ := repair_fault_accounts hlocks config hint _ _ _
      rw [hrepairs] at hrun
      cases hrun
      exact (haccounts.between (trans_of Untouched hasked htold) (refl_of Untouched s₂)).append ih

/-- Before it localizes faults a session leaves the site untouched. -/
theorem beginning_keeps (c : Crew E) : Keeps Untouched (beginning c.host) :=
  .bind c.forget_stop_keeps fun _ => .bind (c.notify_keeps _) fun _ => c.notify_keeps _

theorem Leaves.untouched {config : RepairConfig} {hint : Option String} {left : List Fault}
    {s s' : Site E} (h : Leaves ⟨config, c.host, hint⟩ left s s') : Untouched s s' := by
  obtain ⟨_, rfl⟩ | ⟨_, hstop⟩ := h
  · exact refl_of Untouched s'
  · have hasked := c.stop_asked_keeps s
    rwa [hstop] at hasked

/-- What a session does before it repairs faults leaves the site untouched. -/
theorem localized_untouched {config : LocalizationConfig} {output : String}
    {coverage : Option Coverage} {found : Except Failure Localization.Found} {s s' : Site E}
    (h : localize config c.host output coverage (beginning c.host s).2 = (found, s')) :
    Untouched s s' := by
  have hkeeps := localize_keeps c.host_reads config output coverage (beginning c.host s).2
  rw [h] at hkeeps
  exact trans_of Untouched (beginning_keeps c s) hkeeps

/-- The results of a session account for all that it did. A session that fails did nothing. -/
theorem run_accounts (hlocks : c.Locks locked) (config : RepairConfig) (hint : Option String)
    (localization : LocalizationConfig) (memory : Memory) (output : String)
    (coverage : Option Coverage) (s : Site E) :
    ∃ memory' result s',
      run ⟨config, c.host, hint⟩ localization memory output coverage s = ((memory', result), s') ∧
      Accounts config c ((result.toOption.map (·.results)).getD []) s s' := by
  obtain ⟨memory', result, s', hrun, hends⟩ :=
    run_runs_to ⟨config, c.host, hint⟩ localization memory output coverage s
  refine ⟨memory', result, s', hrun, ?_⟩
  cases hends with
  | unlocalized hlocal => exact .of_untouched (localized_untouched hlocal)
  | unnamed hlocal _ =>
      exact .of_untouched (trans_of Untouched (localized_untouched hlocal) (c.notify_keeps _ _))
  | @ended found _ left _ _ s₁ s₂ s₃ hlocal _ hworked hleaves =>
      have hbegins := trans_of Untouched (localized_untouched hlocal)
        (c.notify_keeps (.localization found.faults) s₁)
      -- the faults that are left come after those that were worked on, and change nothing
      have hleft : Accounts config c (left.map (failedResult · Reason.cancelled)) s₂ s₂ :=
        .of_unchanged (by simp [failedResult]) rfl rfl
      exact ((hworked.accounts hlocks).append hleft).between hbegins
        (trans_of Untouched hleaves.untouched (c.notify_keeps _ s₃))

end Session

/-- Whatever the collaborators do, as long as no write fails, the files at the end of a session are
those at its start after the patches of its successful results in order, and no others. If
candidates are tested, each of those patches was accepted by a run of the tests that saw the files
as that patch left them, and the last of them saw the files at the end. A session that fails leaves
the files as they were. -/
theorem Engine.repair_changes_files_by_applied_patches {E : Type} (c : Crew E)
    (hwrites : c.WritesSucceed) (e : Engine) (output : String) (hint : Option String)
    (coverage : Option Coverage) (s : Site E) :
    ∃ e' result s', Engine.repair c.host e output hint coverage s = ((e', result), s') ∧
      match result with
      | .error _ => s'.files = s.files
      | .ok results =>
        (∀ r ∈ results, r.success = r.appliedPatch?.isSome) ∧
        (appliedPatches results).foldlM FileStore.patched? s.files = some s'.files ∧
        (∀ path, (∀ p ∈ appliedPatches results, path ∉ p.files) → s'.files path = s.files path) ∧
        (Validate.runsTests e.config c.host = true →
          ∃ new, s'.acceptedRuns = s.acceptedRuns ++ new ∧
            Stages s.files (appliedPatches results) new s'.files ∧
            (appliedPatches results ≠ [] → ∃ o p, new.getLast? = some (s'.files, o) ∧
              (appliedPatches results).getLast? = some p ∧ p.results = some o)) := by
  obtain ⟨memory', result, s', hrun, haccounts⟩ := Session.run_accounts hwrites.locks e.config hint
    e.localization e.memory output coverage s
  cases result with
  | error f =>
      refine ⟨{ e with memory := memory' }, .error f, s', ?_, ?_⟩
      · rw [Engine.repair, run_bind, hrun]
        rfl
      · exact (Option.some.inj haccounts.files).symm
  | ok session =>
      refine ⟨({ e with memory := memory' }).store session, .ok session.results, s', ?_, ?_⟩
      · rw [Engine.repair, run_bind, hrun]
        rfl
      · refine ⟨haccounts.success, haccounts.files, fun path hpath =>
          FileStore.foldlM_patched_frame haccounts.files hpath, fun htested => ?_⟩
        obtain ⟨new, hnew, hstages⟩ := haccounts.runs htested
        exact ⟨new, hnew, hstages, hstages.last_run⟩

/-- A strategy that replaces any line by two. -/
def Strategy.twoLines : Strategy where
  id := "two_lines"
  description := "Replace the line by two"
  patterns := []
  fixes := [fun _ _ => some (LineFix.lineMark ++ "pass\nreturn")]
  catchAll := true

/-- A session on a single file, without a model and with willing tests: its only fault is repaired
by the two lines of a strategy. -/
theorem Engine.repair_changes_single_file :
    let crew := Crew.steady (fun _ _ => none) (.value { success := true })
    let start := Site.single "a.py" "x = y\n"
    crew.WritesSucceed ∧
      ∃ e' r s',
        Engine.repair crew.host (.create {} (some (.ofList [.twoLines])) none)
          "a.py:1:1: error: undefined name" none none start = ((e', .ok [r]), s') ∧
        r.success = true ∧ s'.files "a.py" = some "pass\nreturn\n" ∧
        (appliedPatches [r]).foldlM FileStore.patched? start.files = some s'.files ∧
        ∀ path, (∀ p ∈ appliedPatches [r], path ∉ p.files) → s'.files path = start.files path := by
  intro crew start
  have hwrites : crew.WritesSucceed := fun _ _ _ => rfl
  have hended : (Engine.repair crew.host (.create {} (some (.ofList [.twoLines])) none)
      "a.py:1:1: error: undefined name" none none start).1.2.toOption.map
        (List.map RepairResult.success) = some [true] := by decide +kernel
  have hleft : (Engine.repair crew.host (.create {} (some (.ofList [.twoLines])) none)
      "a.py:1:1: error: undefined name" none none start).2.files "a.py" =
        some "pass\nreturn\n" := by decide +kernel
  obtain ⟨e', result, s', hrepair, hends⟩ := Engine.repair_changes_files_by_applied_patches crew
    hwrites (.create {} (some (.ofList [.twoLines])) none) "a.py:1:1: error: undefined name" none
    none start
  rw [hrepair] at hended hleft
  rcases result with f | _ | ⟨r, _ | ⟨r', rest⟩⟩
  · cases hended
  · cases hended
  · exact ⟨hwrites, e', r, s', hrepair, by simpa [Except.toOption] using hended, hleft, hends.2.1,
      hends.2.2.1⟩
  · simp [Except.toOption] at hended

end Mender
