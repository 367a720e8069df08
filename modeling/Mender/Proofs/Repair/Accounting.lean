import Mender.Proofs.Repair.Isolation

/-!
# Results account for changes

`Accounts` says that the results of repairs account for all that happened to the files of a site:
the files at the end are those at the start after the applied patches in order, and each of those
patches was accepted by a run of the tests that saw the files it led to. It holds for results one
after another when it holds for each.
-/

namespace Mender

open Site

/-- The patches that were applied, in the order of the results. -/
def appliedPatches (results : List RepairResult) : List Patch :=
  results.filterMap (·.appliedPatch?)

/-- Patches applied one after another from some files, with accepting runs of the tests, one for
each, that saw the files it led to; and the files at the end. -/
inductive Stages : FileStore → List Patch → List (FileStore × Outcome) → FileStore → Prop
  | nil {files} : Stages files [] [] files
  | cons {files after final p o patches runs} :
      files.patched? p = some after → p.results = some o →
      Stages after patches runs final →
      Stages files (p :: patches) ((after, o) :: runs) final

namespace Stages

variable {files between final : FileStore} {patches patches' : List Patch}
  {runs runs' : List (FileStore × Outcome)}

theorem append (h : Stages files patches runs between) (h' : Stages between patches' runs' final) :
    Stages files (patches ++ patches') (runs ++ runs') final := by
  induction h with
  | nil => exact h'
  | cons hpatched hresults _ ih => exact .cons hpatched hresults (ih h')

/-- The last accepting run was for the last patch, and saw the files at the end. -/
theorem last_run (h : Stages files patches runs final) (hsome : patches ≠ []) :
    ∃ o p, runs.getLast? = some (final, o) ∧ patches.getLast? = some p ∧ p.results = some o := by
  induction h with
  | nil => exact absurd rfl hsome
  | @cons files after final p o patches runs _ hresults hrest ih =>
      cases hrest with
      | nil => exact ⟨o, p, rfl, rfl, hresults⟩
      | cons _ _ _ =>
          obtain ⟨o', p', hrun, hpatch, hresults'⟩ := ih (by simp)
          exact ⟨o', p', by simpa using hrun, by simpa using hpatch, hresults'⟩

end Stages

/-- Results account for all that happened to the files between two states of a site. -/
structure Accounts {E : Type} (config : RepairConfig) (c : Crew E) (results : List RepairResult)
    (s s' : Site E) : Prop where
  success : ∀ r ∈ results, r.success = r.appliedPatch?.isSome
  files : (appliedPatches results).foldlM FileStore.patched? s.files = some s'.files
  runs : Validate.runsTests config c.host = true →
    ∃ new, s'.acceptedRuns = s.acceptedRuns ++ new ∧
      Stages s.files (appliedPatches results) new s'.files

/-- Patches applied one after another leave the files alone that none of them touches. -/
theorem FileStore.foldlM_patched_frame {files after : FileStore} {patches : List Patch}
    {path : String} (h : patches.foldlM FileStore.patched? files = some after)
    (hpath : ∀ p ∈ patches, path ∉ p.files) : after path = files path := by
  induction patches generalizing files with
  | nil =>
      cases h
      rfl
  | cons p patches ih =>
      obtain ⟨hfirst, hrest⟩ := List.forall_mem_cons.mp hpath
      rw [List.foldlM_cons] at h
      obtain ⟨between, hpatched, hothers⟩ := Option.bind_eq_some_iff.mp h
      exact (ih hothers hrest).trans (patched_frame hpatched hfirst)

variable {E : Type} {config : RepairConfig} {c : Crew E} {results results' : List RepairResult}
  {s s₁ s' : Site E}

/-- Results without an applied patch account for files that did not change. -/
theorem Accounts.of_unchanged (hresults : ∀ r ∈ results, r.success = false ∧ r.applied = none)
    (hfiles : s'.files = s.files) (hruns : s'.acceptedRuns = s.acceptedRuns) :
    Accounts config c results s s' := by
  have hnone : appliedPatches results = [] :=
    List.filterMap_eq_nil_iff.mpr fun r hr => by
      simp [RepairResult.appliedPatch?, (hresults r hr).2]
  refine ⟨fun r hr => ?_, by simp [hnone, hfiles], fun _ => ⟨[], by simpa using hruns, ?_⟩⟩
  · simp [RepairResult.appliedPatch?, hresults r hr]
  · rw [hnone, hfiles]
    exact .nil

theorem Accounts.of_untouched (hkeeps : Untouched s s') : Accounts config c [] s s' :=
  .of_unchanged (by simp) hkeeps.files hkeeps.accepted_runs

theorem Accounts.append (h : Accounts config c results s s₁)
    (h' : Accounts config c results' s₁ s') : Accounts config c (results ++ results') s s' := by
  have happlied : appliedPatches (results ++ results') =
      appliedPatches results ++ appliedPatches results' := List.filterMap_append
  refine ⟨?_, ?_, fun htested => ?_⟩
  · intro r hr
    rcases List.mem_append.mp hr with hr | hr
    · exact h.success r hr
    · exact h'.success r hr
  · simp [happlied, List.foldlM_append, h.files, h'.files]
  · obtain ⟨new, hnew, hstages⟩ := h.runs htested
    obtain ⟨new', hnew', hstages'⟩ := h'.runs htested
    refine ⟨new ++ new', by rw [hnew', hnew, List.append_assoc], ?_⟩
    rw [happlied]
    exact hstages.append hstages'

/-- Results account for what happened before and after something that left the site untouched. -/
theorem Accounts.between {s₀ : Site E} (hbefore : Untouched s₀ s)
    (h : Accounts config c results s s₁) (hafter : Untouched s₁ s') :
    Accounts config c results s₀ s' := by
  refine ⟨h.success, by rw [← hbefore.files, hafter.files]; exact h.files, fun htested => ?_⟩
  obtain ⟨new, hnew, hstages⟩ := h.runs htested
  refine ⟨new, by rw [hafter.accepted_runs, hnew, hbefore.accepted_runs], ?_⟩
  rwa [← hbefore.files, hafter.files]

/-- Rejected candidates have no accepting run of the tests. -/
theorem AllRejected.accepted_runs {cands tried : List Patch} (h : AllRejected cands tried s s') :
    s'.acceptedRuns = s.acceptedRuns := by
  obtain ⟨new, hruns, hnone, _⟩ := h.runs
  have hnew : new.filterMap acceptance? = [] := List.filterMap_eq_nil_iff.mpr hnone
  simp [acceptedRuns, hruns, hnew]

/-- An accepted candidate that is tested has one accepting run. -/
theorem Accepts.accepted_runs {p : Patch} {o : Outcome} (h : Accepts config c p o s s')
    (htested : Validate.runsTests config c.host = true) :
    s'.acceptedRuns = s.acceptedRuns ++ [(s'.files, o)] := by
  obtain ⟨reply, haccepts, hruns⟩ := (if_pos htested ▸ h.runs :)
  simp [acceptedRuns, hruns, haccepts]

/-- A result with an applied patch accounts for the files after that patch. -/
theorem Accounts.of_accepted {r : RepairResult} {p : Patch} {o : Outcome}
    (hsuccess : r.success = true) (happlied : r.appliedPatch? = some (p.withOutcome o))
    (hfiles : s₁.files = s.files) (hruns : s₁.acceptedRuns = s.acceptedRuns)
    (h : Accepts config c p o s₁ s') : Accounts config c [r] s s' := by
  have hpatched : s.files.patched? (p.withOutcome o) = some s'.files := hfiles ▸ h.files
  have hpatches : appliedPatches [r] = [p.withOutcome o] := by simp [appliedPatches, happlied]
  refine ⟨by simp [hsuccess, happlied], by simp [hpatches, hpatched], fun htested => ?_⟩
  refine ⟨[(s'.files, o)], by rw [h.accepted_runs htested, hruns], ?_⟩
  rw [hpatches]
  exact .cons hpatched rfl .nil

/-- The result of a run over a pool accounts for what the run did. A run that fails did nothing. -/
theorem Loop.run_accounts {locked : Set String} (hlocks : c.Locks locked) (config : RepairConfig)
    (fault : Fault) (codeContext : String) (memory : Memory) {pool : List Patch}
    (hpool : ∀ p ∈ pool, p.validated = false) (s : Site E) :
    ∃ memory' result s',
      run ⟨config, c.host, fault, codeContext⟩ memory pool s = ((memory', result), s') ∧
      Accounts config c result.toOption.toList s s' := by
  obtain ⟨refined, memory', result, s', hrun, _, hsuccess, hends⟩ :=
    run_tried hlocks config fault codeContext memory hpool s
  refine ⟨memory', result, s', hrun, ?_⟩
  generalize hended : result.map (·.verdict) = ended at hends
  rcases hends with htried | ⟨_, rfl, hkeeps⟩
  · generalize pool ++ refined = cands at htried
    cases htried with
    | raised hall =>
        obtain rfl := map_eq_error hended
        exact .of_unchanged (by simp [Except.toOption]) hall.files hall.accepted_runs
    | exhausted hall =>
        obtain ⟨r, rfl, heq⟩ := map_eq_ok hended
        obtain ⟨_, happlied⟩ := Prod.mk.inj heq
        refine .of_unchanged ?_ hall.files hall.accepted_runs
        simp [Except.toOption, hsuccess r rfl, happlied]
    | accepted hall _ haccepts =>
        obtain ⟨r, rfl, heq⟩ := map_eq_ok hended
        obtain ⟨hpatches, happlied⟩ := Prod.mk.inj heq
        exact .of_accepted (by simp [hsuccess r rfl, happlied])
          (applied_patch_eq_some hpatches happlied) hall.files hall.accepted_runs haccepts
  · obtain ⟨r, rfl, heq⟩ := map_eq_ok hended
    obtain ⟨_, happlied⟩ := Prod.mk.inj heq
    refine .of_unchanged ?_ hkeeps.files hkeeps.accepted_runs
    simp [Except.toOption, hsuccess r rfl, happlied]

end Mender
