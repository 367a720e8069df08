import Mender.Proofs.Diagnostic.Reference
import Mender.Proofs.Host.Record
import Mender.Proofs.Host.Site
import Mender.Proofs.Repair.Course
import Mender.Proofs.Session.Course
import Mender.Session.Engine

/-!
# One result for each fault

A session has one result for each of its faults, in their order, and the parts of each result agree,
whichever of the collaborators fail and whenever the session is asked to stop. The faults that are
left then have their results without anything being asked of a collaborator
(`Engine.repair_gives_result_per_fault`).
-/

namespace Mender

/-- The parts of a result agree: it is a success exactly if it has an applied patch, and that is one
of its candidates, which was validated and accepted; otherwise there is a reason. -/
structure RepairResult.Consistent (r : RepairResult) : Prop where
  state : r.success = true ↔ r.state = .success
  applied : r.success = true ↔ ∃ p, r.appliedPatch? = some p
  reason : r.success = true ↔ r.reason = none
  failed : r.success = false → r.state = .exhausted
  accepted : ∀ p, r.appliedPatch? = some p →
    p ∈ r.patches ∧ p.validated = true ∧ ∃ o, p.results = some o ∧ o.accepted = true

namespace Loop

variable {σ : Type} {setting : Setting (StateM σ)}

theorem consistent_of_none {ended : RunEnd} (hnone : ended.accepted = none) (fault : Fault)
    (duration : Float) : (resultOf fault ended duration).Consistent := by
  refine ⟨?_, ?_, ?_, fun _ => ?_, fun p hp => ?_⟩
  all_goals simp_all [resultOf, RepairResult.appliedPatch?]

/-- The parts of the result of a run agree. -/
theorem run_consistent {memory : Memory} {pool : List Patch}
    (hpool : ∀ p ∈ pool, p.validated = false) {s : σ} {r : RepairResult}
    (h : (run setting memory pool s).1.2 = .ok r) : r.fault = setting.fault ∧ r.Consistent := by
  obtain ⟨memory', ended, s₁, hends, ⟨f, _, hrun⟩ | ⟨last, duration, _, rfl, _, hrun⟩⟩ :=
    run_cases setting memory hpool s <;> rw [hrun] at h <;> cases h
  refine ⟨rfl, ?_⟩
  rcases hends with ⟨_, _, refined, hends⟩ | ⟨_, _, heq, _⟩
  · cases hends with
    | last | settled => exact consistent_of_none rfl _ _
    | @accepted _ tried _ rest p o _ _ _ _ _ haccepted =>
        have happlied : (resultOf setting.fault ⟨tried ++ p.withOutcome o :: rest,
            some tried.length, tried.length + 1, refined.length + 1⟩ duration).appliedPatch? =
              some (p.withOutcome o) := by
          simp [resultOf, RepairResult.appliedPatch?]
        refine ⟨by simp [resultOf], ⟨fun _ => ⟨_, happlied⟩, fun _ => rfl⟩, by simp [resultOf],
          by simp [resultOf], fun q hq => ?_⟩
        rw [happlied] at hq
        cases hq
        exact ⟨by simp [resultOf], rfl, o, rfl, haccepted⟩
  · cases heq
    exact consistent_of_none rfl _ _

end Loop

namespace Session

/-- A result for a failure is consistent. -/
theorem failed_result_consistent (f : Fault) (reason : String) :
    (failedResult f reason).Consistent := by
  refine ⟨?_, ?_, ?_, fun _ => rfl, fun p hp => ?_⟩
  all_goals simp_all [failedResult, RepairResult.appliedPatch?]

section Repairs

variable {σ : Type} (setting : Setting (StateM σ))

/-- The result of a fault is for that fault, and its parts agree. -/
theorem repair_fault_consistent (memory : Memory) (f : Fault) (s : σ) :
    (repairFault setting memory f s).1.2.fault = f ∧
      (repairFault setting memory f s).1.2.Consistent := by
  rw [repairFault, run_bind, run_bind]
  generalize (setting.host.notify (.faultStart f) s).2 = s₁
  rcases hattempt : attempt setting memory f s₁ with ⟨⟨memory', e | r⟩, s₂⟩
  · exact ⟨rfl, failed_result_consistent f e.described⟩
  show r.fault = f ∧ r.Consistent
  rw [attempt, run_bind] at hattempt
  rcases hcode : codeContext setting f s₁ with ⟨e | context, s₃⟩ <;> rw [hcode] at hattempt
  · cases hattempt
  let task : Generate.Task :=
    { fault := f, codeContext := context, hint := setting.hint
      learned := learned? setting memory f }
  have hreads : setting.host.Reads Anyhow := fun _ _ _ => .anyhow _
  have hasks : setting.host.Asks Anyhow := fun _ _ _ => .anyhow _
  have hmade := (Generate.candidates_yields hreads hasks setting.config memory.registry task s₃).2
  simp only [run_bind] at hattempt
  rcases hpool : Generate.candidates setting.config setting.host memory.registry task s₃ with
    ⟨e | pool, s₄⟩ <;> rw [hpool] at hmade hattempt
  · cases hattempt
  · exact Loop.run_consistent (hmade pool rfl) (congrArg (·.1.2) hattempt)

variable {setting} {total number : Nat} {memory memory' : Memory} {faults : List Fault}
  {results : List RepairResult} {s s' : σ}

/-- Each fault that is worked on has a result for it, whose parts agree. -/
theorem Worked.results_fault (h : Worked setting total number memory s faults results memory' s') :
    results.map (·.fault) = faults ∧ ∀ r ∈ results, r.Consistent := by
  induction h with
  | nil => exact ⟨rfl, by simp⟩
  | @cons number memory _ _ f _ _ _ _ s₁ _ _ _ hworks _ ih =>
      obtain ⟨hfault, hconsistent⟩ := repair_fault_consistent setting memory f
        (setting.host.notify (.progress s!"Repairing fault {number + 1}/{total}..."
          (shareAt number total)) s₁).2
      rw [work, run_bind] at hworks
      rw [hworks] at hfault hconsistent
      exact ⟨List.cons_eq_cons.mpr ⟨hfault, ih.1⟩, List.forall_mem_cons.mpr ⟨hconsistent, ih.2⟩⟩

end Repairs

end Session

/-- Once faults are localized, or else the output names a file with a line, a session has one
consistent result for each of its faults, in their order. The faults that are left because it was
asked to stop come last, and after the last repair nothing is asked of a collaborator: listeners are
told that the session ends, and that is all. -/
theorem Engine.repair_gives_result_per_fault {σ : Type} (host : Host (StateM σ)) (e : Engine)
    (output : String) (hint : Option String) (coverage : Option Coverage) (s : Recorded σ) :
    match localize e.localization host.recorded output coverage
      (Session.beginning host.recorded s).2 with
    | (.error f, s₁) => Engine.repair host.recorded e output hint coverage s = ((e, .error f), s₁)
    | (.ok found, s₁) =>
      match Session.faultsToRepair output found.faults with
      | .error f => found.faults = [] ∧
        (Engine.repair host.recorded e output hint coverage s).1 = (e, .error f)
      | .ok faults => ∃ e' results s',
        Engine.repair host.recorded e output hint coverage s = ((e', .ok results), s') ∧
        results.map (·.fault) = faults ∧ (∀ r ∈ results, r.Consistent) ∧
        ∃ done left worked memory' s₂ s₃, faults = done ++ left ∧
          results = worked ++ left.map (Session.failedResult · Reason.cancelled) ∧
          Session.Worked ⟨e.config, host.recorded, hint⟩ faults.length 0 e.memory
            (host.recorded.notify (.localization found.faults) s₁).2 done worked memory' s₂ ∧
          Session.Leaves ⟨e.config, host.recorded, hint⟩ left s₂ s₃ ∧
          s'.calls = s₂.calls ++ [.told (.sessionEnd results (!left.isEmpty))] := by
  obtain ⟨memory', result, s', hrun, hends⟩ := Session.run_runs_to
    ⟨e.config, host.recorded, hint⟩ e.localization e.memory output coverage s
  cases hends with
  | unlocalized hlocal =>
      rw [hlocal]
      dsimp only
      rw [Engine.repair, run_bind, hrun]
      rfl
  | @unnamed found f _ hlocal hfaults =>
      rw [hlocal]
      dsimp only
      rw [hfaults]
      refine ⟨?_, ?_⟩
      · -- the text is searched for a place only when no fault was found
        cases hfound : found.faults with
        | nil => rfl
        | cons fault faults =>
            rw [hfound] at hfaults
            cases hfaults
      · rw [Engine.repair, run_bind, hrun]
        rfl
  | @ended found done left worked _ s₁ s₂ s₃ hlocal hfaults hworked hleaves =>
      rw [hlocal]
      dsimp only
      rw [hfaults]
      obtain ⟨hresults, hconsistent⟩ := hworked.results_fault
      refine ⟨_, _, _, by rw [Engine.repair, run_bind, hrun]; rfl, ?_, ?_, done, left, worked, _,
        s₂, s₃, rfl, rfl, hworked, hleaves, ?_⟩
      · rw [List.map_append, hresults, List.map_map]
        exact congrArg (done ++ ·) (List.map_id _)
      · intro r hr
        rcases List.mem_append.mp hr with hr | hr
        · exact hconsistent r hr
        · obtain ⟨f, _, rfl⟩ := List.mem_map.mp hr
          exact Session.failed_result_consistent f _
      · -- to ask whether to stop is not written down
        have hquiet : s₃.calls = s₂.calls := by
          obtain ⟨_, rfl⟩ | ⟨_, hstop⟩ := hleaves
          · rfl
          · exact (congrArg (·.2.calls) hstop).symm
        exact congrArg (· ++ _) hquiet

/-- An engine that localizes faults by their coverage alone. -/
def Engine.undiagnosing : Engine :=
  .create { localization := { useStackTrace := false, useStaticAnalysis := false } } none none

/-- Without coverage such an engine finds nothing, whatever the output. -/
theorem Engine.undiagnosing_finds_nothing {σ : Type} (host : Host (StateM σ)) (output : String)
    (s : σ) : localize undiagnosing.localization host output none s = (.ok ⟨[], []⟩, s) := by
  have hrank : Localization.rank undiagnosing.localization [] [] = [] := List.mergeSort_nil
  have hfound : Localization.found undiagnosing.localization output none =
      .ok ⟨before 20 (Localization.rank undiagnosing.localization [] []), []⟩ := rfl
  rw [localize, hfound, hrank]
  rfl

/-- So its sessions fail when the output names a line that cannot be read. -/
theorem Engine.undiagnosing_fails {σ : Type} (host : Host (StateM σ)) {output : String}
    {f : Failure} (hnamed : Diagnostic.referenceOf? output = .error f) (s : σ) :
    ∃ s', Engine.repair host undiagnosing output none none s = ((undiagnosing, .error f), s') := by
  have hlocal := undiagnosing_finds_nothing host output (Session.beginning host s).2
  have hfaults : Session.faultsToRepair output [] = .error f := by
    rw [Session.faultsToRepair, hnamed]
    rfl
  obtain ⟨memory', result, s', hrun, hends⟩ := Session.run_runs_to
    ⟨undiagnosing.config, host, none⟩ undiagnosing.localization undiagnosing.memory output none s
  cases hends with
  | unlocalized hfailed => cases hlocal.symm.trans hfailed
  | unnamed hfound hunnamed =>
      cases hlocal.symm.trans hfound
      cases hfaults.symm.trans hunnamed
      exact ⟨_, by rw [Engine.repair, run_bind, hrun]; rfl⟩
  | ended hfound hgiven =>
      cases hlocal.symm.trans hfound
      cases hfaults.symm.trans hgiven

/-- A session fails after it localized nothing when the output names a line by digits that are too
many for a number. -/
theorem Engine.repair_fails_at_long_number :
    ∃ s₁ f s',
      localize undiagnosing.localization
        (Crew.steady (fun _ _ => none) (.value { success := true })).host.recorded
        (Diagnostic.referenceTo (List.replicate 4301 '1')) none
        (Session.beginning
          (Crew.steady (fun _ _ => none) (.value { success := true })).host.recorded
          ⟨.single "a.py" "x = 1\n", []⟩).2 = (.ok ⟨[], []⟩, s₁) ∧
      Engine.repair (Crew.steady (fun _ _ => none) (.value { success := true })).host.recorded
        undiagnosing (Diagnostic.referenceTo (List.replicate 4301 '1')) none none
        ⟨.single "a.py" "x = 1\n", []⟩ = ((undiagnosing, .error f), s') := by
  have hdigits : ∀ d ∈ List.replicate 4301 '1', Text.isDecimal d = true := by
    intro d hd
    rw [List.eq_of_mem_replicate hd]
    decide
  have hsome : List.replicate 4301 '1' ≠ [] := by
    rw [Ne, List.replicate_eq_nil_iff]
    decide
  have hlong : Integer.maxDigits < (List.replicate 4301 '1').length := by
    rw [List.length_replicate]
    decide
  obtain ⟨f, hnamed⟩ := (Diagnostic.reference_fails_iff_long hdigits hsome).mpr hlong
  obtain ⟨s', hrun⟩ := undiagnosing_fails
    (Crew.steady (fun _ _ => none) (.value { success := true })).host.recorded hnamed
    ⟨.single "a.py" "x = 1\n", []⟩
  exact ⟨_, f, s', undiagnosing_finds_nothing _ _ _, hrun⟩

end Mender
