import Mender.Proofs.Repair.Hearing
import Mender.Proofs.Session.Integrity
import Mender.Proofs.Session.Results

/-!
# The grammar of a session's events

A session tells its listeners that it begins and what it localized, then of the repair of each fault
that it works on, and at last that it ends (`Engine.repair_events_follow_grammar`). The repair of a
fault is heard as one of the two rules of `Session.RepairHeard` says, so its result is told exactly
once, whatever fails on the way.
-/

namespace Mender

namespace Session

variable {σ : Type}

/-- What is done for a fault before its candidates are validated: the source text around it is
read, and the candidates are made. -/
def prepared {m : Type → Type} [Monad m] (setting : Setting m) (memory : Memory) (f : Fault) :
    m (Except Failure (String × List Patch)) := do
  match ← codeContext setting f with
  | .error e => return .error e
  | .ok codeContext =>
    let task : Generate.Task :=
      { fault := f, codeContext, hint := setting.hint, learned := learned? setting memory f }
    return (← Generate.candidates setting.config setting.host memory.registry task).map
      (codeContext, ·)

/-- What is heard of the repair of a fault that begins in a state, from its result. -/
inductive RepairHeard (setting : Setting (StateM σ)) (memory : Memory) (f : Fault) (s : σ) :
    RepairResult → List Host.Call → Prop
  | unprepared {e s₁} :
      prepared setting memory f (setting.host.notify (.faultStart f) s).2 = (.error e, s₁) →
      RepairHeard setting memory f s (failedResult f e.described)
        [.told (.faultStart f), .told (.failure (failedResult f e.described))]
  | closed {context pool s₁ s₂ r calls} :
      prepared setting memory f (setting.host.notify (.faultStart f) s).2 =
        (.ok (context, pool), s₁) →
      Loop.Hearings ⟨setting.config, setting.host, f, context⟩ (setting.host.clock s₁).2 calls s₂ →
      r.fault = f →
      RepairHeard setting memory f s r (.told (.faultStart f) :: calls ++ [.told r.closing])
  /-- The validation of a candidate failed, and with it the repair. -/
  | unvalidated {context pool s₁ s₂ s₃ calls round p e tests} :
      prepared setting memory f (setting.host.notify (.faultStart f) s).2 =
        (.ok (context, pool), s₁) →
      Loop.Hearings ⟨setting.config, setting.host, f, context⟩ (setting.host.clock s₁).2 calls s₂ →
      Loop.Raises ⟨setting.config, setting.host, f, context⟩ round p e s₂ s₃ →
      tests = [] ∨ tests = [.tests] →
      RepairHeard setting memory f s (failedResult f e.described)
        (.told (.faultStart f) :: (calls ++ .told (.candidate p round) :: tests) ++
          [.told (.failure (failedResult f e.described))])

/-- What is heard of faults that are repaired one after another, from their results. -/
inductive WorkHeard (setting : Setting (StateM σ)) (total : Nat) :
    Nat → Memory → σ → List Fault → List RepairResult → List Host.Call → σ → Prop
  | nil {number memory s} : WorkHeard setting total number memory s [] [] [] s
  | cons {number memory memory' f fs r rs calls others s s₁ s₂ s'} :
      setting.host.stopAsked s = (false, s₁) →
      work setting total number memory f s₁ = ((memory', r), s₂) →
      RepairHeard setting memory f (setting.host.notify
        (.progress s!"Repairing fault {number + 1}/{total}..." (shareAt number total)) s₁).2 r
        calls →
      WorkHeard setting total (number + 1) memory' s₂ fs rs others s' →
      WorkHeard setting total number memory s (f :: fs) (r :: rs)
        (.told (.progress s!"Repairing fault {number + 1}/{total}..." (shareAt number total)) ::
          calls ++ others) s'

/-- What a session tells before it localizes faults. -/
def opening : List Host.Call :=
  [.told .sessionStart, .told (.progress "Localizing faults..." 0.1)]

section Work

variable {host : Host (StateM σ)} {config : RepairConfig} {hint : Option String}
  {memory memory' : Memory} {total number : Nat}

/-- An attempt is a run over the candidates that were prepared. -/
theorem attempt_eq_run (setting : Setting (StateM σ)) (memory : Memory) (f : Fault) (s : σ) :
    attempt setting memory f s =
      match prepared setting memory f s with
      | (.error e, s₁) => ((memory, .error e), s₁)
      | (.ok (context, pool), s₁) =>
        Loop.run ⟨setting.config, setting.host, f, context⟩ memory pool s₁ := by
  rw [attempt, prepared, run_bind, run_bind]
  rcases codeContext setting f s with ⟨e | context, s₁⟩
  · rfl
  simp only [run_bind]
  rcases Generate.candidates setting.config setting.host memory.registry _ s₁ with
    ⟨e | pool, s₂⟩ <;> rfl

/-- Nothing is heard while candidates are prepared, and they are new. -/
theorem prepared_heard {answer : Except Failure (String × List Patch)} {f : Fault}
    {s s' : Recorded σ}
    (h : prepared ⟨config, host.recorded, hint⟩ memory f s = (answer, s')) :
    Hears [] s s' ∧ ∀ made, answer = .ok made → ∀ p ∈ made.2, p.validated = false := by
  have hcontext := code_context_keeps host.reads_hear config hint f s
  rw [prepared, run_bind] at h
  rcases hcode : codeContext ⟨config, host.recorded, hint⟩ f s with ⟨e | context, s₁⟩ <;>
    rw [hcode] at h hcontext
  · cases h
    exact ⟨hcontext, by simp⟩
  let task : Generate.Task :=
    { fault := f, codeContext := context, hint
      learned := learned? ⟨config, host.recorded, hint⟩ memory f }
  have hmade := Generate.candidates_yields host.reads_hear host.asks_hear config memory.registry
    task s₁
  simp only [run_bind] at h
  rcases hpool : Generate.candidates config host.recorded memory.registry task s₁ with
    ⟨e | pool, s₂⟩ <;> rw [hpool] at h hmade <;> cases h
  · exact ⟨hcontext.trans hmade.1, by simp [Except.map]⟩
  · refine ⟨hcontext.trans hmade.1, ?_⟩
    rintro _ ⟨⟩
    exact hmade.2 pool rfl

theorem repair_fault_heard (host : Host (StateM σ)) (config : RepairConfig) (hint : Option String)
    (memory : Memory) (f : Fault) (s : Recorded σ) :
    ∃ memory' r s' calls,
      repairFault ⟨config, host.recorded, hint⟩ memory f s = ((memory', r), s') ∧
      RepairHeard ⟨config, host.recorded, hint⟩ memory f s r calls ∧ Hears calls s s' := by
  have hstart := host.tells_hear (.faultStart f) s
  -- a failure is a result too, which is told here and not by the run
  have hfails (e : Failure) (s₁ : Recorded σ) :=
    host.tells_hear (.failure (failedResult f e.described)) s₁
  rw [repairFault, run_bind, run_bind, attempt_eq_run]
  rcases hprepared : prepared ⟨config, host.recorded, hint⟩ memory f
    (host.recorded.notify (.faultStart f) s).2 with ⟨e | ⟨context, pool⟩, s₁⟩
  · obtain ⟨hquiet, _⟩ := prepared_heard hprepared
    exact ⟨memory, _, _, _, rfl, .unprepared hprepared, (hstart.after hquiet).trans (hfails e s₁)⟩
  obtain ⟨hquiet, hnew⟩ := prepared_heard hprepared
  obtain ⟨memory', answer, s₂, s', calls, hrun, hheard, hcalls⟩ :=
    Loop.run_heard host config f context memory (hnew _ rfl) s₁
  dsimp only
  rw [hrun]
  cases answer with
  | ok r =>
      cases hheard with
      | hearings hheard =>
          exact ⟨memory', r, s', _, rfl, .closed hprepared hheard hcalls.1,
            (hstart.after hquiet).trans hcalls.2⟩
  | error e =>
      have hends := ((hstart.after hquiet).trans hcalls).trans (hfails e s')
      cases hheard with
      | hearings hheard =>
          exact ⟨memory', _, _, _, rfl, .closed hprepared hheard rfl, hends⟩
      | unvalidated hheard hraises htests =>
          exact ⟨memory', _, _, _, rfl, .unvalidated hprepared hheard hraises htests, hends⟩

theorem work_heard {f : Fault} {r : RepairResult} {s s' : Recorded σ}
    (h : work ⟨config, host.recorded, hint⟩ total number memory f s = ((memory', r), s')) :
    ∃ calls, RepairHeard ⟨config, host.recorded, hint⟩ memory f (host.recorded.notify
        (.progress s!"Repairing fault {number + 1}/{total}..." (shareAt number total)) s).2 r
        calls ∧
      Hears (.told (.progress s!"Repairing fault {number + 1}/{total}..." (shareAt number total)) ::
        calls) s s' := by
  have htold := host.tells_hear
    (.progress s!"Repairing fault {number + 1}/{total}..." (shareAt number total)) s
  obtain ⟨_, _, _, calls, hrun, hheard, hcalls⟩ := repair_fault_heard host config hint memory f
    (host.recorded.notify
      (.progress s!"Repairing fault {number + 1}/{total}..." (shareAt number total)) s).2
  rw [work, run_bind, hrun] at h
  cases h
  exact ⟨calls, hheard, htold.trans hcalls⟩

theorem Worked.heard {faults : List Fault} {results : List RepairResult} {s s' : Recorded σ}
    (h : Worked ⟨config, host.recorded, hint⟩ total number memory s faults results memory' s') :
    ∃ calls, WorkHeard ⟨config, host.recorded, hint⟩ total number memory s faults results calls
        s' ∧
      Hears calls s s' := by
  induction h with
  | nil => exact ⟨[], .nil, refl_of (Hears []) _⟩
  | @cons _ _ _ _ _ _ _ _ s s₁ _ _ hgoes hworks _ ih =>
      obtain ⟨others, hothers, hrest⟩ := ih
      obtain ⟨calls, hheard, hcalls⟩ := work_heard hworks
      have hasked : Hears [] s (host.recorded.stopAsked s).2 :=
        Hears.unrecorded_keeps host.stopAsked s
      rw [hgoes] at hasked
      exact ⟨_, .cons hgoes hworks hheard hothers, hasked.before (hcalls.trans hrest)⟩

theorem Leaves.heard {left : List Fault} {s s' : Recorded σ}
    (h : Leaves ⟨config, host.recorded, hint⟩ left s s') : Hears [] s s' := by
  obtain ⟨_, rfl⟩ | ⟨_, hstop⟩ := h
  · exact refl_of (Hears []) s'
  · have hasked : Hears [] s (host.recorded.stopAsked s).2 :=
      Hears.unrecorded_keeps host.stopAsked s
    rwa [hstop] at hasked

theorem beginning_heard (host : Host (StateM σ)) (s : Recorded σ) :
    Hears opening s (beginning host.recorded s).2 := by
  have hforgets : Hears [] s (host.recorded.forgetStop s).2 :=
    Hears.unrecorded_keeps host.forgetStop s
  exact hforgets.before ((host.tells_hear .sessionStart _).trans
    (host.tells_hear (.progress "Localizing faults..." 0.1) _))

/-- What is heard of a session by the time that it knows its faults. -/
theorem localization_heard {localization : LocalizationConfig} {output : String}
    {coverage : Option Coverage} {found : Localization.Found} {s s₁ : Recorded σ}
    (h : localize localization host.recorded output coverage (beginning host.recorded s).2 =
      (.ok found, s₁)) :
    Hears (opening ++ [.told (.localization found.faults)]) s
      (host.recorded.notify (.localization found.faults) s₁).2 := by
  have hlocalizes := (beginning_heard host s).after
    (localize_keeps host.reads_hear localization output coverage _)
  rw [h] at hlocalizes
  exact hlocalizes.trans (host.tells_hear _ s₁)

end Work

end Session

/-- What is heard of a repair. It begins in the same way each time, and when localization returns,
the faults are told; if there is none and the output names a file with a line that is no number, the
repair fails and nothing more is heard. Otherwise the faults are worked on one by one, up to the one
before which the session was asked to stop, if it was; the repair of each is heard as
`Session.RepairHeard` says, nothing is heard of those that are left, and the end of the session is
told last. -/
theorem Engine.repair_events_follow_grammar {σ : Type} (host : Host (StateM σ)) (e : Engine)
    (output : String) (hint : Option String) (coverage : Option Coverage) (s : Recorded σ) :
    match localize e.localization host.recorded output coverage
      (Session.beginning host.recorded s).2 with
    | (.error f, s₁) =>
        Engine.repair host.recorded e output hint coverage s = ((e, .error f), s₁) ∧
          Hears Session.opening s s₁
    | (.ok found, s₁) =>
      let told := (host.recorded.notify (.localization found.faults) s₁).2
      match Session.faultsToRepair output found.faults with
      | .error f => found.faults = [] ∧
        Engine.repair host.recorded e output hint coverage s = ((e, .error f), told) ∧
        Hears (Session.opening ++ [.told (.localization [])]) s told
      | .ok faults => ∃ e' results done left worked calls s₂ s₃ s',
        Engine.repair host.recorded e output hint coverage s = ((e', .ok results), s') ∧
        faults = done ++ left ∧
        results = worked ++ left.map (Session.failedResult · Reason.cancelled) ∧
        Session.WorkHeard ⟨e.config, host.recorded, hint⟩ faults.length 0 e.memory told done worked
          calls s₂ ∧
        Session.Leaves ⟨e.config, host.recorded, hint⟩ left s₂ s₃ ∧
        s' = (host.recorded.notify (.sessionEnd results (!left.isEmpty)) s₃).2 ∧
        Hears (Session.opening ++ .told (.localization found.faults) :: calls ++
          [.told (.sessionEnd results (!left.isEmpty))]) s s' := by
  obtain ⟨memory', result, s', hrun, hends⟩ := Session.run_runs_to
    ⟨e.config, host.recorded, hint⟩ e.localization e.memory output coverage s
  cases hends with
  | @unlocalized f s₁ hlocal =>
      have hlocalizes := (Session.beginning_heard host s).after
        (localize_keeps host.reads_hear e.localization output coverage _)
      dsimp only at hlocal
      rw [hlocal] at hlocalizes ⊢
      refine ⟨?_, hlocalizes⟩
      rw [Engine.repair, run_bind, hrun]
      rfl
  | @unnamed found f s₁ hlocal hfaults =>
      have hheard := Session.localization_heard hlocal
      dsimp only at hlocal
      rw [hlocal]
      dsimp only
      rw [hfaults]
      obtain ⟨faults, statements⟩ := found
      cases faults with
      | cons fault faults => cases hfaults
      | nil =>
          refine ⟨rfl, ?_, hheard⟩
          rw [Engine.repair, run_bind, hrun]
          rfl
  | @ended found done left worked _ s₁ s₂ s₃ hlocal hfaults hworked hleaves =>
      have hbefore := Session.localization_heard hlocal
      obtain ⟨calls, hheard, hcalls⟩ := hworked.heard
      dsimp only at hlocal
      rw [hlocal]
      dsimp only
      rw [hfaults]
      refine ⟨_, _, done, left, worked, calls, s₂, s₃, _,
        by rw [Engine.repair, run_bind, hrun]; rfl, rfl, rfl, hheard, hleaves, rfl, ?_⟩
      -- what was heard up to the faults, at the work on them, and at the question whether to stop
      have hworks := (hbefore.trans hcalls).after hleaves.heard
      simpa using hworks.trans (host.tells_hear _ s₃)

/-- An engine without diagnostics tells no end of a session when the output names a line that cannot
be read. -/
theorem Engine.undiagnosing_heard {σ : Type} (host : Host (StateM σ)) {output : String}
    {f : Failure} (hnamed : Diagnostic.referenceOf? output = .error f) (s : Recorded σ) :
    ∃ s', Engine.repair host.recorded undiagnosing output none none s =
        ((undiagnosing, .error f), s') ∧
      Hears (Session.opening ++ [.told (.localization [])]) s s' := by
  have hlocal := undiagnosing_finds_nothing host.recorded output
    (Session.beginning host.recorded s).2
  have hfaults : Session.faultsToRepair output [] = .error f := by
    rw [Session.faultsToRepair, hnamed]
    rfl
  obtain ⟨memory', result, s', hrun, hends⟩ := Session.run_runs_to
    ⟨undiagnosing.config, host.recorded, none⟩ undiagnosing.localization undiagnosing.memory output
    none s
  cases hends with
  | unlocalized hfailed => cases hlocal.symm.trans hfailed
  | unnamed hfound hunnamed =>
      cases hlocal.symm.trans hfound
      cases hfaults.symm.trans hunnamed
      exact ⟨_, by rw [Engine.repair, run_bind, hrun]; rfl, Session.localization_heard hlocal⟩
  | ended hfound hgiven =>
      cases hlocal.symm.trans hfound
      cases hfaults.symm.trans hgiven

/-- The name of the event that a call tells. -/
def Host.Call.toldName? : Host.Call → Option String
  | .told event => some event.name
  | _ => none

/-- Two sessions of which listeners hear less. When the output names a line by digits that are too
many for a number, a session whose localization returned does not end. When the writer fails to put
a file back, and fails as a patch does, no rollback is told of a candidate that was tested and
rejected. -/
theorem Engine.repair_tells_less_of_failures :
    let accepting := (Crew.steady (fun _ _ => none) (.value { success := true })).host
    let failing := fun _ written => if written = 1 then some ⟨.patch, "stuck"⟩ else none
    let stuck := (Crew.steady failing (.value { success := false })).host
    let output := Diagnostic.referenceTo (List.replicate 4301 '1')
    let start : Recorded (Site Unit) := ⟨.single "a.py" "x = 1\n", []⟩
    let ended := Loop.run ⟨{ maxIterations := 1 }, stuck.recorded, .ofFirstLine "a.py", ""⟩
      ⟨⟨[], []⟩, {}⟩ [.ofFirstLine "a.py" "x = 2"] start
    (∃ s₁ f s',
      localize undiagnosing.localization accepting.recorded output none
        (Session.beginning accepting.recorded start).2 = (.ok ⟨[], []⟩, s₁) ∧
      Engine.repair accepting.recorded undiagnosing output none none start =
        ((undiagnosing, .error f), s') ∧
      s'.heard = [.told .sessionStart, .told (.progress "Localizing faults..." 0.1),
        .told (.localization [])]) ∧
    ended.2.runs = 1 ∧ ended.1.2.toOption.map (·.success) = some false ∧
      ended.2.calls.filterMap Host.Call.toldName? = ["candidate", "validation", "failure"] := by
  intro accepting failing stuck output start ended
  refine ⟨?_, by decide +kernel⟩
  have hdigits : ∀ d ∈ List.replicate 4301 '1', Text.isDecimal d = true := fun d hd => by
    rw [List.eq_of_mem_replicate hd]
    decide
  have hlong : Integer.maxDigits < (List.replicate 4301 '1').length := by
    rw [List.length_replicate]
    decide
  have hsome : List.replicate 4301 '1' ≠ [] := List.ne_nil_of_length_pos (by omega)
  obtain ⟨f, hnamed⟩ := (Diagnostic.reference_fails_iff_long hdigits hsome).mpr hlong
  obtain ⟨s', hrun, hheard⟩ := undiagnosing_heard accepting hnamed start
  exact ⟨_, f, s', undiagnosing_finds_nothing _ _ _, hrun, hheard⟩

end Mender
