import Mender.Proofs.Host.Keeps
import Mender.Session.Basic

/-!
# The course of a session

A session localizes faults and repairs them in order until it is asked to stop. `Worked` is what
there is of a session between localization and its end: faults that were repaired one after another,
with their results. `RunsTo` says how a session ends, with a constructor for each way out, and
`run_runs_to` that each session ends so, whatever the collaborators do.
-/

namespace Mender.Session

/-- What a session does before it localizes faults. -/
def beginning {m : Type → Type} [Monad m] (host : Host m) : m Unit := do
  host.forgetStop
  host.notify .sessionStart
  host.notify (.progress "Localizing faults..." 0.1)

variable {σ : Type} (setting : Setting (StateM σ))

/-- What is done for a fault by its number: listeners are told of the progress, and the fault is
repaired. -/
def work (total number : Nat) (memory : Memory) (f : Fault) : StateM σ (Memory × RepairResult) := do
  setting.host.notify (.progress s!"Repairing fault {number + 1}/{total}..." (shareAt number total))
  repairFault setting memory f

/-- Faults that are repaired one after another, with their results. Before each of them the session
had not been asked to stop. -/
inductive Worked (total : Nat) :
    Nat → Memory → σ → List Fault → List RepairResult → Memory → σ → Prop
  | nil {number memory s} : Worked total number memory s [] [] memory s
  | cons {number memory memory₁ memory' f fs r rs s s₁ s₂ s'} :
      setting.host.stopAsked s = (false, s₁) →
      work setting total number memory f s₁ = ((memory₁, r), s₂) →
      Worked total (number + 1) memory₁ s₂ fs rs memory' s' →
      Worked total number memory s (f :: fs) (r :: rs) memory' s'

/-- How the repair of faults ends: those that are left are there because the session was asked to
stop before the first of them. -/
def Leaves (left : List Fault) (s s' : σ) : Prop :=
  (left = [] ∧ s' = s) ∨ (left ≠ [] ∧ setting.host.stopAsked s = (true, s'))

/-- Faults are repaired in order, up to the one before which the session was asked to stop. -/
theorem repair_faults_worked (total number : Nat) (memory : Memory) (faults : List Fault) (s : σ) :
    ∃ done left results memory' s₁ s', faults = done ++ left ∧
      repairFaults setting total number memory faults s = ((memory', results, left), s') ∧
      Worked setting total number memory s done results memory' s₁ ∧
      Leaves setting left s₁ s' := by
  induction faults generalizing number memory s with
  | nil => exact ⟨[], [], [], memory, s, s, rfl, rfl, .nil, .inl ⟨rfl, rfl⟩⟩
  | cons f fs ih =>
      rw [repairFaults, run_bind]
      -- whether to stop is asked before each fault, so the first answer decides about all of them
      rcases hstop : setting.host.stopAsked s with ⟨_ | _, s₁⟩
      · rcases hfirst : work setting total number memory f s₁ with ⟨⟨memory₁, r⟩, s₂⟩
        obtain ⟨done, left, results, memory', s₃, s', rfl, hothers, hworked, hends⟩ :=
          ih (number + 1) memory₁ s₂
        refine ⟨f :: done, left, r :: results, memory', s₃, s', rfl, ?_,
          .cons hstop hfirst hworked, hends⟩
        rw [work, run_bind] at hfirst
        simp only [Bool.false_eq_true, if_false, run_bind, hfirst, hothers]
        rfl
      · exact ⟨[], f :: fs, [], memory, s, s₁, rfl, rfl, .nil, .inr ⟨by simp, hstop⟩⟩

/-- How a session ends: what is remembered, its outcome, and the last state. -/
inductive RunsTo (localization : LocalizationConfig) (memory : Memory) (output : String)
    (coverage : Option Coverage) (s : σ) : Memory → Except Failure Session → σ → Prop
  | unlocalized {e s'} :
      localize localization setting.host output coverage (beginning setting.host s).2 =
        (.error e, s') →
      RunsTo localization memory output coverage s memory (.error e) s'
  /-- Nothing was localized, and the line of the file that the output names is no number. -/
  | unnamed {found e s₁} :
      localize localization setting.host output coverage (beginning setting.host s).2 =
        (.ok found, s₁) →
      faultsToRepair output found.faults = .error e →
      RunsTo localization memory output coverage s memory (.error e)
        (setting.host.notify (.localization found.faults) s₁).2
  | ended {found done left results memory' s₁ s₂ s₃} :
      localize localization setting.host output coverage (beginning setting.host s).2 =
        (.ok found, s₁) →
      faultsToRepair output found.faults = .ok (done ++ left) →
      Worked setting (done ++ left).length 0 memory
        (setting.host.notify (.localization found.faults) s₁).2 done results memory' s₂ →
      Leaves setting left s₂ s₃ →
      RunsTo localization memory output coverage s memory'
        (.ok ⟨done ++ left, results ++ left.map (failedResult · Reason.cancelled),
          .ofResults results, !left.isEmpty⟩)
        (setting.host.notify (.sessionEnd (results ++ left.map (failedResult · Reason.cancelled))
          (!left.isEmpty)) s₃).2

/-- Every session ends as `RunsTo` says. -/
theorem run_runs_to (localization : LocalizationConfig) (memory : Memory) (output : String)
    (coverage : Option Coverage) (s : σ) :
    ∃ memory' result s',
      run setting localization memory output coverage s = ((memory', result), s') ∧
      RunsTo setting localization memory output coverage s memory' result s' := by
  have hbegins : (beginning setting.host s).2 = (setting.host.notify
      (.progress "Localizing faults..." 0.1) (setting.host.notify .sessionStart
        (setting.host.forgetStop s).2).2).2 := rfl
  rw [run]
  simp only [run_bind]
  rw [← hbegins]
  rcases hlocal : localize localization setting.host output coverage
    (beginning setting.host s).2 with ⟨e | found, s₁⟩
  · exact ⟨memory, .error e, s₁, rfl, .unlocalized hlocal⟩
  cases hfaults : faultsToRepair output found.faults with
  | error e =>
      refine ⟨memory, .error e, _, ?_, .unnamed hlocal hfaults⟩
      simp only [run_bind, hfaults]
      rfl
  | ok faults =>
      obtain ⟨done, left, results, memory', s₂, s₃, rfl, hrepairs, hworked, hleaves⟩ :=
        repair_faults_worked setting faults.length 0 memory faults
          (setting.host.notify (.localization found.faults) s₁).2
      refine ⟨memory', _, _, ?_, .ended hlocal hfaults hworked hleaves⟩
      simp only [run_bind, hfaults, hrepairs]
      rfl

end Mender.Session
