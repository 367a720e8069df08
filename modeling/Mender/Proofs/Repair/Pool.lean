import Mender.Proofs.Repair.Course

/-!
# What the candidates of a pool have in common

A run validates the candidates of its pool and may add refined ones; it changes nothing about a
candidate but its outcome. Whatever holds of all candidates that go in, whatever their outcomes, and
of the refined ones, holds of all that come out.
-/

namespace Mender.Loop

variable {σ : Type} {setting : Setting (StateM σ)} {P : Patch → Prop}

/-- What holds of candidates whatever their outcomes holds of what becomes of them. -/
theorem forall_of_becomes (hstable : ∀ p o, P p → P (p.withOutcome o)) {cands patches : List Patch}
    (h : List.Forall₂ Patch.Becomes cands patches) (hcands : ∀ p ∈ cands, P p) :
    ∀ p ∈ patches, P p := by
  induction h with
  | nil => simp
  | cons hfirst _ ih =>
      obtain ⟨hp, hothers⟩ := List.forall_mem_cons.mp hcands
      refine List.forall_mem_cons.mpr ⟨?_, ih hothers⟩
      obtain rfl | ⟨o, rfl⟩ := hfirst
      · exact hp
      · exact hstable _ o hp

/-- The result of a run over new candidates is for the fault of the run, and what holds of its pool
and of the refined candidates holds of all candidates of the result. -/
theorem run_forall (hstable : ∀ p o, P p → P (p.withOutcome o))
    (hrefined : ∀ failed s refined,
      (Generate.refine setting.config setting.host setting.fault setting.codeContext failed s).1 =
        .ok refined → ∀ p ∈ refined, P p)
    {memory : Memory} {pool : List Patch} {s : σ} {r : RepairResult}
    (hnew : ∀ p ∈ pool, p.validated = false) (hpool : ∀ p ∈ pool, P p)
    (hended : (run setting memory pool s).1.2 = .ok r) :
    r.fault = setting.fault ∧ ∀ p ∈ r.patches, P p := by
  obtain ⟨memory', ended, s₁, hends, ⟨f, _, hrun⟩ | ⟨last, duration, _, rfl, _, hrun⟩⟩ :=
    run_cases setting memory hnew s <;> rw [hrun] at hended <;> cases hended
  refine ⟨rfl, ?_⟩
  rcases hends with ⟨_, _, refined, hends⟩ | ⟨_, _, heq, _⟩
  · obtain ⟨_, _, _, hcourse⟩ := hends.course
    refine forall_of_becomes hstable hends.becomes fun p hp => ?_
    rcases List.mem_append.mp hp with hp | hp
    · exact hpool p hp
    · exact hcourse.refined_forall (fun tried s q s' hrefine =>
        hrefined tried s [q] (congrArg (·.1) hrefine) q (by simp)) p hp
  · cases heq
    exact hpool

end Mender.Loop
