import Mender.Proofs.Host.Record
import Mender.Proofs.Host.Site
import Mender.Proofs.Repair.Confinement
import Mender.Proofs.Repair.Course

/-!
# The counts of a run

A run counts its candidates, those that it validated, and its rounds. `Loop.run_counts_candidates`
relates the counts to each other and to the record of what was asked of the collaborators, whatever
these do: each candidate is validated once at most, in the order of the pool, and each round but the
first has a refined candidate of its own.
-/

namespace Mender.Loop

variable {σ : Type} {host : Host (StateM σ)} {config : RepairConfig} {fault : Fault}
  {codeContext : String} {pool cands tried refined : List Patch} {s₀ s s' : Recorded σ}

/-- A candidate that gets an outcome is told of twice, and the tests are run once at most. -/
theorem Judges.spent {round : Nat} {p : Patch} {o : Outcome}
    (h : Judges ⟨config, host.recorded, fault, codeContext⟩ round p o s s') :
    Spent [p] [p.withOutcome o] 1 0 s s' := by
  obtain ⟨_, s₁, hends, rfl⟩ := h
  have hbefore := host.recorded_tells (.candidate p round) s
  have hvalidates := Validate.candidate_keeps (Spent.surrounds σ 1 0) host.recorded_reads
    host.recorded_writes host.recorded_runs host.recorded_tells_rollback config p
    (host.recorded.notify (.candidate p round) s).2
  have hafter := host.recorded_tells (.validation (p.withOutcome o) o) s₁
  rw [hends] at hvalidates
  exact (hbefore.trans hvalidates).trans hafter

/-- A refined candidate takes one request at most. -/
theorem refinement_spent {made : Except Failure (List Patch)}
    (h : refinement ⟨config, host.recorded, fault, codeContext⟩ tried s = (made, s')) :
    Spent [] [] 0 1 s s' := by
  have hkeeps := Generate.refine_keeps (Spent.surrounds σ 0 1) host.recorded_reads
    host.recorded_asks config fault codeContext tried s
  rw [refinement] at h
  rwa [h] at hkeeps

/-- In the course of a run each candidate that was rejected was validated once, and each that was
refined took one request at most. -/
theorem Course.spent
    (h : Course ⟨config, host.recorded, fault, codeContext⟩ pool s₀ cands tried refined s) :
    Spent cands tried cands.length refined.length s₀ s := by
  induction h with
  | start => exact refl_of (Spent [] [] 0 0) s₀
  | rejected _ hjudges _ ih => exact (ih.trans hjudges.spent).mono (by simp) (by simp)
  | refined _ _ hrefine ih => simpa using ih.trans (refinement_spent hrefine)

/-- How the rounds over a pool of so many candidates ended: all candidates were validated, or those
up to the accepted one. Each round but the first had one candidate, so the place of the accepted one
tells its round. -/
def RunEnd.Tallies (ended : RunEnd) (size : Nat) : Prop :=
  match ended.accepted with
  | none => ended.tested = ended.pool.length ∧ ∀ p ∈ ended.pool, p.validated = true
  | some i => ended.tested = i + 1 ∧ (∃ p, ended.pool[i]? = some p ∧ p.accepted = true) ∧
      ended.rounds = if i < size then 1 else i - size + 2

namespace RunsTo

variable {memory memory' : Memory} {ended : RunEnd}

/-- There is one round more than refined candidates, and no more than there may be. -/
theorem rounds_eq {setting : Setting (StateM σ)} {s₀ s' : σ}
    (hrounds : 0 < setting.config.maxIterations.toNat)
    (h : RunsTo setting memory pool s₀ refined memory' (.ok ended) s') :
    ended.rounds = refined.length + 1 ∧ ended.rounds ≤ setting.config.maxIterations.toNat := by
  cases h with
  | last hcourse | settled hcourse | accepted hcourse =>
      exact ⟨rfl, hcourse.length_lt hrounds⟩

theorem tallies {setting : Setting (StateM σ)} {s₀ s' : σ}
    (h : RunsTo setting memory pool s₀ refined memory' (.ok ended) s') :
    ended.Tallies pool.length := by
  cases h with
  | last hcourse | settled hcourse =>
      exact ⟨rfl, fun q hq => Patch.validated_of_rejected (hcourse.rejected_all q hq)⟩
  | @accepted cands tried _ rest p o _ _ hcourse hall _ haccepted =>
      refine ⟨rfl, ⟨p.withOutcome o, by simp, by simp [Patch.accepted, haccepted]⟩, ?_⟩
      have hlength := hcourse.length_eq
      have hsizes := congrArg List.length hall
      simp only [List.length_append, List.length_cons] at hsizes
      dsimp only
      -- a refined candidate is the only one of its round, so nothing is left after it
      obtain rfl | hreaches := hcourse.reaches
      · rw [if_pos (by simp at hsizes; omega), List.length_nil]
      · rw [List.length_append] at hreaches
        split <;> omega

/-- At the end of the rounds each candidate was validated once at most, in the order of the pool and
of the refined candidates that joined it. -/
theorem spent (hrounds : 0 < config.maxIterations.toNat)
    (h : RunsTo ⟨config, host.recorded, fault, codeContext⟩ memory pool s₀ refined memory'
      (.ok ended) s') :
    Spent ((pool ++ refined).take ended.tested) (ended.pool.take ended.tested) ended.tested
      (config.maxIterations.toNat - 1) s₀ s' := by
  cases h with
  | last hcourse =>
      have hlt : refined.length < config.maxIterations.toNat := hcourse.length_lt hrounds
      have hlength := hcourse.length_eq
      dsimp only
      rw [List.take_length, List.take_of_length_le (Nat.le_of_eq hlength.symm)]
      exact hcourse.spent.mono (by omega) (by omega)
  | settled hcourse hless hrefine =>
      have hlt : refined.length + 1 < config.maxIterations.toNat := hless
      have hlength := hcourse.length_eq
      have hspent := hcourse.spent.trans (refinement_spent hrefine)
      rw [List.append_nil, List.append_nil] at hspent
      dsimp only
      rw [List.take_length, List.take_of_length_le (Nat.le_of_eq hlength.symm)]
      exact hspent.mono (by omega) (by omega)
  | @accepted cands tried _ rest p o _ _ hcourse hall hjudges _ =>
      have hlt : refined.length < config.maxIterations.toNat := hcourse.length_lt hrounds
      have hlength := hcourse.length_eq
      have hspent := hcourse.spent.trans hjudges.spent
      dsimp only
      rw [hall, List.append_cons cands, List.append_cons tried,
        List.take_left' (by simp [hlength]), List.take_left' (by simp)]
      exact hspent.mono (by omega) (by omega)

end RunsTo

/-- The counts of a result over a pool of so many candidates are those of its candidates and of its
rounds: when the run is exhausted every candidate was validated, and when a patch is applied those
up to it were, and its place tells the round. -/
structure Counts (config : RepairConfig) (size : Nat) (r : RepairResult) : Prop where
  generated : r.generated = r.patches.length
  refined : r.generated = size + r.iterations - 1
  rounds : 1 ≤ r.iterations ∧ r.iterations ≤ config.maxIterations
  exhausted : r.state = .exhausted →
    r.tested = r.generated ∧ ∀ p ∈ r.patches, p.validated = true
  applied : ∀ i, r.applied = some i →
    r.tested = i + 1 ∧ r.iterations = if i < size then 1 else i - size + 2
  ended : r.state = .exhausted ∧ r.applied = none ∨
    r.state = .success ∧ ∃ p, r.appliedPatch? = some p ∧ p.accepted = true

theorem RunsTo.result_counts {setting : Setting (StateM σ)} {memory memory' : Memory}
    {s₀ s' : σ} {ended : RunEnd} (hrounds : 0 < setting.config.maxIterations.toNat)
    (h : RunsTo setting memory pool s₀ refined memory' (.ok ended) s') (duration : Float) :
    Counts setting.config pool.length (resultOf setting.fault ended duration) := by
  obtain ⟨hrefined, hlast⟩ := h.rounds_eq hrounds
  have hlength := h.becomes.length_eq
  have htallies := h.tallies
  rw [List.length_append] at hlength
  unfold RunEnd.Tallies at htallies
  obtain ⟨found, _ | i, tested, count⟩ := ended <;> simp only at hrefined hlast hlength htallies
  · obtain ⟨htested, hall⟩ := htallies
    refine ⟨rfl, ?_, ⟨?_, ?_⟩, fun _ => ⟨congrArg Nat.cast htested, hall⟩, by simp [resultOf],
      .inl ⟨rfl, rfl⟩⟩ <;> simp only [resultOf] <;> omega
  · obtain ⟨htested, ⟨p, hp, haccepted⟩, hround⟩ := htallies
    refine ⟨rfl, ?_, ⟨?_, ?_⟩, by simp [resultOf], ?_, .inr ⟨rfl, p, hp, haccepted⟩⟩ <;>
      simp only [resultOf]
    · omega
    · omega
    · omega
    · rintro _ ⟨⟩
      exact ⟨congrArg Nat.cast htested, congrArg Nat.cast hround⟩

/-- The counts of a run fit each other and what was asked of the collaborators. Over a pool that was
not validated yet, each candidate is validated once at most, in the order of the pool and of the
refined candidates that join it, one for each round after the first; and the model is asked for
fewer of them than there may be rounds. -/
theorem run_counts_candidates (host : Host (StateM σ)) (config : RepairConfig)
    (hrounds : 1 ≤ config.maxIterations) (fault : Fault) (codeContext : String) (memory : Memory)
    (pool : List Patch) (hsome : pool ≠ []) (hpool : ∀ p ∈ pool, p.validated = false)
    (s : Recorded σ) :
    ∃ memory' result s',
      run ⟨config, host.recorded, fault, codeContext⟩ memory pool s = ((memory', result), s') ∧
      ∀ r, result = .ok r → Counts config pool.length r ∧ ∃ refined,
        (∀ q ∈ refined, q.source = .refinement) ∧
        List.Forall₂ Patch.Becomes (pool ++ refined) r.patches ∧
        s'.begun = s.begun ++ (pool ++ refined).take r.tested.toNat ∧
        s'.judged = s.judged ++ r.patches.take r.tested.toNat ∧
        s'.runs ≤ s.runs + r.tested ∧
        s'.requests ≤ s.requests + (config.maxIterations - 1) := by
  obtain ⟨memory', ended, s₁, hends, hrun⟩ :=
    run_cases ⟨config, host.recorded, fault, codeContext⟩ memory hpool s
  have hleft : 0 < config.maxIterations.toNat := by omega
  rcases hends with ⟨_, _, refined, hends⟩ | ⟨hnone | hnone, _⟩
  · obtain ⟨f, rfl, hrun⟩ | ⟨last, duration, event, rfl, hevent, hrun⟩ := hrun
    · exact ⟨memory', .error f, s₁, hrun, by simp⟩
    dsimp only at hrun
    refine ⟨memory', _, _, hrun, ?_⟩
    rintro _ ⟨⟩
    -- the clock and the last event add nothing to what the rounds spent
    have hspent : Spent ((pool ++ refined).take last.tested) (last.pool.take last.tested)
        last.tested (config.maxIterations.toNat - 1) s
        (host.recorded.notify event (host.recorded.clock s₁).2).2 := by
      have hstart : Spent [] [] 0 0 s (host.recorded.clock s).2 := Spent.unrecorded_keeps _ s
      have hclock : Spent [] [] 0 0 s₁ (host.recorded.clock s₁).2 := Spent.unrecorded_keeps _ s₁
      have htold : Spent [] [] 0 0 (host.recorded.clock s₁).2
          (host.recorded.notify event (host.recorded.clock s₁).2).2 := by
        obtain rfl | rfl := hevent
        · exact host.recorded_tells (.success _) _
        · exact host.recorded_tells (.failure _) _
      simpa using (hstart.trans (hends.spent hleft)).trans (hclock.trans htold)
    have hruns := hspent.runs
    have hrequests := hspent.requests
    refine ⟨hends.result_counts hleft duration, refined,
      fun q hq => (hends.refined_new q hq).2, hends.becomes, hspent.begun, hspent.judged, ?_, ?_⟩
    · simp only [resultOf]
      omega
    · omega
  · exact absurd hnone hsome
  · exact absurd hnone (by simpa using hleft)

/-- Two candidates for one line, of which a crew without a model and with willing tests takes the
first: it is the only one that is validated, in the only round. -/
theorem run_counts_two_candidates :
    let host := (Crew.steady (fun _ _ => none) (.value { success := true })).host
    let pool := [Patch.ofFirstLine "a.py" "x = 2", Patch.ofFirstLine "a.py" "x = 3"]
    1 ≤ ({} : RepairConfig).maxIterations ∧ pool ≠ [] ∧ (∀ p ∈ pool, p.validated = false) ∧
      ∃ memory' r s',
        run ⟨{}, host.recorded, .ofFirstLine "a.py", ""⟩ ⟨⟨[], []⟩, {}⟩ pool
          ⟨.single "a.py" "x = 1\n", []⟩ = ((memory', .ok r), s') ∧
        Counts {} 2 r ∧ r.generated = 2 ∧ r.tested = 1 ∧ r.iterations = 1 ∧ r.applied = some 0 ∧
        s'.runs ≤ (1 : Int) ∧ s'.requests ≤ (2 : Int) := by
  intro host pool
  have hpool : ∀ p ∈ pool, p.validated = false := by simp [pool, Patch.ofFirstLine]
  have hended : (run ⟨{}, host.recorded, .ofFirstLine "a.py", ""⟩ ⟨⟨[], []⟩, {}⟩ pool
      ⟨.single "a.py" "x = 1\n", []⟩).1.2.toOption.map
        (fun r => (r.generated, r.tested, r.iterations, r.applied)) = some (2, 1, 1, some 0) := by
    decide +kernel
  obtain ⟨memory', result, s', hrun, hcounts⟩ := run_counts_candidates host {} (by decide)
    (.ofFirstLine "a.py") "" ⟨⟨[], []⟩, {}⟩ pool (by simp [pool]) hpool
    ⟨.single "a.py" "x = 1\n", []⟩
  rw [hrun] at hended
  cases result with
  | error f => cases hended
  | ok r =>
      simp only [Except.toOption, Option.map_some, Option.some.injEq, Prod.mk.injEq] at hended
      obtain ⟨hgenerated, htested, hrounds, happlied⟩ := hended
      obtain ⟨hr, _, _, _, _, _, hruns, hrequests⟩ := hcounts r rfl
      rw [htested] at hruns
      exact ⟨by decide, by simp [pool], hpool, memory', r, s', hrun, hr, hgenerated, htested,
        hrounds, happlied, by simpa [Recorded.runs] using hruns,
        by simpa [Recorded.requests] using hrequests⟩

end Mender.Loop
