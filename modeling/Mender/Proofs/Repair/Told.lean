import Mender.Proofs.Learning.History
import Mender.Proofs.Repair.Counting

/-!
# What a run tells of its candidates

A run tells the registry of each template candidate that it validated, and the learning store of
every candidate. `Memory.Told` relates what is remembered before and after to the candidates that
were validated meanwhile; it composes, so what is said of one run is said of runs one after another.
-/

namespace Mender

/-- Counts the outcome of a candidate if a strategy made it. -/
def Registry.count (r : Registry) (p : Patch) : Registry :=
  if p.source = .template then r.record p.strategy p.accepted else r

/-- Counting outcomes registers nothing. -/
theorem Registry.count_strategies (r : Registry) (judged : List Patch) :
    (judged.foldl count r).strategies = r.strategies := by
  induction judged generalizing r with
  | nil => rfl
  | cons p judged ih =>
      rw [List.foldl_cons, ih, count]
      split <;> rfl

namespace LearningStore.Operation

/-- The fault and the candidate of a success. -/
def fix? : Operation → Option (Fault × Patch)
  | success f p _ _ => some (f, p)
  | _ => none

/-- An operation tells of the outcome of a candidate. -/
inductive TellsOf : Patch → Operation → Prop
  | success {f p failed codeContext} :
      p.accepted = true → TellsOf p (.success f p failed codeContext)
  | failure {f p} : p.accepted = false → TellsOf p (.failure f p)

end LearningStore.Operation

open LearningStore (Operation)

namespace Memory

/-- What is remembered once the outcomes of candidates were counted, and the store was told of them
by operations if learning is on. -/
def tell (learning : Bool) (memory : Memory) (judged : List Patch) (ops : List Operation) :
    Memory where
  registry := judged.foldl Registry.count memory.registry
  learning := if learning then memory.learning.run ops else memory.learning

/-- Between two memories the outcomes of candidates were told, each by an operation of its own. -/
structure Told (learning : Bool) (memory : Memory) (judged : List Patch) (ops : List Operation)
    (memory' : Memory) : Prop where
  after : memory' = memory.tell learning judged ops
  operations : List.Forall₂ Operation.TellsOf judged ops

namespace Told

variable {learning : Bool} {memory memory₁ memory' : Memory} {judged judged' : List Patch}
  {ops ops' : List Operation}

theorem nil : Told learning memory [] [] memory :=
  ⟨by cases learning <;> rfl, .nil⟩

theorem append (h : Told learning memory judged ops memory₁)
    (h' : Told learning memory₁ judged' ops' memory') :
    Told learning memory (judged ++ judged') (ops ++ ops') memory' := by
  refine ⟨?_, List.rel_append h.operations h'.operations⟩
  rw [h'.after, h.after]
  cases learning <;> simp [tell, LearningStore.run, List.foldl_append]

end Told

end Memory

section Unjudged

variable {σ : Type}

/-- No candidate was validated. -/
def Unjudged (s s' : Recorded σ) : Prop :=
  s'.judged = s.judged

instance : IsPreorder (Recorded σ) Unjudged where
  refl _ := rfl
  trans _ _ _ h h' := h'.trans h

theorem Spent.unjudged {begun : List Patch} {runs requests : Nat} {s s' : Recorded σ}
    (h : Spent begun [] runs requests s s') : Unjudged s s' :=
  h.judged.trans (List.append_nil _)

namespace Host

variable (h : Host (StateM σ))

theorem reads_unjudged : h.recorded.Reads Unjudged := fun read hread path s =>
  (h.recorded_reads read hread path s).unjudged

theorem asks_unjudged : h.recorded.Asks Unjudged := fun model hmodel request s =>
  (h.recorded_asks model hmodel request s).unjudged

theorem clock_unjudged : Keeps Unjudged h.recorded.clock := fun s =>
  (Spent.unrecorded_keeps h.clock s).unjudged

theorem stop_asked_unjudged : Keeps Unjudged h.recorded.stopAsked := fun s =>
  (Spent.unrecorded_keeps h.stopAsked s).unjudged

theorem forget_stop_unjudged : Keeps Unjudged h.recorded.forgetStop := fun s =>
  (Spent.unrecorded_keeps h.forgetStop s).unjudged

theorem tells_unjudged (event : Event) (hevent : (Call.told event).judged? = none) :
    Keeps Unjudged (h.recorded.notify event) := fun s => by
  have htold := h.recorded_tells event s
  rw [hevent] at htold
  exact htold.unjudged

end Host

end Unjudged

namespace Loop

/-- An accepted candidate is told of by a success. -/
theorem record_success_told (config : RepairConfig) (f : Fault) (codeContext : String)
    (memory : Memory) {p : Patch} (haccepted : p.accepted = true) (others : List Patch) :
    memory.Told config.learningEnabled [p]
      [.success f p (others.filter (·.validated)) codeContext]
      (recordSuccess config f codeContext memory p others) := by
  refine ⟨?_, .cons (.success haccepted) .nil⟩
  rw [recordSuccess, Memory.tell, List.foldl_cons, List.foldl_nil, Registry.count, haccepted]
  rfl

/-- Rejected candidates are told of by failures. -/
theorem remembered_told {σ : Type} (setting : Setting (StateM σ)) (memory : Memory)
    {tried : List Patch} (hrejected : ∀ p ∈ tried, p.rejected = true) :
    memory.Told setting.config.learningEnabled tried (tried.map (.failure setting.fault))
      (remembered setting memory tried) := by
  induction tried generalizing memory with
  | nil => exact .nil
  | cons p tried ih =>
      obtain ⟨hp, hothers⟩ := List.forall_mem_cons.mp hrejected
      have haccepted : p.accepted = false := by
        simp only [Patch.rejected, Bool.and_eq_true, Bool.not_eq_true'] at hp
        simp [Patch.accepted, hp.2]
      have hfirst : memory.Told setting.config.learningEnabled [p] [.failure setting.fault p]
          (recordFailure setting.config setting.fault memory p) := by
        refine ⟨?_, .cons (.failure haccepted) .nil⟩
        rw [recordFailure, Memory.tell, List.foldl_cons, List.foldl_nil, Registry.count, haccepted]
        rfl
      exact hfirst.append (ih _ hothers)

variable {σ : Type} {host : Host (StateM σ)} {config : RepairConfig} {fault : Fault}
  {codeContext : String} {pool refined : List Patch} {s₀ s s' : Recorded σ}

/-- A validation that fails is not told of. -/
theorem Raises.unjudged {round : Nat} {p : Patch} {f : Failure}
    (h : Raises ⟨config, host.recorded, fault, codeContext⟩ round p f s s') : Unjudged s s' := by
  have hbefore := host.recorded_tells (.candidate p round) s
  have hvalidates := Validate.candidate_keeps (Spent.surrounds σ 1 0) host.recorded_reads
    host.recorded_writes host.recorded_runs host.recorded_tells_rollback config p
    (host.recorded.notify (.candidate p round) s).2
  rw [h.2] at hvalidates
  exact (hbefore.trans hvalidates).unjudged

/-- The candidate that was accepted at the end of the rounds. -/
def RunEnd.acceptedPatch? (ended : RunEnd) : Option Patch :=
  ended.accepted.bind fun i => ended.pool[i]?

/-- Rounds tell of what they validated, and of a success exactly if they end with one. -/
theorem RunsTo.told {memory memory' : Memory} {ended : Except Failure RunEnd}
    (h : RunsTo ⟨config, host.recorded, fault, codeContext⟩ memory pool s₀ refined memory' ended
      s') :
    ∃ judged ops, s'.judged = s₀.judged ++ judged ∧
      memory.Told config.learningEnabled judged ops memory' ∧
      ops.filterMap Operation.fix? =
        ((ended.toOption.bind RunEnd.acceptedPatch?).map (fault, ·)).toList := by
  let setting : Setting (StateM (Recorded σ)) := ⟨config, host.recorded, fault, codeContext⟩
  have hfailures : ∀ tried : List Patch,
      (tried.map (Operation.failure fault)).filterMap Operation.fix? = [] := fun tried => by
    rw [List.filterMap_map]
    exact List.filterMap_eq_nil_iff.mpr fun _ _ => rfl
  -- at the end of every course the rejected candidates are what was told of
  have hcourse : ∀ {cands tried s}, Course setting pool s₀ cands tried refined s →
      s.judged = s₀.judged ++ tried ∧ memory.Told config.learningEnabled tried
        (tried.map (.failure fault)) (remembered setting memory tried) := fun h =>
    ⟨h.spent.judged, remembered_told setting memory h.rejected_all⟩
  have hrefine : ∀ {tried made s s'}, refinement setting tried s = (made, s') → Unjudged s s' :=
    fun h => (refinement_spent h).unjudged
  cases h with
  | raised h _ hraises =>
      obtain ⟨hjudged, htold⟩ := hcourse h
      exact ⟨_, _, hraises.unjudged.trans hjudged, htold, hfailures _⟩
  | unrefined h _ hfails =>
      obtain ⟨hjudged, htold⟩ := hcourse h
      exact ⟨_, _, (hrefine hfails).trans hjudged, htold, hfailures _⟩
  | last h =>
      obtain ⟨hjudged, htold⟩ := hcourse h
      exact ⟨_, _, hjudged, htold, hfailures _⟩
  | settled h _ hnone =>
      obtain ⟨hjudged, htold⟩ := hcourse h
      exact ⟨_, _, (hrefine hnone).trans hjudged, htold, hfailures _⟩
  | @accepted cands tried _ rest p o s _ h _ hjudges haccepted =>
      obtain ⟨hjudged, htold⟩ := hcourse h
      have hlast : s'.judged = s.judged ++ [p.withOutcome o] := hjudges.spent.judged
      have hsuccess := record_success_told config fault codeContext
        (remembered setting memory tried)
        (show (p.withOutcome o).accepted = true by simp [Patch.accepted, haccepted]) (tried ++ rest)
      refine ⟨_, _, ?_, htold.append hsuccess, ?_⟩
      · rw [hlast, hjudged, List.append_assoc]
      · rw [List.filterMap_append, hfailures]
        simp [Operation.fix?, RunEnd.acceptedPatch?, Except.toOption]

/-- A run tells of what it validated, and of a success exactly if its result has one. -/
theorem run_told (host : Host (StateM σ)) (config : RepairConfig) (fault : Fault)
    (codeContext : String) (memory : Memory) (hpool : ∀ p ∈ pool, p.validated = false)
    (s : Recorded σ) :
    ∃ memory' result s' judged ops,
      run ⟨config, host.recorded, fault, codeContext⟩ memory pool s = ((memory', result), s') ∧
      s'.judged = s.judged ++ judged ∧ memory.Told config.learningEnabled judged ops memory' ∧
      ops.filterMap Operation.fix? =
        ((result.toOption.bind RepairResult.appliedPatch?).map (fault, ·)).toList ∧
      ∀ r, result = .ok r → r.fault = fault ∧ ∃ refined,
        (∀ q ∈ refined, q.source = .refinement) ∧
        List.Forall₂ Patch.Becomes (pool ++ refined) r.patches := by
  obtain ⟨memory', ended, s₁, hends, hrun⟩ :=
    run_cases ⟨config, host.recorded, fault, codeContext⟩ memory hpool s
  -- the clock before and after the rounds judges nothing
  have hclock : ∀ s, Unjudged s (host.recorded.clock s).2 := host.clock_unjudged
  obtain ⟨judged, ops, hjudged, htold, hfixes, hpatches⟩ : ∃ judged ops,
      s₁.judged = s.judged ++ judged ∧ memory.Told config.learningEnabled judged ops memory' ∧
      ops.filterMap Operation.fix? =
        ((ended.toOption.bind RunEnd.acceptedPatch?).map (fault, ·)).toList ∧
      ∀ last, ended = .ok last → ∃ refined, (∀ q ∈ refined, q.source = .refinement) ∧
        List.Forall₂ Patch.Becomes (pool ++ refined) last.pool := by
    rcases hends with ⟨_, _, refined, hends⟩ | ⟨_, rfl, rfl, rfl⟩
    · obtain ⟨judged, ops, hjudged, htold, hfixes⟩ := hends.told
      refine ⟨judged, ops, hjudged.trans (congrArg (· ++ _) (hclock s)), htold, hfixes, ?_⟩
      rintro last rfl
      exact ⟨refined, fun q hq => (hends.refined_new q hq).2, hends.becomes⟩
    · refine ⟨[], [], (hclock s).trans (List.append_nil _).symm, .nil, rfl, ?_⟩
      rintro _ ⟨⟩
      exact ⟨[], by simp, by simpa using List.forall₂_same.mpr fun p _ => .inl rfl⟩
  obtain ⟨f, rfl, hrun⟩ | ⟨last, duration, event, rfl, hevent, hrun⟩ := hrun
  · exact ⟨memory', .error f, s₁, judged, ops, hrun, hjudged, htold, hfixes, by simp⟩
  · have htells : Keeps Unjudged (host.recorded.notify event) :=
      host.tells_unjudged event (by obtain rfl | rfl := hevent <;> rfl)
    refine ⟨memory', _, _, judged, ops, hrun, ?_, htold, hfixes, ?_⟩
    · exact ((htells _).trans (hclock s₁)).trans hjudged
    · rintro _ ⟨⟩
      exact ⟨rfl, hpatches last rfl⟩

end Loop

end Mender
