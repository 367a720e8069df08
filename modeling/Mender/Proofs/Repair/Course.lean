import Mathlib.Data.List.Forall2
import Mender.Proofs.Patch.Effect
import Mender.Proofs.Repair.Generation
import Mender.Repair.Loop

/-!
# The course of a run

A run validates the candidates of its pool in order, and after each round without success it asks
for a refined one. `Course` is what there is of a run before its end: candidates that were all
rejected, and refined candidates that joined the pool. `RunsTo` says how a run ends, with a
constructor for each way out, and `rounds_run_to` that each run ends so, whatever the collaborators
do. What the steps of a run preserve holds of all runs by induction on the course.
-/

namespace Mender

/-- A candidate before and after a validation that does not accept it. -/
def Patch.Rejects (p q : Patch) : Prop :=
  ∃ o, o.accepted = false ∧ q = p.withOutcome o

/-- A candidate before and after a round, in which it may have been validated. -/
def Patch.Becomes (p q : Patch) : Prop :=
  q = p ∨ ∃ o, q = p.withOutcome o

theorem Patch.Rejects.rejected {p q : Patch} (h : p.Rejects q) : q.rejected = true := by
  obtain ⟨o, hrejected, rfl⟩ := h
  simp [Patch.rejected, hrejected]

theorem Patch.Rejects.becomes {p q : Patch} (h : p.Rejects q) : p.Becomes q := by
  obtain ⟨o, _, rfl⟩ := h
  exact .inr ⟨o, rfl⟩

/-- Candidates that rejected ones came of are rejected. -/
theorem Patch.rejected_of_forall₂ {cands tried : List Patch}
    (h : List.Forall₂ Rejects cands tried) : ∀ q ∈ tried, q.rejected = true := by
  induction h with
  | nil => simp
  | cons hfirst _ ih => exact List.forall_mem_cons.mpr ⟨hfirst.rejected, ih⟩

theorem Patch.validated_of_rejected {p : Patch} (h : p.rejected = true) : p.validated = true := by
  simp only [rejected, Bool.and_eq_true] at h
  exact h.1

namespace Loop

variable {σ : Type} (setting : Setting (StateM σ))

section Equations

variable {round left rounds tested count : Nat} {memory memory₁ : Memory}
  {before after pool pool₁ : List Patch} {p : Patch} {s s₁ : σ}

/-- A candidate that was validated is passed over. -/
theorem test_pool_validated (hdone : p.validated = true) :
    testPool setting round memory before tested (p :: after) s =
      testPool setting round memory (before ++ [p]) tested after s := by
  rw [testPool, if_pos hdone]

/-- A validation that fails ends the round. -/
theorem test_pool_raised (hnew : p.validated = false) {f : Failure}
    (hends : Validate.candidate setting.config setting.host p
      (setting.host.notify (.candidate p round) s).2 = (.error f, s₁)) :
    testPool setting round memory before tested (p :: after) s = ((memory, .error f), s₁) := by
  simp only [testPool, hnew, Bool.false_eq_true, if_false, run_bind, hends]
  rfl

/-- A candidate that is accepted ends the round. -/
theorem test_pool_accepted (hnew : p.validated = false) {o : Outcome}
    (haccepted : o.accepted = true)
    (hends : Validate.candidate setting.config setting.host p
      (setting.host.notify (.candidate p round) s).2 = (.ok o, s₁)) :
    testPool setting round memory before tested (p :: after) s =
      ((recordSuccess setting.config setting.fault setting.codeContext memory (p.withOutcome o)
          (before ++ after),
        .ok ⟨before ++ p.withOutcome o :: after, some before.length, tested + 1⟩),
        (setting.host.notify (.validation (p.withOutcome o) o) s₁).2) := by
  simp only [testPool, hnew, Bool.false_eq_true, if_false, run_bind, hends, haccepted, if_true]
  rfl

/-- After a candidate that is rejected the round goes on. -/
theorem test_pool_rejected (hnew : p.validated = false) {o : Outcome}
    (hrejected : o.accepted = false)
    (hends : Validate.candidate setting.config setting.host p
      (setting.host.notify (.candidate p round) s).2 = (.ok o, s₁)) :
    testPool setting round memory before tested (p :: after) s =
      testPool setting round
        (recordFailure setting.config setting.fault memory (p.withOutcome o))
        (before ++ [p.withOutcome o]) (tested + 1) after
        (setting.host.notify (.validation (p.withOutcome o) o) s₁).2 := by
  simp only [testPool, hnew, Bool.false_eq_true, if_false, run_bind, hends, hrejected]

/-- Candidates that were validated are passed over, however many. -/
theorem test_pool_validated_append {done : List Patch} (hdone : ∀ q ∈ done, q.validated = true) :
    testPool setting round memory before tested (done ++ after) s =
      testPool setting round memory (before ++ done) tested after s := by
  induction done generalizing before with
  | nil => simp
  | cons q done ih =>
      obtain ⟨hq, hrest⟩ := List.forall_mem_cons.mp hdone
      rw [List.cons_append, test_pool_validated setting hq, ih hrest, List.append_assoc,
        List.singleton_append]

/-- A round that fails ends the run. -/
theorem run_rounds_raised {f : Failure}
    (hround : testPool setting rounds memory [] tested pool s = ((memory₁, .error f), s₁)) :
    runRounds setting (left + 1) rounds memory tested pool s = ((memory₁, .error f), s₁) := by
  rw [runRounds, run_bind, hround]
  rfl

/-- A round that accepts a candidate, or was the last, ends the run. -/
theorem run_rounds_last {ended : RoundEnd}
    (hround : testPool setting rounds memory [] tested pool s = ((memory₁, .ok ended), s₁))
    (hlast : ended.accepted.isSome ∨ left = 0) :
    runRounds setting (left + 1) rounds memory tested pool s =
      ((memory₁, .ok ⟨ended.pool, ended.accepted, ended.tested, rounds + 1⟩), s₁) := by
  rw [runRounds, run_bind, hround]
  simp only [Bool.or_eq_true, decide_eq_true_eq, hlast, if_true]
  rfl

/-- After any other round the model is asked for a candidate. The run fails when that fails, ends
when nothing is left to validate, and goes on otherwise. -/
theorem run_rounds_next
    (hround : testPool setting rounds memory [] tested pool s =
      ((memory₁, .ok ⟨pool₁, none, count⟩), s₁)) :
    runRounds setting (left + 1 + 1) rounds memory tested pool s =
      match Generate.refine setting.config setting.host setting.fault setting.codeContext
          (pool₁.filter (·.rejected)) s₁ with
      | (.error f, s₂) => ((memory₁, .error f), s₂)
      | (.ok refined, s₂) =>
        if (pool₁ ++ refined).all (·.validated) then
          ((memory₁, .ok ⟨pool₁ ++ refined, none, count, rounds + 1⟩), s₂)
        else
          runRounds setting (left + 1) (rounds + 1) memory₁ count (pool₁ ++ refined) s₂ := by
  have hnext : ((none : Option Nat).isSome || decide (left + 1 = 0)) = false := by simp
  rw [runRounds, run_bind, hround]
  simp only [hnext, Bool.false_eq_true, if_false, run_bind]
  rcases Generate.refine setting.config setting.host setting.fault setting.codeContext
    (pool₁.filter (·.rejected)) s₁ with ⟨f | refined, s₂⟩
  · rfl
  · by_cases hall : (pool₁ ++ refined).all (·.validated)
    · simp only [hall, if_true]
      rfl
    · simp only [hall, Bool.false_eq_true, if_false]

end Equations

/-- A candidate that has not been validated gets an outcome in a round. Listeners are told of it
before and after. -/
def Judges (round : Nat) (p : Patch) (o : Outcome) (s s' : σ) : Prop :=
  p.validated = false ∧ ∃ s₁,
    Validate.candidate setting.config setting.host p
      (setting.host.notify (.candidate p round) s).2 = (.ok o, s₁) ∧
    s' = (setting.host.notify (.validation (p.withOutcome o) o) s₁).2

/-- The validation of a candidate that has not been validated fails in a round. -/
def Raises (round : Nat) (p : Patch) (f : Failure) (s s' : σ) : Prop :=
  p.validated = false ∧
    Validate.candidate setting.config setting.host p
      (setting.host.notify (.candidate p round) s).2 = (.error f, s')

/-- The request for a candidate that learns from rejected ones. -/
def refinement (tried : List Patch) : StateM σ (Except Failure (List Patch)) :=
  Generate.refine setting.config setting.host setting.fault setting.codeContext tried

/-- What is remembered once candidates were rejected one after another. -/
def remembered (memory : Memory) (tried : List Patch) : Memory :=
  tried.foldl (recordFailure setting.config setting.fault) memory

/-- The course of a run over a pool: the candidates that were rejected so far, as they were before
and after, and the refined candidates that came to the pool, each when all others were rejected. -/
inductive Course (pool : List Patch) (s₀ : σ) : List Patch → List Patch → List Patch → σ → Prop
  | start : Course pool s₀ [] [] [] s₀
  | rejected {cands tried refined p o s s'} :
      Course pool s₀ cands tried refined s → Judges setting refined.length p o s s' →
      o.accepted = false →
      Course pool s₀ (cands ++ [p]) (tried ++ [p.withOutcome o]) refined s'
  | refined {tried refined q s s'} :
      Course pool s₀ (pool ++ refined) tried refined s →
      refined.length + 1 < setting.config.maxIterations.toNat →
      refinement setting tried s = (.ok [q], s') →
      Course pool s₀ (pool ++ refined) tried (refined ++ [q]) s'

/-- How a run over a pool ends: the refined candidates, what is remembered, how its rounds ended,
and the last state. -/
inductive RunsTo (memory : Memory) (pool : List Patch) (s₀ : σ) :
    List Patch → Memory → Except Failure RunEnd → σ → Prop
  | raised {cands tried refined rest p f s s'} :
      Course setting pool s₀ cands tried refined s → pool ++ refined = cands ++ p :: rest →
      Raises setting refined.length p f s s' →
      RunsTo memory pool s₀ refined (remembered setting memory tried) (.error f) s'
  | unrefined {tried refined f s s'} :
      Course setting pool s₀ (pool ++ refined) tried refined s →
      refined.length + 1 < setting.config.maxIterations.toNat →
      refinement setting tried s = (.error f, s') →
      RunsTo memory pool s₀ refined (remembered setting memory tried) (.error f) s'
  | last {tried refined s'} :
      Course setting pool s₀ (pool ++ refined) tried refined s' →
      RunsTo memory pool s₀ refined (remembered setting memory tried)
        (.ok ⟨tried, none, tried.length, refined.length + 1⟩) s'
  | settled {tried refined s s'} :
      Course setting pool s₀ (pool ++ refined) tried refined s →
      refined.length + 1 < setting.config.maxIterations.toNat →
      refinement setting tried s = (.ok [], s') →
      RunsTo memory pool s₀ refined (remembered setting memory tried)
        (.ok ⟨tried, none, tried.length, refined.length + 1⟩) s'
  | accepted {cands tried refined rest p o s s'} :
      Course setting pool s₀ cands tried refined s → pool ++ refined = cands ++ p :: rest →
      Judges setting refined.length p o s s' → o.accepted = true →
      RunsTo memory pool s₀ refined
        (recordSuccess setting.config setting.fault setting.codeContext
          (remembered setting memory tried) (p.withOutcome o) (tried ++ rest))
        (.ok ⟨tried ++ p.withOutcome o :: rest, some tried.length, tried.length + 1,
          refined.length + 1⟩) s'

variable {setting} {pool cands tried refined : List Patch} {s₀ s s' : σ}

/-- A request for a refined candidate fails, or comes to one at most, which is new. -/
theorem refinement_cases (setting : Setting (StateM σ)) (tried : List Patch) (s : σ) :
    (∃ f s', refinement setting tried s = (.error f, s')) ∨
      (∃ s', refinement setting tried s = (.ok [], s')) ∨
      ∃ q s', refinement setting tried s = (.ok [q], s') ∧ q.validated = false ∧
        q.source = .refinement := by
  have hreads : setting.host.Reads Anyhow := fun _ _ _ => .anyhow _
  have hasks : setting.host.Asks Anyhow := fun _ _ _ => .anyhow _
  have hyields := (Generate.refine_yields hreads hasks setting.config setting.fault
    setting.codeContext tried s).2
  have hone := Generate.refine_length_le setting.config setting.host setting.fault
    setting.codeContext tried s
  rcases hrefine : refinement setting tried s with ⟨f | _ | ⟨q, _ | ⟨_, _⟩⟩, s'⟩ <;>
    rw [refinement] at hrefine <;> rw [hrefine] at hyields hone
  · exact .inl ⟨f, s', rfl⟩
  · exact .inr (.inl ⟨s', rfl⟩)
  · obtain ⟨hnew, hsource⟩ := hyields _ rfl q (by simp)
    exact .inr (.inr ⟨q, s', rfl, hnew, hsource⟩)
  · simpa using hone _ rfl

namespace Course

theorem outcomes (h : Course setting pool s₀ cands tried refined s) :
    List.Forall₂ Patch.Rejects cands tried := by
  induction h with
  | start => exact .nil
  | rejected _ _ hrejected ih => exact List.rel_append ih (.cons ⟨_, hrejected, rfl⟩ .nil)
  | refined _ _ _ ih => exact ih

theorem length_eq (h : Course setting pool s₀ cands tried refined s) :
    tried.length = cands.length :=
  h.outcomes.length_eq.symm

theorem rejected_all (h : Course setting pool s₀ cands tried refined s) :
    ∀ q ∈ tried, q.rejected = true :=
  Patch.rejected_of_forall₂ h.outcomes

/-- What holds of a candidate that a request comes to holds of the refined candidates. -/
theorem refined_forall {P : Patch → Prop}
    (hrefine : ∀ tried s q s', refinement setting tried s = (.ok [q], s') → P q)
    (h : Course setting pool s₀ cands tried refined s) : ∀ q ∈ refined, P q := by
  induction h with
  | start => simp
  | rejected _ _ _ ih => exact ih
  | refined _ _ hlast ih =>
      intro q hq
      rcases List.mem_append.mp hq with hq | hq
      · exact ih q hq
      · exact List.mem_singleton.mp hq ▸ hrefine _ _ _ _ hlast

/-- Refined candidates are new and known as refined. -/
theorem refined_new (h : Course setting pool s₀ cands tried refined s) :
    ∀ q ∈ refined, q.validated = false ∧ q.source = .refinement := by
  refine h.refined_forall fun tried s q s' hrefine => ?_
  obtain ⟨f, s₁, heq⟩ | ⟨s₁, heq⟩ | ⟨q', s₁, heq, hnew⟩ :=
    refinement_cases setting tried s <;> rw [hrefine] at heq <;> cases heq
  exact hnew

/-- A refined candidate comes when all others were rejected, so it is the only one that may be
left. -/
theorem reaches (h : Course setting pool s₀ cands tried refined s) :
    refined = [] ∨ (pool ++ refined).length ≤ cands.length + 1 := by
  induction h with
  | start => exact .inl rfl
  | rejected _ _ _ ih => exact ih.imp_right fun hle => Nat.le_trans hle (by simp)
  | refined => exact .inr (by simp; omega)

/-- There are fewer refined candidates than rounds may be run. -/
theorem length_lt (h : Course setting pool s₀ cands tried refined s)
    (hsome : 0 < setting.config.maxIterations.toNat) :
    refined.length < setting.config.maxIterations.toNat := by
  induction h with
  | start => exact hsome
  | rejected _ _ _ ih => exact ih
  | refined _ hless _ _ => simpa using hless

end Course

/-- An outcome for a candidate that was not validated, or a validation that fails. -/
theorem raises_or_judges (setting : Setting (StateM σ)) (round : Nat) {p : Patch}
    (hnew : p.validated = false) (s : σ) :
    (∃ f s', Raises setting round p f s s') ∨ ∃ o s', Judges setting round p o s s' := by
  rcases hends : Validate.candidate setting.config setting.host p
    (setting.host.notify (.candidate p round) s).2 with ⟨f | o, s₁⟩
  · exact .inl ⟨f, s₁, hnew, hends⟩
  · exact .inr ⟨o, _, hnew, s₁, hends, rfl⟩

/-- A round over new candidates goes on with the course of a run: the run ends with it, or all
candidates are rejected by the end of it. -/
theorem test_pool_course (memory : Memory) {fresh : List Patch}
    (hcourse : Course setting pool s₀ cands tried refined s)
    (hpool : pool ++ refined = cands ++ fresh) (hfresh : ∀ p ∈ fresh, p.validated = false) :
    (∃ memory' f s', testPool setting refined.length (remembered setting memory tried) tried
          tried.length fresh s = ((memory', .error f), s') ∧
        RunsTo setting memory pool s₀ refined memory' (.error f) s') ∨
      (∃ memory' ended s', testPool setting refined.length (remembered setting memory tried) tried
          tried.length fresh s = ((memory', .ok ended), s') ∧ ended.accepted.isSome ∧
        RunsTo setting memory pool s₀ refined memory'
          (.ok ⟨ended.pool, ended.accepted, ended.tested, refined.length + 1⟩) s') ∨
      ∃ tried' s', testPool setting refined.length (remembered setting memory tried) tried
          tried.length fresh s =
            ((remembered setting memory tried', .ok ⟨tried', none, tried'.length⟩), s') ∧
        Course setting pool s₀ (pool ++ refined) tried' refined s' := by
  -- the candidates of the round that are left get fewer, and the course longer by each rejected one
  induction fresh generalizing cands tried s with
  | nil =>
      rw [List.append_nil] at hpool
      exact .inr (.inr ⟨tried, s, rfl, hpool ▸ hcourse⟩)
  | cons p fresh ih =>
      obtain ⟨hnew, hothers⟩ := List.forall_mem_cons.mp hfresh
      obtain ⟨f, s', hraises⟩ | ⟨o, s', hjudges⟩ :=
        raises_or_judges setting refined.length hnew s
      · exact .inl ⟨_, f, s', test_pool_raised setting hnew hraises.2,
          .raised hcourse hpool hraises⟩
      obtain ⟨_, s₁, hends, rfl⟩ := id hjudges
      cases haccepted : o.accepted with
      | true =>
          exact .inr (.inl ⟨_, _, _, test_pool_accepted setting hnew haccepted hends, rfl,
            .accepted hcourse hpool hjudges haccepted⟩)
      | false =>
          have hnext := ih (hcourse.rejected hjudges haccepted) (by simpa using hpool) hothers
          rw [test_pool_rejected setting hnew haccepted hends]
          simpa [remembered] using hnext

/-- Rounds over new candidates go on with the course of a run until the run ends. -/
theorem run_rounds_run_to (memory : Memory) {left : Nat} {fresh : List Patch}
    (hcourse : Course setting pool s₀ cands tried refined s)
    (hpool : pool ++ refined = cands ++ fresh) (hfresh : ∀ p ∈ fresh, p.validated = false)
    (hleft : refined.length + (left + 1) = setting.config.maxIterations.toNat) :
    ∃ refined' memory' ended s', runRounds setting (left + 1) refined.length
        (remembered setting memory tried) tried.length (tried ++ fresh) s =
          ((memory', ended), s') ∧
      RunsTo setting memory pool s₀ refined' memory' ended s' := by
  -- what earlier rounds rejected is passed over, so a round is about the new candidates alone
  have hround : testPool setting refined.length (remembered setting memory tried) [] tried.length
      (tried ++ fresh) s = testPool setting refined.length (remembered setting memory tried) tried
        tried.length fresh s :=
    test_pool_validated_append setting fun q hq =>
      Patch.validated_of_rejected (hcourse.rejected_all q hq)
  induction left generalizing cands tried refined fresh s with
  | zero =>
      obtain ⟨m, f, s', heq, hends⟩ | ⟨m, ended, s', heq, hsome, hends⟩ | ⟨tried', s', heq, hall⟩ :=
        test_pool_course memory hcourse hpool hfresh
      · exact ⟨_, m, _, s', run_rounds_raised setting (hround.trans heq), hends⟩
      · exact ⟨_, m, _, s', run_rounds_last setting (hround.trans heq) (.inl hsome), hends⟩
      · exact ⟨_, _, _, s', run_rounds_last setting (hround.trans heq) (.inr rfl), .last hall⟩
  | succ left ih =>
      obtain ⟨m, f, s', heq, hends⟩ | ⟨m, ended, s', heq, hsome, hends⟩ | ⟨tried', s₁, heq, hall⟩ :=
        test_pool_course memory hcourse hpool hfresh
      · exact ⟨_, m, _, s', run_rounds_raised setting (hround.trans heq), hends⟩
      · exact ⟨_, m, _, s', run_rounds_last setting (hround.trans heq) (.inl hsome), hends⟩
      have hless : refined.length + 1 < setting.config.maxIterations.toNat := by omega
      have hvalidated : ∀ q ∈ tried', q.validated = true := fun q hq =>
        Patch.validated_of_rejected (hall.rejected_all q hq)
      rw [run_rounds_next setting (hround.trans heq),
        List.filter_eq_self.mpr hall.rejected_all, ← refinement]
      obtain ⟨f, s₂, hrefine⟩ | ⟨s₂, hrefine⟩ | ⟨q, s₂, hrefine, hnew, _⟩ :=
        refinement_cases setting tried' s₁ <;> rw [hrefine]
      · exact ⟨_, _, _, s₂, rfl, .unrefined hall hless hrefine⟩
      · refine ⟨_, _, _, s₂, ?_, .settled hall hless hrefine⟩
        simp only [List.append_nil, if_pos (List.all_eq_true.mpr hvalidated)]
      · -- the refined candidate is all that the next round has to validate
        have hnone : ((tried' ++ [q]).all (·.validated)) = false := by simp [hnew]
        have hgrown := hall.refined hless hrefine
        have hlast : ∀ p ∈ [q], p.validated = false := by simpa using hnew
        obtain ⟨refined', m, ended, s', hrest, hends⟩ := ih hgrown (by simp) hlast
          (by simp; omega) (test_pool_validated_append setting hvalidated)
        refine ⟨refined', m, ended, s', ?_, hends⟩
        simpa only [hnone, Bool.false_eq_true, if_false, List.length_append,
          List.length_singleton] using hrest

/-- The rounds of a run. An empty pool has none. -/
def rounds {m : Type → Type} [Monad m] (setting : Setting m) (memory : Memory)
    (pool : List Patch) : m (Memory × Except Failure RunEnd) :=
  if pool.isEmpty then pure (memory, .ok ⟨[], none, 0, 0⟩)
  else runRounds setting setting.config.maxIterations.toNat 0 memory 0 pool

/-- The rounds over a pool of new candidates end as `RunsTo` says, unless there is none at all. -/
theorem rounds_run_to (setting : Setting (StateM σ)) (memory : Memory) {pool : List Patch}
    (hpool : ∀ p ∈ pool, p.validated = false) (s : σ) :
    ∃ memory' ended s', rounds setting memory pool s = ((memory', ended), s') ∧
      ((pool ≠ [] ∧ 0 < setting.config.maxIterations.toNat ∧
          ∃ refined, RunsTo setting memory pool s refined memory' ended s') ∨
        ((pool = [] ∨ setting.config.maxIterations.toNat = 0) ∧ memory' = memory ∧
          ended = .ok ⟨pool, none, 0, 0⟩ ∧ s' = s)) := by
  unfold rounds
  cases pool with
  | nil => exact ⟨memory, _, s, rfl, .inr ⟨.inl rfl, rfl, rfl, rfl⟩⟩
  | cons p pool =>
      rw [if_neg (by simp)]
      cases hleft : setting.config.maxIterations.toNat with
      | zero => exact ⟨memory, _, s, rfl, .inr ⟨.inr rfl, rfl, rfl, rfl⟩⟩
      | succ left =>
          have hstart : Course setting (p :: pool) s [] [] [] s := .start
          obtain ⟨refined, m, ended, s', heq, hends⟩ := run_rounds_run_to memory hstart
            (List.append_nil _) hpool (by simpa using hleft.symm)
          exact ⟨m, ended, s', heq, .inl ⟨by simp, by simp, refined, hends⟩⟩

namespace RunsTo

variable {memory memory' : Memory}

/-- A run ends after a course. -/
theorem course {ended : Except Failure RunEnd}
    (h : RunsTo setting memory pool s₀ refined memory' ended s') :
    ∃ cands tried s, Course setting pool s₀ cands tried refined s := by
  cases h with
  | raised h | unrefined h | last h | settled h | accepted h => exact ⟨_, _, _, h⟩

theorem refined_new {ended : Except Failure RunEnd}
    (h : RunsTo setting memory pool s₀ refined memory' ended s') :
    ∀ q ∈ refined, q.validated = false ∧ q.source = .refinement := by
  obtain ⟨_, _, _, hcourse⟩ := h.course
  exact hcourse.refined_new

/-- The candidates of a run are those of its pool and refined ones, whatever became of them. -/
theorem becomes {ended : RunEnd}
    (h : RunsTo setting memory pool s₀ refined memory' (.ok ended) s') :
    List.Forall₂ Patch.Becomes (pool ++ refined) ended.pool := by
  cases h with
  | last hcourse | settled hcourse =>
      exact hcourse.outcomes.imp fun _ _ => Patch.Rejects.becomes
  | accepted hcourse hall _ _ =>
      rw [hall]
      exact List.rel_append (hcourse.outcomes.imp fun _ _ => Patch.Rejects.becomes)
        (.cons (.inr ⟨_, rfl⟩) (List.forall₂_same.mpr fun _ _ => .inl rfl))

end RunsTo

/-- How a run over a pool of new candidates ends: it asks for the time, and unless there is none
its rounds end as `RunsTo` says. It fails when they do; otherwise its result says how they ended,
and listeners are told of it. -/
theorem run_cases (setting : Setting (StateM σ)) (memory : Memory) {pool : List Patch}
    (hpool : ∀ p ∈ pool, p.validated = false) (s : σ) :
    ∃ memory' ended s₁,
      ((pool ≠ [] ∧ 0 < setting.config.maxIterations.toNat ∧
          ∃ refined, RunsTo setting memory pool (setting.host.clock s).2 refined memory' ended
            s₁) ∨
        ((pool = [] ∨ setting.config.maxIterations.toNat = 0) ∧ memory' = memory ∧
          ended = .ok ⟨pool, none, 0, 0⟩ ∧ s₁ = (setting.host.clock s).2)) ∧
      ((∃ f, ended = .error f ∧ run setting memory pool s = ((memory', .error f), s₁)) ∨
        ∃ last duration event, ended = .ok last ∧
          (event = .success (resultOf setting.fault last duration) ∨
            event = .failure (resultOf setting.fault last duration)) ∧
          run setting memory pool s =
            ((memory', .ok (resultOf setting.fault last duration)),
              (setting.host.notify event (setting.host.clock s₁).2).2)) := by
  obtain ⟨memory', ended, s₁, hrounds, hends⟩ :=
    rounds_run_to setting memory hpool (setting.host.clock s).2
  refine ⟨memory', ended, s₁, hends, ?_⟩
  rw [rounds] at hrounds
  rw [run, run_bind]
  cases ended with
  | error f =>
      refine .inl ⟨f, rfl, ?_⟩
      cases hempty : pool.isEmpty <;>
        simp only [hempty, if_true, Bool.false_eq_true, if_false] at hrounds ⊢ <;>
        rw [run_bind, hrounds] <;> rfl
  | ok last =>
      let duration := (setting.host.clock s₁).1 - (setting.host.clock s).1
      let result := resultOf setting.fault last duration
      refine .inr ⟨last, duration, if result.success then .success result else .failure result,
        rfl, ?_, ?_⟩
      · split <;> simp [result]
      · cases hempty : pool.isEmpty <;>
          simp only [hempty, if_true, Bool.false_eq_true, if_false] at hrounds ⊢ <;>
          rw [run_bind, hrounds] <;> rfl

end Loop

end Mender
