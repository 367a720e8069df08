import Mender.Proofs.Host.Site
import Mender.Proofs.Learning.Feedback
import Mender.Proofs.Repair.Course

/-!
# What a run remembers

A run records each candidate that it validates: a template candidate in the record of its strategy,
and every candidate in the learning store. `Loop.run_books_outcomes` says that what is recorded over
a whole run is what its result shows, whatever the collaborators do and from whichever sources the
candidates of its rounds come.
-/

namespace Mender

/-- A candidate that a strategy made. -/
def Patch.isTemplateOf (id : String) (p : Patch) : Bool :=
  p.source = .template && p.strategy = id

namespace Loop

variable {σ : Type} {setting : Setting (StateM σ)}

/-- What a tried candidate adds to the record of a strategy. -/
theorem tally_of_source (r : Registry) (p : Patch) (success : Bool) (id : String) :
    (if p.source = .template then r.record p.strategy success else r).tally id =
      if p.isTemplateOf id then (r.tally id).add success else r.tally id := by
  by_cases hsource : p.source = .template
  · simp [hsource, Patch.isTemplateOf, Registry.tally_record]
  · simp [hsource, Patch.isTemplateOf]

theorem strategies_of_source (r : Registry) (p : Patch) (success : Bool) :
    (if p.source = .template then r.record p.strategy success else r).strategies =
      r.strategies := by
  split <;> rfl

/-- Rejected candidates are tries of their strategies, and nothing else of the registry changes. -/
theorem remembered_registry (setting : Setting (StateM σ)) (memory : Memory)
    (tried : List Patch) :
    (remembered setting memory tried).registry.strategies = memory.registry.strategies ∧
      ∀ id, (remembered setting memory tried).registry.tally id =
        ⟨(memory.registry.tally id).attempts + tried.countP (·.isTemplateOf id),
          (memory.registry.tally id).successes⟩ := by
  induction tried generalizing memory with
  | nil => exact ⟨rfl, fun _ => rfl⟩
  | cons p tried ih =>
      obtain ⟨hstrategies, htally⟩ := ih (recordFailure setting.config setting.fault memory p)
      refine ⟨hstrategies.trans (strategies_of_source memory.registry p false), fun id => ?_⟩
      rw [remembered, List.foldl_cons, ← remembered, htally, recordFailure,
        tally_of_source, List.countP_cons]
      split
      · simp only [Tally.add, Bool.false_eq_true, if_false, Nat.add_zero, Tally.mk.injEq, and_true]
        omega
      · rfl

/-- Rejected candidates are entered in the history of failures, and nothing else of the store
changes. -/
theorem remembered_learning (hlearning : setting.config.learningEnabled = true) (memory : Memory)
    (tried : List Patch) :
    (remembered setting memory tried).learning = { memory.learning with
      failures := LearningStore.entered memory.learning.cap memory.learning.failures
        (tried.map (failureEntry setting.fault)) } := by
  induction tried generalizing memory with
  | nil => rfl
  | cons p tried ih =>
      rw [remembered, List.foldl_cons, ← remembered, ih, recordFailure, if_pos hlearning]
      rfl

/-- What a run with a result changed of what is remembered, told by the result. -/
structure Booked (fault : Fault) (codeContext : String) (r : RepairResult)
    (memory memory' : Memory) : Prop where
  strategies : memory'.registry.strategies = memory.registry.strategies
  attempts : ∀ id, (memory'.registry.tally id).attempts = (memory.registry.tally id).attempts +
    r.patches.countP fun p => p.validated && p.isTemplateOf id
  successes : ∀ id, (memory'.registry.tally id).successes = (memory.registry.tally id).successes +
    if r.appliedPatch?.any (·.isTemplateOf id) then 1 else 0
  /-- The rejected candidates are entered in the order of the result, which is that of testing. -/
  failures : memory'.learning.failures = LearningStore.entered memory.learning.cap
    memory.learning.failures ((r.patches.filter (·.rejected)).map (failureEntry fault))
  /-- An applied candidate is recorded with all others that were validated, and is known to fix the
  error from then on. -/
  learned : ∀ p, r.appliedPatch? = some p → ∃ i record, r.applied = some i ∧
    record = ⟨fault, p, (r.patches.eraseIdx i).filter (·.validated),
      LearningStore.textOr codeContext (fault.location.snippet.getD ""),
      fileType fault.location.file⟩ ∧
    memory'.learning.records =
      LearningStore.capped memory.learning.cap (memory.learning.records ++ [record]) ∧
    memory'.learning.records.getLast? = some record ∧
    memory'.learning.lookup fault.message = some p.strategy
  unlearned : r.appliedPatch? = none →
    memory'.learning.records = memory.learning.records ∧
      memory'.learning.known = memory.learning.known

theorem filter_rejected_of_new {patches : List Patch}
    (h : ∀ p ∈ patches, p.validated = false) : patches.filter (·.rejected) = [] :=
  List.filter_eq_nil_iff.mpr fun p hp => by simp [Patch.rejected, h p hp]

/-- Of candidates that were not validated nothing is remembered. -/
theorem Booked.of_new {fault : Fault} {codeContext : String} {r : RepairResult} {memory : Memory}
    (hnew : ∀ p ∈ r.patches, p.validated = false) (happlied : r.appliedPatch? = none) :
    Booked fault codeContext r memory memory := by
  refine ⟨rfl, fun id => ?_, fun id => by simp [happlied], ?_, by simp [happlied],
    fun _ => ⟨rfl, rfl⟩⟩
  · rw [List.countP_eq_zero.mpr fun p hp => by simp [hnew p hp], Nat.add_zero]
  · rw [filter_rejected_of_new hnew]
    rfl

/-- Of candidates that were all rejected nothing but their rejections is remembered. -/
theorem Booked.of_rejected (setting : Setting (StateM σ))
    (hlearning : setting.config.learningEnabled = true) (memory : Memory) {r : RepairResult}
    (hrejected : ∀ p ∈ r.patches, p.rejected = true)
    (happlied : r.appliedPatch? = none) :
    Booked setting.fault setting.codeContext r memory
      (remembered setting memory r.patches) := by
  obtain ⟨hstrategies, htally⟩ := remembered_registry setting memory r.patches
  have hlearned := remembered_learning hlearning memory r.patches
  refine ⟨hstrategies, fun id => ?_, fun id => ?_, ?_, by simp [happlied], fun _ => ?_⟩
  · rw [htally]
    refine congrArg _ (List.countP_congr fun p hp => ?_)
    simp [Patch.validated_of_rejected (hrejected p hp)]
  · simp [htally, happlied]
  · rw [hlearned, List.filter_eq_self.mpr hrejected]
  · exact ⟨congrArg (·.records) hlearned, congrArg (·.known) hlearned⟩

/-- Of an accepted candidate its success is remembered, after the rejections before it. -/
theorem Booked.of_accepted (setting : Setting (StateM σ))
    (hlearning : setting.config.learningEnabled = true) {memory : Memory}
    (hcap : 0 ≤ memory.learning.cap) {r : RepairResult} {tried rest : List Patch} {p : Patch}
    (hpatches : r.patches = tried ++ p :: rest) (happlied : r.applied = some tried.length)
    (hrejected : ∀ q ∈ tried, q.rejected = true) (haccepted : p.accepted = true)
    (hrest : ∀ q ∈ rest, q.validated = false) :
    Booked setting.fault setting.codeContext r memory
      (recordSuccess setting.config setting.fault setting.codeContext
        (remembered setting memory tried) p (tried ++ rest)) := by
  obtain ⟨hstrategies, htally⟩ := remembered_registry setting memory tried
  have hlearned := remembered_learning hlearning memory tried
  have hvalidated : ∀ q ∈ tried, q.validated = true := fun q hq =>
    Patch.validated_of_rejected (hrejected q hq)
  simp only [Patch.accepted, Bool.and_eq_true] at haccepted
  have happ : r.appliedPatch? = some p := by
    simp [RepairResult.appliedPatch?, happlied, hpatches]
  refine ⟨(strategies_of_source _ p true).trans hstrategies, fun id => ?_, fun id => ?_, ?_, ?_,
    by simp [happ]⟩
  · -- candidates after the accepted one were not validated, so they are no tries
    have hearlier : tried.countP (fun q => q.validated && q.isTemplateOf id) =
        tried.countP (·.isTemplateOf id) :=
      List.countP_congr fun q hq => by simp [hvalidated q hq]
    have hlater : rest.countP (fun q => q.validated && q.isTemplateOf id) = 0 :=
      List.countP_eq_zero.mpr fun q hq => by simp [hrest q hq]
    rw [recordSuccess, tally_of_source, htally, hpatches, List.countP_append, List.countP_cons,
      hearlier, hlater, haccepted.1]
    cases p.isTemplateOf id <;> simp [Tally.add, Nat.add_assoc]
  · rw [recordSuccess, tally_of_source, htally, happ]
    cases h : p.isTemplateOf id <;> simp [Tally.add, h]
  · -- of the candidates of the result those before the accepted one are the rejected ones
    have hkept : r.patches.filter (·.rejected) = tried := by
      rw [hpatches, List.filter_append, List.filter_eq_self.mpr hrejected,
        List.filter_cons_of_neg (by simp [Patch.rejected, haccepted.2]),
        filter_rejected_of_new hrest, List.append_nil]
    rw [recordSuccess, if_pos hlearning, hkept]
    exact congrArg (·.failures) hlearned
  · rw [happ]
    rintro _ ⟨⟩
    have hothers : (r.patches.eraseIdx tried.length).filter (·.validated) =
        (tried ++ rest).filter (·.validated) := by
      rw [hpatches, List.eraseIdx_append_of_length_le (Nat.le_refl _), Nat.sub_self,
        List.eraseIdx_cons_zero]
    have hstore : (recordSuccess setting.config setting.fault setting.codeContext
        (remembered setting memory tried) p (tried ++ rest)).learning =
          { memory.learning with
            failures := LearningStore.entered memory.learning.cap memory.learning.failures
              (tried.map (failureEntry setting.fault)) }.recordSuccess setting.fault p
            ((r.patches.eraseIdx tried.length).filter (·.validated)) setting.codeContext := by
      rw [recordSuccess, if_pos hlearning, hlearned, hothers]
    refine ⟨tried.length, _, happlied, rfl, congrArg (·.records) hstore, ?_, ?_⟩
    · obtain ⟨kept, _, hkept⟩ := LearningStore.capped_concat hcap memory.learning.records
        ⟨setting.fault, p, (r.patches.eraseIdx tried.length).filter (·.validated),
          LearningStore.textOr setting.codeContext (setting.fault.location.snippet.getD ""),
          fileType setting.fault.location.file⟩
      rw [congrArg (·.records) hstore]
      exact (congrArg List.getLast? hkept).trans List.getLast?_concat
    · rw [hstore]
      exact LearningStore.lookup_record_success hcap setting.fault p
        ((r.patches.eraseIdx tried.length).filter (·.validated)) setting.codeContext

/-- What a run over candidates that were not validated yet remembers is told by its result. Each
candidate that was validated is a try of its strategy if that made it, and the applied one is a
success. Each rejected candidate is entered in the history of failures, of which the latest are
kept, and all when they fit. A success is recorded when there is one, with what failed before it. -/
theorem run_books_outcomes (host : Host (StateM σ)) (config : RepairConfig)
    (hlearning : config.learningEnabled = true) (fault : Fault) (codeContext : String)
    (memory : Memory) (hcap : 0 ≤ memory.learning.cap) (pool : List Patch)
    (hpool : ∀ p ∈ pool, p.validated = false) (s : σ) :
    ∃ memory' result s',
      run ⟨config, host, fault, codeContext⟩ memory pool s = ((memory', result), s') ∧
      ∀ r, result = .ok r →
        r.success = r.appliedPatch?.isSome ∧ Booked fault codeContext r memory memory' ∧
        ∃ entries, entries = (r.patches.filter (·.rejected)).map (failureEntry fault) ∧
          memory'.learning.failures <:+ memory.learning.failures ++ entries ∧
          ((memory.learning.failures.length + entries.length : Nat) ≤ memory.learning.cap →
            memory'.learning.failures = memory.learning.failures ++ entries) := by
  obtain ⟨memory', ended, s₁, hends, ⟨f, rfl, hrun⟩ | ⟨last, duration, event, rfl, _, hrun⟩⟩ :=
    run_cases ⟨config, host, fault, codeContext⟩ memory hpool s
  · exact ⟨memory', .error f, s₁, hrun, by simp⟩
  refine ⟨memory', _, _, hrun, ?_⟩
  rintro _ ⟨⟩
  obtain ⟨hsuccess, hbooked⟩ : (resultOf fault last duration).success =
      (resultOf fault last duration).appliedPatch?.isSome ∧
        Booked fault codeContext (resultOf fault last duration) memory memory' := by
    rcases hends with ⟨_, _, refined, hends⟩ | ⟨_, rfl, heq, _⟩
    · have hnew : ∀ q ∈ pool ++ refined, q.validated = false := fun q hq =>
        (List.mem_append.mp hq).elim (hpool q) fun hq => (hends.refined_new q hq).1
      cases hends with
      | last hcourse | settled hcourse =>
          exact ⟨rfl, .of_rejected ⟨config, host, fault, codeContext⟩ hlearning memory
            hcourse.rejected_all rfl⟩
      | accepted hcourse hall hjudges haccepted =>
          exact ⟨by simp [resultOf, RepairResult.appliedPatch?],
            .of_accepted ⟨config, host, fault, codeContext⟩ hlearning hcap rfl rfl
              hcourse.rejected_all (by simp [Patch.accepted, haccepted])
              fun q hq => hnew q (by simp [hall, hq])⟩
    · cases heq
      exact ⟨rfl, .of_new hpool rfl⟩
  refine ⟨hsuccess, hbooked, _, rfl, ?_, fun hfits => ?_⟩
  · exact hbooked.failures ▸ LearningStore.entered_suffix _ _ _
  · exact hbooked.failures.trans (LearningStore.entered_of_fits hfits)

/-- Two candidates for one line, of which a crew without a model and with unwilling tests takes
none: both are tries of their strategy that failed. -/
theorem run_books_two_candidates :
    let host := (Crew.steady (fun _ _ => none) (.value { success := false })).host
    let pool := [Patch.ofFirstLine "a.py" "x = 2", Patch.ofFirstLine "a.py" "x = 3"]
    ({} : RepairConfig).learningEnabled = true ∧ 0 ≤ ({} : LearningStore).cap ∧
      (∀ p ∈ pool, p.validated = false) ∧
      ∃ memory' r s',
        run ⟨{}, host, .ofFirstLine "a.py", ""⟩ ⟨⟨[], []⟩, {}⟩ pool (.single "a.py" "x = 1\n") =
          ((memory', .ok r), s') ∧
        r.success = false ∧ Booked (.ofFirstLine "a.py") "" r ⟨⟨[], []⟩, {}⟩ memory' ∧
        memory'.registry.tally "replace_line" = ⟨2, 0⟩ ∧
        memory'.learning.failures.map (·.2) = ["replace_line", "replace_line"] := by
  intro host pool
  have hpool : ∀ p ∈ pool, p.validated = false := by simp [pool, Patch.ofFirstLine]
  have hended : (run ⟨{}, host, .ofFirstLine "a.py", ""⟩ ⟨⟨[], []⟩, {}⟩ pool
      (.single "a.py" "x = 1\n")).1.2.toOption.map (·.success) = some false := by decide +kernel
  have htally : (run ⟨{}, host, .ofFirstLine "a.py", ""⟩ ⟨⟨[], []⟩, {}⟩ pool
      (.single "a.py" "x = 1\n")).1.1.registry.tally "replace_line" = ⟨2, 0⟩ := by decide +kernel
  have hfailures : (run ⟨{}, host, .ofFirstLine "a.py", ""⟩ ⟨⟨[], []⟩, {}⟩ pool
      (.single "a.py" "x = 1\n")).1.1.learning.failures.map (·.2) =
        ["replace_line", "replace_line"] := by decide +kernel
  obtain ⟨memory', result, s', hrun, hbooked⟩ := run_books_outcomes host {} rfl
    (.ofFirstLine "a.py") "" ⟨⟨[], []⟩, {}⟩ (by decide) pool hpool (.single "a.py" "x = 1\n")
  rw [hrun] at hended htally hfailures
  cases result with
  | error f => cases hended
  | ok r =>
      exact ⟨rfl, by decide, hpool, memory', r, s', hrun, Option.some.inj hended,
        (hbooked r rfl).2.1, htally, hfailures⟩

end Loop

end Mender
