import Mender.Proofs.Repair.Pool
import Mender.Proofs.Repair.Told
import Mender.Proofs.Session.Calls
import Mender.Proofs.Session.Integrity
import Mender.Proofs.Session.Results

/-!
# The registry and the store of an engine

An engine works with one registry and one learning store, over all repairs that it is asked for:
template candidates are those of strategies of the registry, in the order that the store's answers
give them, and outcomes are told to both (`Memory.ServesAll`). They are the ones that the engine was
given when these hold a strategy and know an error, and standard ones otherwise
(`Engine.repairs_use_what_was_taken`).
-/

namespace Mender

open LearningStore (Operation)

/-- The candidates of a result that strategies made. -/
def RepairResult.templates (r : RepairResult) : List Patch :=
  r.patches.filter (·.source = .template)

/-- The fault of a result with the candidate that was applied for it. -/
def RepairResult.fix? (r : RepairResult) : Option (Fault × Patch) :=
  r.appliedPatch?.map (r.fault, ·)

namespace Memory

/-- The templates of a result are those that the registry makes for its fault, in the order that it
has with the answer of the store to the fault's message. -/
def Offers (learning : Bool) (memory : Memory) (r : RepairResult) : Prop :=
  r.templates = [] ∨ ∃ codeContext line budget made,
    Template.candidates memory.registry r.fault codeContext line budget
      (if learning then memory.learning.lookup r.fault.message else none) [] = .ok made ∧
    List.Forall₂ Patch.Becomes made r.templates

/-- What is remembered serves the repair of a fault, with the candidates that were validated for it:
it offers the templates of the result and is told of the outcomes. -/
structure Serves (learning : Bool) (memory : Memory) (r : RepairResult) (judged : List Patch)
    (ops : List Operation) (memory' : Memory) : Prop where
  offers : memory.Offers learning r
  told : memory.Told learning judged ops memory'
  fixes : ops.filterMap Operation.fix? = r.fix?.toList

/-- What is remembered serves repairs one after another. -/
inductive ServesAll (learning : Bool) :
    Memory → List RepairResult → List Patch → List Operation → Memory → Prop
  | nil {memory} : ServesAll learning memory [] [] [] memory
  | cons {memory memory₁ memory' r rs judged judged' ops ops'} :
      Serves learning memory r judged ops memory₁ →
      ServesAll learning memory₁ rs judged' ops' memory' →
      ServesAll learning memory (r :: rs) (judged ++ judged') (ops ++ ops') memory'

variable {learning : Bool} {memory memory₁ memory' : Memory} {r : RepairResult}
  {rs rs' : List RepairResult} {judged judged' : List Patch} {ops ops' : List Operation}

/-- Templates that are offered are those of registered strategies. -/
theorem Offers.registered (h : memory.Offers learning r) :
    ∀ p ∈ r.patches, p.source = .template → p.strategy ∈ memory.registry.ids := by
  intro p hp hsource
  have hmem : p ∈ r.templates := List.mem_filter.mpr ⟨hp, decide_eq_true hsource⟩
  obtain hnone | ⟨_, _, _, made, hmade, hbecomes⟩ := h
  · rw [hnone] at hmem
    cases hmem
  · have hregistered := Template.candidates_registered _ _ _ _ _ _ _ made hmade
    exact Loop.forall_of_becomes (P := fun p => p.strategy ∈ memory.registry.ids)
      (fun _ _ h => h) hbecomes (fun p hp => (hregistered p hp).2) p hmem

/-- A result for a failure has no part in what is remembered. -/
theorem serves_failed (f : Fault) (reason : String) :
    Serves learning memory (Session.failedResult f reason) [] [] memory :=
  ⟨.inl rfl, .nil, rfl⟩

namespace ServesAll

theorem append (h : ServesAll learning memory rs judged ops memory₁)
    (h' : ServesAll learning memory₁ rs' judged' ops' memory') :
    ServesAll learning memory (rs ++ rs') (judged ++ judged') (ops ++ ops') memory' := by
  induction h with
  | nil => exact h'
  | cons hfirst _ ih =>
      rw [List.append_assoc, List.append_assoc]
      exact .cons hfirst (ih h')

theorem told (h : ServesAll learning memory rs judged ops memory') :
    memory.Told learning judged ops memory' := by
  induction h with
  | nil => exact .nil
  | cons hfirst _ ih => exact hfirst.told.append ih

theorem fixes (h : ServesAll learning memory rs judged ops memory') :
    ops.filterMap Operation.fix? = rs.filterMap RepairResult.fix? := by
  induction h with
  | nil => rfl
  | @cons _ _ _ r _ _ _ _ _ hfirst _ ih =>
      rw [List.filterMap_append, hfirst.fixes, ih, List.filterMap_cons]
      cases r.fix? <;> rfl

/-- Each result is served by what was remembered after those before it. -/
theorem split (h : ServesAll learning memory rs judged ops memory')
    {earlier later : List RepairResult} (hrs : rs = earlier ++ r :: later) :
    ∃ judged₁ ops₁ memory₁, judged₁ <+: judged ∧ ops₁ <+: ops ∧
      ServesAll learning memory earlier judged₁ ops₁ memory₁ ∧ memory₁.Offers learning r := by
  induction h generalizing earlier with
  | nil => simp at hrs
  | @cons memory memory₁ _ _ _ judged _ ops _ hfirst hothers ih =>
      cases earlier with
      | nil =>
          obtain ⟨rfl, rfl⟩ := List.cons.inj hrs
          exact ⟨[], [], memory, List.nil_prefix, List.nil_prefix, .nil, hfirst.offers⟩
      | cons r₁ earlier =>
          obtain ⟨rfl, hrest⟩ := List.cons.inj hrs
          obtain ⟨judged₁, ops₁, memory₂, hjudged, hops, hserved, hoffers⟩ := ih hrest
          exact ⟨judged ++ judged₁, ops ++ ops₁, memory₂,
            (List.prefix_append_right_inj judged).mpr hjudged,
            (List.prefix_append_right_inj ops).mpr hops, .cons hfirst hserved, hoffers⟩

end ServesAll

end Memory

/-- A result has the templates that it was offered when its candidates are what became of those for
a task, of which strategies made the first. -/
theorem Memory.offers_of_becomes {config : RepairConfig} {memory : Memory}
    {task : Generate.Task} {made others : List Patch} {r : RepairResult}
    (hmade : Generate.Offered memory.registry task made)
    (hothers : ∀ p ∈ others, p.source ≠ .template)
    (hbecomes : List.Forall₂ Patch.Becomes (made ++ others) r.patches)
    (hfault : task.fault = r.fault) (htried : task.tried = [])
    (hlearned : task.learned =
      if config.learningEnabled then memory.learning.lookup r.fault.message else none) :
    memory.Offers config.learningEnabled r := by
  have hsources : ∀ p q : Patch, p.Becomes q →
      (decide (p.source = .template) = true ↔ decide (q.source = .template) = true) := by
    rintro p _ (rfl | ⟨o, rfl⟩) <;> rfl
  have htemplates : List.Forall₂ Patch.Becomes
      ((made ++ others).filter (·.source = .template)) r.templates :=
    List.rel_filter (fun p q h => hsources p q h) hbecomes
  have hnone : others.filter (·.source = .template) = [] :=
    List.filter_eq_nil_iff.mpr fun p hp => by simpa using hothers p hp
  rw [List.filter_append, hnone, List.append_nil] at htemplates
  obtain rfl | ⟨line, budget, hmade⟩ := hmade
  · exact .inl (List.forall₂_nil_left_iff.mp htemplates)
  · rw [htried, hlearned, hfault] at hmade
    have hall : made.filter (·.source = .template) = made :=
      List.filter_eq_self.mpr fun p hp =>
        decide_eq_true (Template.candidates_registered _ _ _ _ _ _ _ made hmade p hp).1
    exact .inr ⟨_, line, budget, made, hmade, hall ▸ htemplates⟩

namespace Session

section Serving

variable {σ : Type} (host : Host (StateM σ)) (config : RepairConfig) (hint : Option String)

/-- An attempt tells of what it validated, and its result has the templates that it was offered. -/
theorem attempt_served (memory : Memory) (f : Fault) (s : Recorded σ) :
    ∃ memory' result s' judged ops,
      attempt ⟨config, host.recorded, hint⟩ memory f s = ((memory', result), s') ∧
      s'.judged = s.judged ++ judged ∧ memory.Told config.learningEnabled judged ops memory' ∧
      ops.filterMap Operation.fix? =
        ((result.toOption.bind RepairResult.appliedPatch?).map (f, ·)).toList ∧
      ∀ r, result = .ok r → r.fault = f ∧ memory.Offers config.learningEnabled r := by
  rw [attempt, run_bind]
  have hreads := code_context_keeps host.reads_unjudged config hint f s
  rcases hcode : codeContext ⟨config, host.recorded, hint⟩ f s with ⟨e | context, s₁⟩ <;>
    rw [hcode] at hreads
  · exact ⟨memory, .error e, s₁, [], [], rfl, hreads.trans (List.append_nil _).symm, .nil, rfl,
      by simp⟩
  let task : Generate.Task :=
    { fault := f, codeContext := context, hint
      learned := learned? ⟨config, host.recorded, hint⟩ memory f }
  obtain ⟨hmakes, hnew⟩ := Generate.candidates_yields host.reads_unjudged host.asks_unjudged config
    memory.registry task s₁
  have hoffers := (Generate.candidates_offered host.recorded config memory.registry task s₁
    trivial).2
  simp only [run_bind]
  rcases hpool : Generate.candidates config host.recorded memory.registry task s₁ with
    ⟨e | pool, s₂⟩ <;> rw [hpool] at hmakes hnew hoffers
  · exact ⟨memory, .error e, s₂, [], [], rfl, (hmakes.trans hreads).trans (List.append_nil _).symm,
      .nil, rfl, by simp⟩
  obtain ⟨memory', result, s', judged, ops, hrun, hjudged, htold, hfixes, hresult⟩ :=
    Loop.run_told host config f context memory (hnew pool rfl) s₂
  refine ⟨memory', result, s', judged, ops, hrun, ?_, htold, hfixes, fun r hr => ?_⟩
  · rw [hjudged, hmakes, hreads]
  obtain ⟨made, others, rfl, hmade, hothers⟩ := hoffers pool rfl
  obtain ⟨hfault, refined, hrefined, hbecomes⟩ := hresult r hr
  -- what the strategies made comes first; replies and refinements are no templates
  refine ⟨hfault, Memory.offers_of_becomes hmade (fun p (hp : p ∈ others ++ refined) => ?_)
    (List.append_assoc made others refined ▸ hbecomes) hfault.symm rfl (by rw [hfault]; rfl)⟩
  rcases List.mem_append.mp hp with hp | hp
  · simp [hothers p hp]
  · simp [hrefined p hp]

/-- What is remembered serves the repair of a fault, which may fail. -/
theorem repair_fault_served (memory : Memory) (f : Fault) (s : Recorded σ) :
    ∃ memory' r s' judged ops,
      repairFault ⟨config, host.recorded, hint⟩ memory f s = ((memory', r), s') ∧
      s'.judged = s.judged ++ judged ∧
      memory.Serves config.learningEnabled r judged ops memory' := by
  have hstarts := host.tells_unjudged (.faultStart f) rfl s
  obtain ⟨memory', result, s₁, judged, ops, hattempt, hjudged, htold, hfixes, hresult⟩ :=
    attempt_served host config hint memory f (host.recorded.notify (.faultStart f) s).2
  rw [repairFault, run_bind, run_bind, hattempt]
  cases result with
  | error e =>
      have hfails := host.tells_unjudged (.failure (failedResult f e.described)) rfl s₁
      refine ⟨memory', failedResult f e.described, _, judged, ops, rfl, ?_, .inl rfl, htold, hfixes⟩
      rw [hfails, hjudged, hstarts]
  | ok r =>
      obtain ⟨rfl, hoffers⟩ := hresult r rfl
      exact ⟨memory', r, s₁, judged, ops, rfl, by rw [hjudged, hstarts], hoffers, htold, hfixes⟩

variable {host config hint}

/-- What is remembered serves the repairs of faults that are worked on. -/
theorem Worked.served {total number : Nat} {memory memory' : Memory} {faults : List Fault}
    {results : List RepairResult} {s s' : Recorded σ}
    (h : Worked ⟨config, host.recorded, hint⟩ total number memory s faults results memory' s') :
    ∃ judged ops, s'.judged = s.judged ++ judged ∧
      memory.ServesAll config.learningEnabled results judged ops memory' := by
  induction h with
  | nil => exact ⟨[], [], (List.append_nil _).symm, .nil⟩
  | @cons number memory _ _ f _ _ _ s s₁ _ _ hgoes hworks _ ih =>
      have hasked := host.stop_asked_unjudged s
      rw [hgoes] at hasked
      have htells := host.tells_unjudged (.progress
        s!"Repairing fault {number + 1}/{total}..." (shareAt number total)) rfl s₁
      obtain ⟨_, _, _, judged, ops, hrun, hjudged, hserves⟩ := repair_fault_served host config hint
        memory f (host.recorded.notify (.progress s!"Repairing fault {number + 1}/{total}..."
          (shareAt number total)) s₁).2
      rw [work, run_bind, hrun] at hworks
      cases hworks
      obtain ⟨judged', ops', hlater, hothers⟩ := ih
      refine ⟨judged ++ judged', ops ++ ops', ?_, .cons hserves hothers⟩
      rw [hlater, hjudged, htells, hasked, List.append_assoc]

/-- The results of faults that were left have no part in what is remembered. -/
theorem served_left {memory : Memory} (left : List Fault) (reason : String) :
    memory.ServesAll config.learningEnabled (left.map (failedResult · reason)) [] [] memory := by
  induction left with
  | nil => exact .nil
  | cons f left ih => exact .cons (Memory.serves_failed f reason) ih

/-- What is remembered serves all results of a session. -/
theorem RunsTo.served {localization : LocalizationConfig} {memory memory' : Memory}
    {output : String} {coverage : Option Coverage} {s s' : Recorded σ}
    {result : Except Failure Session}
    (h : RunsTo ⟨config, host.recorded, hint⟩ localization memory output coverage s memory' result
      s') :
    ∃ judged ops, s'.judged = s.judged ++ judged ∧
      memory.ServesAll config.learningEnabled ((result.map (·.results)).toOption.getD []) judged ops
        memory' := by
  -- nothing is judged before the work on the faults begins
  have hlocalizes : ∀ {found s₁}, localize localization host.recorded output coverage
      (beginning host.recorded s).2 = (found, s₁) → Unjudged s s₁ := fun {found s₁} hlocal => by
    have hbegins : Keeps Unjudged (beginning host.recorded) :=
      .bind host.forget_stop_unjudged fun _ =>
        .bind (host.tells_unjudged _ rfl) fun _ => host.tells_unjudged _ rfl
    have hfinds := localize_keeps host.reads_unjudged localization output coverage
      (beginning host.recorded s).2
    rw [hlocal] at hfinds
    exact hfinds.trans (hbegins s)
  cases h with
  | unlocalized hlocal =>
      exact ⟨[], [], (hlocalizes hlocal).trans (List.append_nil _).symm, .nil⟩
  | @unnamed found _ s₁ hlocal _ =>
      have htold := host.tells_unjudged (.localization found.faults) rfl s₁
      exact ⟨[], [], (htold.trans (hlocalizes hlocal)).trans (List.append_nil _).symm, .nil⟩
  | @ended found done left results _ s₁ s₂ s₃ hlocal _ hworked hleaves =>
      have htold := host.tells_unjudged (.localization found.faults) rfl s₁
      have hstops : Unjudged s₂ s₃ := by
        obtain ⟨_, rfl⟩ | ⟨_, hstop⟩ := hleaves
        · exact refl_of Unjudged s₃
        · have hasked := host.stop_asked_unjudged s₂
          rwa [hstop] at hasked
      have hends := host.tells_unjudged (.sessionEnd (results ++
        left.map (failedResult · Reason.cancelled)) (!left.isEmpty)) rfl s₃
      obtain ⟨judged, ops, hjudged, hserved⟩ := hworked.served
      have hall := hserved.append (served_left left Reason.cancelled)
      rw [List.append_nil, List.append_nil] at hall
      exact ⟨judged, ops, by rw [hends, hstops, hjudged, htold, hlocalizes hlocal], hall⟩

end Serving

end Session

namespace Engine

variable {σ : Type} (host : Host (StateM σ))

/-- What an engine remembers serves all results of repairs one after another. -/
theorem repairs_served (e : Engine) (calls : List Call) (s : Recorded σ) :
    ∃ e' given s' judged ops, repairs host.recorded e calls s = ((e', given), s') ∧
      s'.judged = s.judged ++ judged ∧ e.memory.ServesAll e.config.learningEnabled
        (given.flatMap (·.toOption.getD [])) judged ops e'.memory := by
  induction calls generalizing e s with
  | nil => exact ⟨e, [], s, [], [], rfl, (List.append_nil _).symm, .nil⟩
  | cons c cs ih =>
      obtain ⟨memory', result, s₁, hrun, hends⟩ := Session.run_runs_to
        ⟨e.config, host.recorded, c.hint⟩ e.localization e.memory c.output c.coverage s
      obtain ⟨judged, ops, hjudged, hserved⟩ := hends.served
      obtain ⟨e₁, hfirst, hmemory, hconfig⟩ : ∃ e₁,
          repair host.recorded e c.output c.hint c.coverage s =
            ((e₁, result.map (·.results)), s₁) ∧ e₁.memory = memory' ∧ e₁.config = e.config := by
        rw [repair, run_bind, hrun]
        cases result with
        | error f => exact ⟨_, rfl, rfl, rfl⟩
        | ok session => exact ⟨_, rfl, rfl, rfl⟩
      obtain ⟨e', others, s', judged', ops', hothers, hlater, hservedLater⟩ := ih e₁ s₁
      refine ⟨e', result.map (·.results) :: others, s', judged ++ judged', ops ++ ops', ?_, ?_, ?_⟩
      · rw [repairs]
        simp only [run_bind, hfirst, hothers]
        rfl
      · rw [hlater, hjudged, List.append_assoc]
      · rw [hmemory, hconfig] at hservedLater
        exact hserved.append hservedLater

/-- What an engine works with that was given a registry and a store: these when they hold a strategy
and know an error, and otherwise a standard registry and an empty store. -/
def taken (config : RepairConfig) (R : Registry) (L : LearningStore) : Memory where
  registry := if takesRegistry R then R else .standard
  learning := if takesStore L then L else
    { cap := config.learningHistoryCap, threshold := config.similarityThreshold }

theorem create_memory (config : RepairConfig) (R : Registry) (L : LearningStore) :
    (create config (some R) (some L)).memory = taken config R L := by
  unfold create taken
  rw [Option.filter_some, Option.filter_some]
  cases takesRegistry R <;> cases takesStore L <;> rfl

/-- Over any repairs an engine works with the registry and the store that it took, which are those
that it was given unless there is no strategy or no known error in them. Template candidates carry
strategies of that registry, and it counts their outcomes. If learning is on, the store is told of
all candidates that were validated: of each by an operation of its own, and of a success exactly for
each candidate that was applied. The templates of each result are those that the registry makes for
its fault, in the order that the store's answer gives, both as the earlier repairs left them. -/
theorem repairs_use_what_was_taken (config : RepairConfig) (R : Registry) (L : LearningStore)
    (calls : List Call) (s : Recorded σ) :
    ∃ e' given s' judged ops,
      repairs host.recorded (create config (some R) (some L)) calls s = ((e', given), s') ∧
      s'.judged = s.judged ++ judged ∧
      let results := given.flatMap (·.toOption.getD [])
      (∀ r ∈ results, ∀ p ∈ r.patches, p.source = .template →
        p.strategy ∈ (taken config R L).registry.ids) ∧
      e'.memory = (taken config R L).tell config.learningEnabled judged ops ∧
      e'.givenRegistry R = (if takesRegistry R then judged.foldl Registry.count R else R) ∧
      e'.givenStore L = (if takesStore L && config.learningEnabled then L.run ops else L) ∧
      List.Forall₂ Operation.TellsOf judged ops ∧
      ops.filterMap Operation.fix? = results.filterMap RepairResult.fix? ∧
      ∀ earlier r later, results = earlier ++ r :: later →
        ∃ judged₁ ops₁, judged₁ <+: judged ∧ ops₁ <+: ops ∧
          ops₁.filterMap Operation.fix? = earlier.filterMap RepairResult.fix? ∧
          ((taken config R L).tell config.learningEnabled judged₁ ops₁).Offers
            config.learningEnabled r := by
  obtain ⟨e', given, s', judged, ops, hrun, hjudged, hserved⟩ :=
    repairs_served host (create config (some R) (some L)) calls s
  rw [create_memory, show (create config (some R) (some L)).config = config from rfl] at hserved
  have htold := hserved.told
  have hsplit : ∀ earlier r later, given.flatMap (·.toOption.getD []) = earlier ++ r :: later →
      ∃ judged₁ ops₁, judged₁ <+: judged ∧ ops₁ <+: ops ∧
        ops₁.filterMap Operation.fix? = earlier.filterMap RepairResult.fix? ∧
        ((taken config R L).tell config.learningEnabled judged₁ ops₁).Offers
          config.learningEnabled r := by
    intro earlier r later hresults
    obtain ⟨judged₁, ops₁, memory₁, hearlier, hbefore, hserves, hoffers⟩ := hserved.split hresults
    exact ⟨judged₁, ops₁, hearlier, hbefore, hserves.fixes, hserves.told.after ▸ hoffers⟩
  refine ⟨e', given, s', judged, ops, hrun, hjudged, fun r hr => ?_, htold.after, ?_, ?_,
    htold.operations, hserved.fixes, hsplit⟩
  · -- what was counted by then changes records, not which strategies there are
    obtain ⟨earlier, later, hresults⟩ := List.append_of_mem hr
    obtain ⟨judged₁, ops₁, _, _, _, hoffers⟩ := hsplit earlier r later hresults
    have hids : ((taken config R L).tell config.learningEnabled judged₁ ops₁).registry.ids =
        (taken config R L).registry.ids :=
      congrArg (List.map Strategy.id)
        (Registry.count_strategies (taken config R L).registry judged₁)
    exact hids ▸ hoffers.registered
  · rw [givenRegistry, htold.after]
    split
    · rename_i htakes
      rw [Memory.tell, taken, if_pos htakes]
    · rfl
  · rw [givenStore, htold.after, Memory.tell, taken]
    cases takesStore L <;> cases config.learningEnabled <;> rfl

/-- A registry without strategies and a store that knows nothing are not used: the candidate that is
applied is one of a standard strategy, and neither is told of it. -/
theorem repair_ignores_empty_collaborators :
    let ended :=
      repair (Crew.steady (fun _ _ => none) (.value { success := true })).host
        (create { useModel := false } (some ⟨[], []⟩) (some {})) "wrong value in a.py:1" none none
        (Site.single "a.py" "x > 1\n")
    ended.1.2.toOption.map (·.map (·.appliedPatch?.map fun p => (p.source, p.strategy))) =
        some [some (.template, "refactor")] ∧
      (ended.1.1.givenRegistry ⟨[], []⟩).ids = [] ∧
      (ended.1.1.givenRegistry ⟨[], []⟩).tallies = [] ∧
      (ended.1.1.givenStore {}).records.length = 0 ∧
      ended.1.1.memory.learning.records.length = 1 := by
  decide +kernel

end Engine

end Mender
