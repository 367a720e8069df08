import Mathlib.Data.List.Basic
import Mender.Proofs.Dialogue.Reply
import Mender.Proofs.Host.Site

/-!
# Candidates and the answers they come of

A model may answer each request as it likes. What it answers is laid out ahead, so that the
candidates are a function of the answers: those of the templates, and after them what each answer
offers. `FollowsAnswers` says so, and that an answer spoils the others exactly when it states a fix
whose line number cannot be read; all candidates are lost then.
-/

namespace Mender

/-- The first of the answers that lie ahead, and those after it. -/
def Crew.nextAnswer (_ : Request) (s : Site (Nat → Reply String)) :
    Reply String × (Nat → Reply String) :=
  (s.rest 0, fun i => s.rest (i + 1))

/-- A crew whose reads succeed, and whose model gives the answers that lie ahead one by one. -/
def Crew.answering : Crew (Nat → Reply String) where
  readFault _ s := (none, s.rest)
  writeFault _ _ s := (none, s.rest)
  tests? := none
  model? := some nextAnswer
  command? := none
  hear _ s := s.rest
  stopAsked s := (false, s.rest)
  forgetStop s := s.rest
  clock s := (0.0, s.rest)

/-- An answer is a fix whose line number cannot be read. -/
def Reply.Unreadable : Reply String → Prop
  | .value text => FixReply.Unreadable text
  | .raised _ => False
  | .silent => False

namespace Site

variable {E : Type}

/-- Between two states of a site no file was changed, and the rest is as it was. -/
structure Consulted (s s' : Site E) : Prop where
  files : s'.files = s.files
  rest : s'.rest = s.rest

instance : IsPreorder (Site E) Consulted where
  refl _ := ⟨rfl, rfl⟩
  trans _ _ _ h h' := ⟨h'.files.trans h.files, h'.rest.trans h.rest⟩

end Site

theorem Crew.answering_reads : answering.host.Reads Site.Consulted := by
  rintro read ⟨⟩ path s
  exact ⟨rfl, rfl⟩

/-- A file that is there is read, and one that is not is no failure. -/
theorem Crew.answering_readable (path : String) (s : Site (Nat → Reply String)) :
    (answering.host.readable path s).1 = .ok (s.files path) := by
  rw [Host.readable]
  cases hfile : s.files path with
  | none =>
      have hread : (answering.read path s).1 = .error (missingKey path) := by
        simp [read, answering, hfile]
      simp [host, run_bind, run_pure, hread, missingKey, Failure.isUnreadable]
  | some text =>
      have hread : (answering.read path s).1 = .ok text := by simp [read, answering, hfile]
      simp [host, run_bind, run_pure, hread]

namespace Generate

open Crew (answering)

/-- A change with the text that it replaces, taken from files unless it states one. -/
def filledFrom (files : FileStore) (c : Change) : Change :=
  if c.replaced.isEmpty then
    match files c.file with
    | none => c
    | some content => { c with replaced := rangeText content c.first c.last }
  else c

/-- What comes of an answer: the candidate of the reply, if it states one, or the failure to read
it. A request that failed offers nothing. -/
def offer (files : FileStore) (f : Fault) (strategy : String) :
    Reply String → Except Failure (List Patch)
  | .value text => (FixReply.parse f strategy text).map fun found =>
      (found.map fun p => { p with changes := p.changes.map (filledFrom files) }).toList
  | .raised _ => .ok []
  | .silent => .ok []

/-- The candidates that an answer offers, none when it cannot be read. -/
def offered (files : FileStore) (f : Fault) (strategy : String) (answer : Reply String) :
    List Patch :=
  (offer files f strategy answer).toOption.getD []

/-- An answer that can be read offers its candidates. -/
theorem offer_of_readable (files : FileStore) (f : Fault) (strategy : String)
    {answer : Reply String} (h : ¬answer.Unreadable) :
    offer files f strategy answer = .ok (offered files f strategy answer) := by
  rw [offered]
  cases hoffer : offer files f strategy answer with
  | ok patches => rfl
  | error e =>
      cases answer with
      | value text => exact absurd ((FixReply.parse_fails_iff _ _ _).mp ⟨e, map_eq_error hoffer⟩) h
      | raised e' => cases hoffer
      | silent => cases hoffer

/-- An answer that cannot be read is a failure, as a value that is none. -/
theorem offer_of_unreadable (files : FileStore) (f : Fault) (strategy : String)
    {answer : Reply String} (h : answer.Unreadable) :
    ∃ e, e.kind = .value ∧ offer files f strategy answer = .error e := by
  cases answer with
  | value text =>
      obtain ⟨e, hparse⟩ := (FixReply.parse_fails_iff f strategy text).mpr h
      exact ⟨e, FixReply.parse_error_kind hparse, by rw [offer, hparse]; rfl⟩
  | raised e => cases h
  | silent => cases h

theorem fill_replaced_answering (c : Change) (s : Site (Nat → Reply String)) :
    (fillReplaced answering.host c s).1 = .ok (filledFrom s.files c) := by
  have hread := Crew.answering_readable c.file s
  unfold fillReplaced filledFrom
  by_cases hempty : c.replaced.isEmpty = true
  · simp only [hempty, Bool.not_true, Bool.false_eq_true, if_false, if_true, run_bind, hread]
    cases s.files c.file <;> rfl
  · simp only [hempty, Bool.not_false, if_true, Bool.false_eq_true, if_false, run_pure]

theorem fill_replaceds_answering (cs : List Change) (s : Site (Nat → Reply String)) :
    (fillReplaceds answering.host cs s).1 = .ok (cs.map (filledFrom s.files)) := by
  induction cs generalizing s with
  | nil => rfl
  | cons c cs ih =>
      have hfiles := (fill_replaced_keeps Crew.answering_reads c s).files
      rw [fillReplaceds, run_bind, fill_replaced_answering]
      simp only [run_bind, run_pure, ih, hfiles, Except.map, List.map_cons]

/-- The candidate of a reply is the one that it states, with the text that is replaced. -/
theorem of_reply_answering (f : Fault) (strategy reply : String)
    (s : Site (Nat → Reply String)) :
    (ofReply answering.host f strategy reply s).1.map Option.toList =
      offer s.files f strategy (.value reply) := by
  rw [ofReply, offer]
  rcases FixReply.parse f strategy reply with e | _ | p
  · rfl
  · rfl
  · simp only [run_bind, run_pure, fill_replaceds_answering, Except.map, Option.map]

/-- Asking gives the first of the answers ahead, and leaves the others. -/
theorem ask_answering (config : RepairConfig) (prompt : String) (history : List Turn)
    (temperature : Option Float) (s : Site (Nat → Reply String)) :
    ∃ s', s'.files = s.files ∧ (s'.rest = fun i => s.rest (i + 1)) ∧
      ask config (Crew.ask Crew.nextAnswer) prompt history temperature s =
        (match s.rest 0 with
          | .value text => some text
          | _ => none, s') := by
  refine ⟨(Crew.ask Crew.nextAnswer ⟨prompt, history, temperature⟩ s).2, rfl, rfl, ?_⟩
  rw [ask, run_bind]
  obtain ⟨text, hvalue, hrun⟩ | ⟨hnone, e, hrun⟩ := bounded_eq config.generationTimeout
    generationTimeout (Crew.ask Crew.nextAnswer ⟨prompt, history, temperature⟩) s
  · rw [hrun, show s.rest 0 = .value text from hvalue]
    rfl
  · rw [hrun]
    cases hanswer : s.rest 0 with
    | value text => exact absurd hanswer (hnone text)
    | raised e => rfl
    | silent => rfl

variable (config : RepairConfig) (f : Fault)

/-- Of several requests the first takes an answer, and the others go on from there. -/
theorem of_requests_step (prompt : String) (number count : Nat)
    (s : Site (Nat → Reply String)) :
    ∃ s', s'.files = s.files ∧ (s'.rest = fun i => s.rest (i + 1)) ∧
      (ofRequests config answering.host (Crew.ask Crew.nextAnswer) f prompt number (count + 1)
          s).1 = do
        let first ← offer s.files f FixReply.modelStrategy (s.rest 0)
        let others ← (ofRequests config answering.host (Crew.ask Crew.nextAnswer) f prompt
          (number + 1) count s').1
        return first ++ others := by
  obtain ⟨s₁, hfiles, hrest, hask⟩ := ask_answering config prompt repairHistory
    (some (temperature number)) s
  rw [ofRequests, run_bind, hask]
  cases s.rest 0 with
  | raised e => exact ⟨s₁, hfiles, hrest, (bind_pure _).symm⟩
  | silent => exact ⟨s₁, hfiles, hrest, (bind_pure _).symm⟩
  | value text =>
      have hmade := of_reply_answering f FixReply.modelStrategy text s₁
      have hkept := (of_reply_yields Crew.answering_reads f FixReply.modelStrategy text s₁).1
      refine ⟨_, hkept.files.trans hfiles, hkept.rest.trans hrest, ?_⟩
      rw [← hfiles, ← hmade]
      simp only [run_bind]
      cases (ofReply answering.host f FixReply.modelStrategy text s₁).1 with
      | error e => rfl
      | ok found => rfl

/-- The candidates of requests are what the answers to them offer, and there are none as soon as one
of the answers cannot be read. -/
theorem of_requests_answering (prompt : String) (number count : Nat)
    (s : Site (Nat → Reply String)) :
    ((∀ i < count, ¬(s.rest i).Unreadable) →
      (ofRequests config answering.host (Crew.ask Crew.nextAnswer) f prompt number count s).1 =
        .ok ((List.range count).flatMap fun i =>
          offered s.files f FixReply.modelStrategy (s.rest i))) ∧
    ((∃ i < count, (s.rest i).Unreadable) →
      ∃ e, e.kind = .value ∧
        (ofRequests config answering.host (Crew.ask Crew.nextAnswer) f prompt number count s).1 =
          .error e) := by
  induction count generalizing number s with
  | zero => exact ⟨fun _ => rfl, fun ⟨_, hi, _⟩ => absurd hi (by omega)⟩
  | succ count ih =>
      obtain ⟨s', hfiles, hrest, hstep⟩ := of_requests_step config f prompt number count s
      have hnext := ih (number + 1) s'
      rw [hfiles, hrest] at hnext
      rw [hstep, List.range_succ_eq_map, List.flatMap_cons, List.flatMap_map]
      by_cases hfirst : (s.rest 0).Unreadable
      · obtain ⟨e, hkind, hoffer⟩ := offer_of_unreadable s.files f FixReply.modelStrategy hfirst
        rw [hoffer]
        exact ⟨fun hall => absurd hfirst (hall 0 (by omega)), fun _ => ⟨e, hkind, rfl⟩⟩
      · rw [offer_of_readable s.files f FixReply.modelStrategy hfirst]
        refine ⟨fun hall => ?_, fun ⟨i, hi, hbad⟩ => ?_⟩
        · rw [hnext.1 fun i hi => hall (i + 1) (by omega)]
          rfl
        · cases i with
          | zero => exact absurd hbad hfirst
          | succ i =>
              obtain ⟨e, hkind, hrun⟩ := hnext.2 ⟨i, by omega, hbad⟩
              exact ⟨e, hkind, by rw [hrun]; rfl⟩

/-- The template candidates that are made of files. -/
def templatesFrom (files : FileStore) (registry : Registry) (task : Task) (budget : Int) :
    Except Failure (List Patch) :=
  if budget ≤ 0 then .ok []
  else match (files task.fault.location.file).bind
      (Template.lineAt? · task.fault.location.line) with
    | none => .ok []
    | some line => Template.candidates registry task.fault task.codeContext line budget task.learned
      task.tried

theorem templates_answering (registry : Registry) (task : Task) (budget : Int)
    (s : Site (Nat → Reply String)) :
    (templates answering.host registry task budget s).1 =
      templatesFrom s.files registry task budget := by
  rw [templates, templatesFrom]
  split
  · rfl
  · rw [run_bind, Crew.answering_readable]
    dsimp only
    cases (s.files task.fault.location.file).bind
      (Template.lineAt? · task.fault.location.line) <;> rfl

/-- The template candidates for a task: with a model half of the budget is left to it. -/
def templateShare (config : RepairConfig) (files : FileStore) (registry : Registry) (task : Task) :
    Except Failure (List Patch) :=
  let budget := task.budget.getD config.maxCandidates
  if config.useTemplates then
    templatesFrom files registry task (if config.useModel then budget / 2 else budget)
  else .ok []

/-- How often the model is asked after some candidates were made. -/
def requests (config : RepairConfig) (task : Task) (made : List Patch) : Nat :=
  if config.useModel then (task.budget.getD config.maxCandidates - made.length).toNat else 0

theorem model_answering :
    model? config answering.host = if config.useModel then some (Crew.ask Crew.nextAnswer)
      else none :=
  rfl

/-- The candidates of a task are those of the templates and after them those of the requests. -/
theorem candidates_answering (registry : Registry) (task : Task)
    (s : Site (Nat → Reply String)) :
    ∃ s', s'.files = s.files ∧ s'.rest = s.rest ∧
      (candidates config answering.host registry task s).1 = do
        let made ← templateShare config s.files registry task
        let others ← (ofRequests config answering.host (Crew.ask Crew.nextAnswer) task.fault
          (Prompt.repair task.fault task.codeContext task.hint) 0 (requests config task made) s').1
        return made ++ others := by
  have hkept := fun budget => (templates_yields Crew.answering_reads registry task budget s).1
  unfold candidates templateShare requests
  rw [model_answering]
  -- templates leave files and answers alone, so the requests start from where the task does
  cases config.useTemplates with
  | false =>
      refine ⟨s, rfl, rfl, ?_⟩
      cases config.useModel with
      | false => rfl
      | true =>
          simp only [Bool.false_eq_true, if_false, if_true, Option.isSome_some, run_bind, run_pure]
          exact map_eq_bind _ _
  | true =>
      cases config.useModel with
      | false =>
          refine ⟨_, (hkept (task.budget.getD config.maxCandidates)).files,
            (hkept (task.budget.getD config.maxCandidates)).rest, ?_⟩
          simp only [Bool.false_eq_true, if_false, if_true, Option.isSome_none, run_bind,
            templates_answering]
          cases templatesFrom s.files registry task (task.budget.getD config.maxCandidates) with
          | error e => rfl
          | ok made => exact congrArg Except.ok (List.append_nil made).symm
      | true =>
          refine ⟨_, (hkept (task.budget.getD config.maxCandidates / 2)).files,
            (hkept (task.budget.getD config.maxCandidates / 2)).rest, ?_⟩
          simp only [if_true, Option.isSome_some, run_bind, templates_answering]
          cases templatesFrom s.files registry task (task.budget.getD config.maxCandidates / 2) with
          | error e => rfl
          | ok made =>
              simp only [run_bind, run_pure]
              exact map_eq_bind _ _

/-- A candidate that learns from failed ones is what the one answer to it offers. -/
theorem refine_answering (codeContext : String) (failed : List Patch)
    (s : Site (Nat → Reply String)) :
    (refine config answering.host f codeContext failed s).1 =
      if config.useModel && !failed.isEmpty then
        (offer s.files f refinedStrategy (s.rest 0)).map
          (List.map fun p => { p with source := .refinement })
      else .ok [] := by
  unfold refine
  rw [model_answering]
  cases config.useModel with
  | false => rfl
  | true =>
      cases failed with
      | nil => rfl
      | cons p failed =>
          obtain ⟨s₁, hfiles, _, hask⟩ := ask_answering config
            (Prompt.refinement f codeContext (p :: failed)) repairHistory (some 0.5) s
          simp only [if_true, run_bind, hask, List.isEmpty_cons, Bool.not_false, Bool.and_self]
          cases s.rest 0 with
          | raised e => rfl
          | silent => rfl
          | value text =>
              simp only [run_bind, run_pure]
              rw [← hfiles, ← of_reply_answering]
              rcases (ofReply answering.host f refinedStrategy text s₁).1 with e | _ | q <;> rfl

/-- How a run that takes answers depends on them: it comes to given candidates, and after them to
what each answer offers. -/
structure FollowsAnswers (made : List Patch) (count : Nat) (offers : Reply String → List Patch)
    (run : (Nat → Reply String) → Except Failure (List Patch)) : Prop where
  /-- Candidates come of it exactly when each of the answers can be read. -/
  returns : ∀ answers,
    (∃ patches, run answers = .ok patches) ↔ ∀ i < count, ¬(answers i).Unreadable
  candidates : ∀ answers patches, run answers = .ok patches →
    patches = made ++ (List.range count).flatMap fun i => offers (answers i)
  lost : ∀ answers e, run answers = .error e → e.kind = .value
  /-- With an empty reply in the place of an answer that answer's candidates are gone, and the
  others are as they were. -/
  without : ∀ answers, ∀ i < count, (∀ j < count, j ≠ i → ¬(answers j).Unreadable) →
    ∃ before after, run (Function.update answers i (.value "")) = .ok (before ++ after) ∧
      (¬(answers i).Unreadable → run answers = .ok (before ++ offers (answers i) ++ after))

/-- An empty reply can be read. -/
theorem empty_readable : ¬(Reply.value "").Unreadable := by
  intro hbad
  obtain ⟨e, he⟩ := (FixReply.parse_fails_iff (.ofFirstLine "") "" "").mpr hbad
  rw [FixReply.parse_empty] at he
  cases he

theorem FollowsAnswers.of_run {made : List Patch} {count : Nat}
    {offers : Reply String → List Patch}
    {run : (Nat → Reply String) → Except Failure (List Patch)}
    (hreadable : ∀ answers, (∀ i < count, ¬(answers i).Unreadable) →
      run answers = .ok (made ++ (List.range count).flatMap fun i => offers (answers i)))
    (hbad : ∀ answers, (∃ i < count, (answers i).Unreadable) →
      ∃ e, e.kind = .value ∧ run answers = .error e)
    (hempty : offers (.value "") = []) : FollowsAnswers made count offers run := by
  -- whether some answer is unreadable decides how a run ends
  have hcases : ∀ answers : Nat → Reply String,
      (∀ i < count, ¬(answers i).Unreadable) ∨ ∃ i < count, (answers i).Unreadable := by
    intro answers
    by_cases h : ∃ i < count, (answers i).Unreadable
    · exact .inr h
    · exact .inl fun i hi hi' => h ⟨i, hi, hi'⟩
  refine ⟨fun answers => ⟨fun ⟨patches, hrun⟩ => ?_, fun h => ⟨_, hreadable answers h⟩⟩,
    fun answers patches hrun => ?_, fun answers e hrun => ?_, fun answers i hi hothers => ?_⟩
  · refine (hcases answers).resolve_right fun h => ?_
    obtain ⟨e, _, he⟩ := hbad answers h
    cases he.symm.trans hrun
  · rcases hcases answers with h | h
    · exact Except.ok.inj (hrun.symm.trans (hreadable answers h))
    · obtain ⟨e, _, he⟩ := hbad answers h
      cases he.symm.trans hrun
  · rcases hcases answers with h | h
    · cases hrun.symm.trans (hreadable answers h)
    · obtain ⟨e', hkind, he⟩ := hbad answers h
      cases he.symm.trans hrun
      exact hkind
  · -- the answer stands in one place of the list, and the update changes that place alone
    obtain ⟨below, above, hsplit⟩ := List.append_of_mem (List.mem_range.mpr hi)
    have hnodup : (below ++ i :: above).Nodup := hsplit ▸ List.nodup_range
    have hsame : ∀ part : List Nat, i ∉ part →
        (part.flatMap fun j => offers (Function.update answers i (.value "") j)) =
          part.flatMap fun j => offers (answers j) := by
      intro part hpart
      refine List.flatMap_congr fun j hj => ?_
      rw [Function.update_of_ne (ne_of_mem_of_not_mem hj hpart)]
    have hbelow := hsame below fun h =>
      (List.nodup_append.mp hnodup).2.2 i h i List.mem_cons_self rfl
    have habove := hsame above (List.nodup_cons.mp (List.nodup_append.mp hnodup).2.1).1
    refine ⟨made ++ below.flatMap fun j => offers (answers j),
      above.flatMap fun j => offers (answers j), ?_, fun hread => ?_⟩
    · rw [hreadable]
      · rw [hsplit, List.flatMap_append, List.flatMap_cons, hbelow, habove, Function.update_self,
          hempty, List.nil_append, List.append_assoc]
      · intro j hj
        by_cases hji : j = i
        · rw [hji, Function.update_self]
          exact empty_readable
        · rw [Function.update_of_ne hji]
          exact hothers j hj hji
    · rw [hreadable]
      · rw [hsplit, List.flatMap_append, List.flatMap_cons]
        simp only [List.append_assoc]
      · intro j hj
        by_cases hji : j = i
        · exact hji ▸ hread
        · exact hothers j hj hji

/-- Templates fail for no other reason than a priority that no number holds. -/
theorem template_share_ok {registry : Registry}
    (hpriority : ∀ st ∈ registry.strategies, ∃ x : Float, Arithmetic.ofInt st.priority = .ok x)
    (files : FileStore) (task : Task) :
    ∃ made, templateShare config files registry task = .ok made := by
  have hmade : ∀ budget, ∃ made, templatesFrom files registry task budget = .ok made := by
    intro budget
    unfold templatesFrom
    split
    · exact ⟨_, rfl⟩
    split
    · exact ⟨_, rfl⟩
    · exact Template.candidates_ok hpriority _ _ _ _ _ _
  unfold templateShare
  dsimp only
  split
  · exact hmade _
  · exact ⟨_, rfl⟩

/-- Once the templates are made, the candidates of a task depend on the answers to its requests. -/
theorem candidates_follow {registry : Registry} {task : Task} {s : Site (Nat → Reply String)}
    {made : List Patch} (htemplates : templateShare config s.files registry task = .ok made) :
    FollowsAnswers made (requests config task made)
      (offered s.files task.fault FixReply.modelStrategy) fun answers =>
        (candidates config answering.host registry task { s with rest := answers }).1 := by
  have hrun : ∀ answers, ∃ s' : Site (Nat → Reply String), s'.files = s.files ∧
      s'.rest = answers ∧
      (candidates config answering.host registry task { s with rest := answers }).1 =
        (ofRequests config answering.host (Crew.ask Crew.nextAnswer) task.fault
          (Prompt.repair task.fault task.codeContext task.hint) 0 (requests config task made)
          s').1 >>= fun others => pure (made ++ others) := by
    intro answers
    obtain ⟨s', hfiles, hrest, hrun⟩ :=
      candidates_answering config registry task { s with rest := answers }
    exact ⟨s', hfiles, hrest, by rw [hrun, htemplates]; rfl⟩
  refine .of_run (fun answers hread => ?_) (fun answers hbad => ?_) rfl
  · obtain ⟨s', hfiles, hrest, hrun⟩ := hrun answers
    rw [hrun, (of_requests_answering config task.fault _ 0 _ s').1 (hrest ▸ hread), hfiles, hrest]
    rfl
  · obtain ⟨s', _, hrest, hrun⟩ := hrun answers
    obtain ⟨e, hkind, hfails⟩ :=
      (of_requests_answering config task.fault _ 0 _ s').2 (hrest ▸ hbad)
    exact ⟨e, hkind, by rw [hrun, hfails]; rfl⟩

/-- A candidate that learns from failed ones depends on the one answer to its request. -/
theorem refine_follows (codeContext : String) (failed : List Patch)
    (s : Site (Nat → Reply String)) :
    FollowsAnswers [] (if config.useModel && !failed.isEmpty then 1 else 0)
      (fun answer => (offered s.files f refinedStrategy answer).map fun p =>
        { p with source := .refinement })
      fun answers =>
        (refine config answering.host f codeContext failed { s with rest := answers }).1 := by
  refine .of_run (fun answers hread => ?_) (fun answers hbad => ?_) rfl
  · rw [refine_answering]
    cases hasked : config.useModel && !failed.isEmpty with
    | false => rfl
    | true =>
        rw [hasked] at hread
        rw [if_pos rfl, offer_of_readable _ _ _ (hread 0 Nat.zero_lt_one)]
        simp [Except.map]
  · rw [refine_answering]
    cases hasked : config.useModel && !failed.isEmpty with
    | false => simp [hasked] at hbad
    | true =>
        rw [hasked] at hbad
        obtain ⟨i, hi, hbad⟩ := hbad
        obtain rfl : i = 0 := by simpa using hi
        obtain ⟨e, hkind, hoffer⟩ := offer_of_unreadable s.files f refinedStrategy hbad
        exact ⟨e, hkind, by rw [if_pos rfl, hoffer]; rfl⟩

/-- Whatever the model answers, candidates are made as long as the answers that are asked for can be
read, and then an answer adds its own candidates to the others and changes none of them. An answer
that states a fix with a line number that cannot be read is the one thing that spoils them all. -/
theorem candidates_follow_answers (registry : Registry) (task : Task) (codeContext : String)
    (failed : List Patch) (s : Site (Nat → Reply String)) :
    (∀ strategy reply, (∃ found, FixReply.parse f strategy reply = .ok found) ↔
      ¬FixReply.Unreadable reply) ∧
    (∀ strategy answer, (∀ reply p, answer = .value reply →
      FixReply.parse f strategy reply ≠ .ok (some p)) → offered s.files f strategy answer = []) ∧
    ((∀ st ∈ registry.strategies, ∃ x : Float, Arithmetic.ofInt st.priority = .ok x) →
      ∃ made, templateShare config s.files registry task = .ok made) ∧
    (∀ e, templateShare config s.files registry task = .error e → ∀ answers,
      (candidates config answering.host registry task { s with rest := answers }).1 = .error e) ∧
    (∀ made, templateShare config s.files registry task = .ok made →
      FollowsAnswers made (requests config task made)
        (offered s.files task.fault FixReply.modelStrategy) fun answers =>
          (candidates config answering.host registry task { s with rest := answers }).1) ∧
    FollowsAnswers [] (if config.useModel && !failed.isEmpty then 1 else 0)
      (fun answer => (offered s.files f refinedStrategy answer).map fun p =>
        { p with source := .refinement })
      fun answers =>
        (refine config answering.host f codeContext failed { s with rest := answers }).1 := by
  refine ⟨fun strategy reply => ?_, fun strategy answer hunusable => ?_,
    fun hpriority => template_share_ok config hpriority _ _, fun e htemplates answers => ?_,
    fun made htemplates => candidates_follow config htemplates,
    refine_follows config f codeContext failed s⟩
  · rw [← FixReply.parse_fails_iff f strategy reply]
    cases FixReply.parse f strategy reply <;> simp
  · cases answer with
    | value reply =>
        rw [offered, offer]
        rcases hparse : FixReply.parse f strategy reply with e | _ | p
        · rfl
        · rfl
        · exact absurd hparse (hunusable reply p rfl)
    | raised e => rfl
    | silent => rfl
  · obtain ⟨s', _, _, hrun⟩ := candidates_answering config registry task { s with rest := answers }
    rw [hrun, htemplates]
    rfl

/-- A reply whose line number is a superscript. -/
def superscriptReply : String :=
  "<fix><fixed>x</fixed><line_start>²</line_start></fix>"

/-- A superscript looks like a digit and takes no part in numerals. -/
theorem superscript_unreadable : FixReply.Unreadable superscriptReply := by
  refine ⟨"<fixed>x</fixed><line_start>²</line_start>".toList, ['x'], by decide, by decide,
    .inl ?_⟩
  have hdigits : Text.trim ((FixReply.tag? "line_start"
      "<fixed>x</fixed><line_start>²</line_start>".toList).getD []) = ['²'] := rfl
  have hlike : Text.isDigitLike '²' = true := by decide
  have hvalue : Text.isDecimal '²' ≠ true := by decide
  unfold FixReply.Misnumbered
  rw [hdigits]
  exact ⟨List.forall_mem_singleton.mpr hlike, .inl fun hall => hvalue (hall '²' List.mem_cons_self)⟩

theorem fenced_readable : ¬(Reply.value "```\ny\n```").Unreadable := by
  rintro ⟨block, fixed, hblock, _⟩
  cases hblock

/-- A reply whose line number is a superscript loses the candidates of all other replies. -/
theorem superscript_loses_candidates :
    let answers : Nat → Reply String := fun i =>
      if i = 0 then .value superscriptReply else .value "```\ny\n```"
    let run := fun answers => (candidates { useTemplates := false } answering.host .standard
      { fault := .ofFirstLine "a.py" } ⟨(Site.single "a.py" "x = 1\n").files, [], answers⟩).1
    (∀ found, FixReply.parse (.ofFirstLine "a.py") FixReply.modelStrategy superscriptReply ≠
      .ok found) ∧
    (∃ e, run answers = .error e) ∧
    ∃ patches, run (Function.update answers 0 (.value "")) = .ok patches := by
  intro answers run
  have hfollows : FollowsAnswers [] 5 _ run :=
    @candidates_follow { useTemplates := false } .standard { fault := .ofFirstLine "a.py" }
      ⟨(Site.single "a.py" "x = 1\n").files, [], answers⟩ [] rfl
  refine ⟨fun found hparse => ?_, ?_, (hfollows.returns _).mpr fun i _ => ?_⟩
  · obtain ⟨e, he⟩ := (FixReply.parse_fails_iff (.ofFirstLine "a.py") FixReply.modelStrategy
      superscriptReply).mpr superscript_unreadable
    cases he.symm.trans hparse
  · cases hrun : run answers with
    | error e => exact ⟨e, rfl⟩
    | ok patches =>
        exact absurd superscript_unreadable
          ((hfollows.returns answers).mp ⟨patches, hrun⟩ 0 (by omega))
  · cases i with
    | zero => exact empty_readable
    | succ i => exact fenced_readable

end Generate

end Mender
