import Mathlib.Algebra.Group.Nat.Defs
import Mender.Proofs.Host.Talk
import Mender.Proofs.Repair.Provenance
import Mender.Proofs.Repair.Replies
import Mender.Proofs.Repair.Templates
import Mender.Proofs.Strategy.Priority

/-!
# The budget of candidates

Candidates for a fault are made within a budget. With a model half of it is for strategies, and the
model is asked as often as room is left after them. `Generate.candidates_within_budget` says, for
every crew, what is made of the budget, and what alone can keep candidates from being made.
-/

namespace Mender

/-- The exchange that a request to the model is, with its reply. -/
def Exchange.ofAnswer (x : Request × Reply String) : Exchange :=
  .model x.1 x.2

namespace Crew

variable {E : Type} (c : Crew E)

/-- A read fails for another reason than that the file cannot be read. -/
def ReadBreaks (e : Failure) : Prop :=
  ∃ path s, (c.readFault path s).1 = some e ∧ e.isUnreadable = false

/-- A candidate is one that was stated, with the texts that it replaces filled in. -/
def Completes (files : FileStore) (stated p : Patch) : Prop :=
  ∃ changes, List.Forall₂ (c.Filled files) stated.changes changes ∧ p = { stated with changes }

end Crew

namespace Generate

variable {E : Type} {c : Crew E} {files : FileStore}

/-- The candidate that an answer of the model states, if it states one. -/
def stated? (f : Fault) (x : Request × Reply String) : Option Patch :=
  match x.2 with
  | .value text => (FixReply.parse f FixReply.modelStrategy text).toOption.join
  | _ => none

/-- What the fixes of strategies for a task look at. -/
def Task.fixContext (task : Task) (line : String) : FixContext :=
  ⟨task.fault, task.codeContext, languageOf task.fault.location.file, line⟩

/-- The strategies to try for a task, in their order. -/
def Task.order (task : Task) (registry : Registry) : List Strategy :=
  registry.prioritize task.fault task.codeContext task.learned

/-- The candidates are those of the first strategies that have something left to make of a line, as
many as a share of the budget allows. -/
def Task.Takes (task : Task) (registry : Registry) (share : Int) (line : String)
    (made : List Patch) : Prop :=
  List.Forall₂ (Template.Rewrites (task.fixContext line))
    ((Template.untried (task.fixContext line) task.tried (task.order registry)).take share.toNat)
    made

/-- What strategies make for a task: candidates of strategies that fit the fault, one each and in
their order, within a share of the budget. Each of them puts something else in the place of the line
of the fault, and none was tried before. -/
structure MadeByStrategies (files : FileStore) (registry : Registry) (task : Task) (share : Int)
    (made : List Patch) : Prop where
  within : (made.length : Int) ≤ max share 0
  source : ∀ p ∈ made, p.source = .template
  order : (made.map (·.strategy)).Sublist ((task.order registry).map (·.id))
  distinct : (made.map (·.strategy)).Nodup
  untried : ∀ p ∈ made, p.key ∉ task.tried
  rewrites : ∀ p ∈ made, ∃ content line new,
    files task.fault.location.file = some content ∧
    Template.lineAt? content task.fault.location.line = some line ∧ new ≠ line ∧
    p.changes = [⟨task.fault.location.file, task.fault.location.line, task.fault.location.line,
      line, new⟩]

/-- What is known of requests to the model between two states: their replies, the candidates that
were made of them, and why there are none otherwise. -/
structure Asked (c : Crew E) (f : Fault) (count : Nat) (asked : List (Request × Reply String))
    (s s' : Site E) (made : Except Failure (List Patch)) : Prop where
  files : s'.files = s.files
  talk : s'.talk = s.talk ++ asked.map Exchange.ofAnswer
  count : ∀ others, made = .ok others → asked.length = count
  offers : ∀ others, made = .ok others →
    List.Forall₂ (c.Completes s.files) (asked.filterMap (stated? f)) others
  fails : ∀ e, made = .error e →
    c.ReadBreaks e ∨ e.kind = .value ∧ ∃ x ∈ asked, x.2.Unreadable

/-- A file that is there is read unless its read fails, and other failures than that it cannot be
read are passed on. -/
theorem readable_eq (path : String) (s : Site E) :
    (c.host.readable path s).1 = match (c.read path s).1 with
      | .ok text => .ok (some text)
      | .error e => if e.isUnreadable then .ok none else .error e := by
  simp only [Host.readable, Crew.host, run_bind]
  cases (c.read path s).1 <;> rfl

theorem readable_breaks (path : String) (s : Site E) {e : Failure}
    (h : (c.host.readable path s).1 = .error e) : c.ReadBreaks e := by
  rw [readable_eq, Crew.read] at h
  dsimp only at h
  cases hfault : (c.readFault path s).1 with
  | none =>
      cases hfile : s.files path <;>
        simp [hfault, hfile, missingKey, Failure.isUnreadable] at h
  | some e' =>
      simp only [hfault] at h
      split at h
      · cases h
      · rename_i hbroken
        cases h
        exact ⟨path, s, hfault, by simpa using hbroken⟩

theorem fill_replaced_breaks (change : Change) (s : Site E) {e : Failure}
    (h : (fillReplaced c.host change s).1 = .error e) : c.ReadBreaks e := by
  unfold fillReplaced at h
  split at h
  · cases h
  · rw [run_bind] at h
    cases hread : (c.host.readable change.file s).1 with
    | error e' =>
        rw [hread] at h
        cases h
        exact readable_breaks _ _ hread
    | ok content =>
        rw [hread] at h
        cases content <;> cases h

theorem fill_replaceds_breaks (changes : List Change) (s : Site E) {e : Failure}
    (h : (fillReplaceds c.host changes s).1 = .error e) : c.ReadBreaks e := by
  induction changes generalizing s with
  | nil => cases h
  | cons change changes ih =>
      rw [fillReplaceds, run_bind] at h
      cases hfirst : (fillReplaced c.host change s).1 with
      | error e' =>
          rw [hfirst] at h
          cases h
          exact fill_replaced_breaks _ _ hfirst
      | ok filled =>
          rw [hfirst] at h
          exact ih _ (map_eq_error h)

/-- The candidate of a reply is the one that it states, completed, unless a read breaks. -/
theorem of_reply_completes (f : Fault) (strategy reply : String) {stated : Patch} (s : Site E)
    (hparse : FixReply.parse f strategy reply = .ok (some stated)) :
    (∃ p, (ofReply c.host f strategy reply s).1 = .ok (some p) ∧ c.Completes s.files stated p) ∨
      ∃ e, (ofReply c.host f strategy reply s).1 = .error e ∧ c.ReadBreaks e := by
  have hrun : (ofReply c.host f strategy reply s).1 =
      (fillReplaceds c.host stated.changes s).1.map fun changes =>
        some { stated with changes } := by
    rw [ofReply, hparse]
    rfl
  rw [hrun]
  cases hfilled : (fillReplaceds c.host stated.changes s).1 with
  | error e => exact .inr ⟨e, rfl, fill_replaceds_breaks _ _ hfilled⟩
  | ok changes =>
      exact .inl ⟨_, rfl, changes, (fill_replaceds_answers stated.changes s rfl).2 _ hfilled, rfl⟩

/-- An answer that states no candidate makes none, and one that cannot be read is a failure. -/
theorem of_reply_unstated (f : Fault) (reply : String) (request : Request) (s : Site E)
    (hnone : stated? f (request, .value reply) = none) :
    (ofReply c.host f FixReply.modelStrategy reply s).1 = .ok none ∨
      ∃ e, (ofReply c.host f FixReply.modelStrategy reply s).1 = .error e ∧ e.kind = .value ∧
        FixReply.Unreadable reply := by
  rw [ofReply]
  rw [stated?] at hnone
  rcases hparse : FixReply.parse f FixReply.modelStrategy reply with e | _ | p
  · exact .inr ⟨e, rfl, FixReply.parse_error_kind hparse,
      (FixReply.parse_fails_iff f _ reply).mp ⟨e, hparse⟩⟩
  · exact .inl rfl
  · simp [hparse, Except.toOption] at hnone

/-- Asking the model has the answer of the crew, as far as it is a value. -/
theorem ask_crew (config : RepairConfig) (answer : Request → Site E → Reply String × E)
    (prompt : String) (history : List Turn) (temperature : Option Float) (s : Site E) :
    ask config (Crew.ask answer) prompt history temperature s =
      (match (answer ⟨prompt, history, temperature⟩ s).1 with
        | .value text => some text
        | _ => none, (Crew.ask answer ⟨prompt, history, temperature⟩ s).2) := by
  rw [ask, run_bind]
  obtain ⟨text, hvalue, hrun⟩ | ⟨hnone, e, hrun⟩ := bounded_eq config.generationTimeout
    generationTimeout (Crew.ask answer ⟨prompt, history, temperature⟩) s
  · rw [hrun, show (answer ⟨prompt, history, temperature⟩ s).1 = .value text from hvalue]
    rfl
  · rw [hrun]
    cases hanswer : (answer ⟨prompt, history, temperature⟩ s).1 with
    | value text => exact absurd hanswer (hnone text)
    | raised e => rfl
    | silent => rfl

namespace Asked

variable {f : Fault} {count : Nat} {asked : List (Request × Reply String)}
  {x : Request × Reply String} {s s₁ s' : Site E}

/-- What comes of a request comes before what comes of those after it. -/
theorem cons {made : Except Failure (List Patch)} {first : List Patch}
    (hfiles : s₁.files = s.files) (htalk : s₁.talk = s.talk ++ [.ofAnswer x])
    (hfirst : List.Forall₂ (c.Completes s.files) (stated? f x).toList first)
    (h : Asked c f count asked s₁ s' made) :
    Asked c f (count + 1) (x :: asked) s s' (made.map (first ++ ·)) where
  files := h.files.trans hfiles
  talk := by rw [h.talk, htalk, List.append_assoc, List.map_cons, List.singleton_append]
  count others hall := by
    obtain ⟨rest, hrest, _⟩ := map_eq_ok hall
    rw [List.length_cons, h.count rest hrest]
  offers others hall := by
    obtain ⟨rest, hrest, rfl⟩ := map_eq_ok hall
    have hmore := hfiles ▸ h.offers rest hrest
    have hsplit : (x :: asked).filterMap (stated? f) =
        (stated? f x).toList ++ asked.filterMap (stated? f) := by
      rw [List.filterMap_cons]
      cases stated? f x <;> rfl
    rw [hsplit]
    exact List.rel_append hfirst hmore
  fails e hall := by
    refine (h.fails e (map_eq_error hall)).imp_right fun ⟨hkind, y, hy, hbad⟩ => ?_
    exact ⟨hkind, y, List.mem_cons_of_mem _ hy, hbad⟩

/-- A request that states no candidate adds none. -/
theorem skip {made : Except Failure (List Patch)} (hfiles : s₁.files = s.files)
    (htalk : s₁.talk = s.talk ++ [.ofAnswer x]) (hnone : stated? f x = none)
    (h : Asked c f count asked s₁ s' made) : Asked c f (count + 1) (x :: asked) s s' made := by
  have hfirst : List.Forall₂ (c.Completes s.files) (stated? f x).toList [] := by
    rw [hnone]
    exact .nil
  have hmade : made.map ([] ++ ·) = made := by cases made <;> rfl
  exact hmade ▸ h.cons hfiles htalk hfirst

/-- Where a reply cannot be made a candidate of, no more requests are made. -/
theorem stop {e : Failure} (hfiles : s'.files = s.files) (htalk : s'.talk = s.talk ++ [.ofAnswer x])
    (hfails : c.ReadBreaks e ∨ e.kind = .value ∧ x.2.Unreadable) :
    Asked c f count [x] s s' (.error e) where
  files := hfiles
  talk := htalk
  count := by rintro _ ⟨⟩
  offers := by rintro _ ⟨⟩
  fails := by
    rintro _ ⟨⟩
    exact hfails.imp_right fun ⟨hkind, hbad⟩ => ⟨hkind, x, List.mem_singleton_self x, hbad⟩

end Asked

/-- Requests are made one after another, until a reply cannot be made a candidate of. -/
theorem of_requests_asked (config : RepairConfig) (f : Fault)
    (answer : Request → Site E → Reply String × E) (prompt : String) (number count : Nat)
    (s : Site E) :
    ∃ asked, Asked c f count asked s
      (ofRequests config c.host (Crew.ask answer) f prompt number count s).2
      (ofRequests config c.host (Crew.ask answer) f prompt number count s).1 := by
  induction count generalizing number s with
  | zero =>
      refine ⟨[], rfl, (List.append_nil _).symm, ?_, ?_, by rintro _ ⟨⟩⟩
      · rintro _ ⟨⟩
        rfl
      · rintro _ ⟨⟩
        exact .nil
  | succ count ih =>
      let request : Request := ⟨prompt, repairHistory, some (temperature number)⟩
      have hfiles : (Crew.ask answer request s).2.files = s.files := rfl
      have htalk : ∀ reply, (answer request s).1 = reply →
          (Crew.ask answer request s).2.talk = s.talk ++ [.ofAnswer (request, reply)] := by
        rintro _ rfl
        simp [Crew.ask, Exchange.isTalk, Exchange.ofAnswer]
      rw [ofRequests, run_bind, ask_crew]
      cases hreply : (answer request s).1 with
      -- A request without an answer is made up for by none of those after it.
      | raised e | silent =>
          obtain ⟨asked, h⟩ := ih (number + 1) (Crew.ask answer request s).2
          exact ⟨_, h.skip hfiles (htalk _ hreply) rfl⟩
      | value text =>
          let s₁ := (Crew.ask answer request s).2
          let s₂ := (ofReply c.host f FixReply.modelStrategy text s₁).2
          have hquiet : Site.Quiet s₁ s₂ :=
            (of_reply_yields c.reads_quiet f FixReply.modelStrategy text s₁).1
          have htold : s₂.talk = s.talk ++ [.ofAnswer (request, .value text)] :=
            hquiet.talk.trans (htalk _ hreply)
          dsimp only
          rw [run_bind]
          cases hstated : stated? f (request, .value text) with
          | none =>
              obtain hmade | ⟨e, hmade, hkind, hbad⟩ := of_reply_unstated f text request s₁ hstated
              · obtain ⟨asked, h⟩ := ih (number + 1) s₂
                rw [hmade]
                refine ⟨_, (h.cons hquiet.files htold ?_)⟩
                rw [hstated]
                exact .nil
              · rw [hmade]
                exact ⟨_, .stop hquiet.files htold (.inr ⟨hkind, hbad⟩)⟩
          | some stated =>
              have hparse : FixReply.parse f FixReply.modelStrategy text = .ok (some stated) := by
                rcases hparse : FixReply.parse f FixReply.modelStrategy text with e | _ | p <;>
                  simp [stated?, hparse, Except.toOption] at hstated
                rw [hstated]
              obtain ⟨p, hmade, hp⟩ | ⟨e, hmade, hbroken⟩ :=
                of_reply_completes f FixReply.modelStrategy text s₁ hparse
              · obtain ⟨asked, h⟩ := ih (number + 1) s₂
                rw [hmade]
                refine ⟨_, (h.cons hquiet.files htold ?_)⟩
                rw [hstated]
                exact .cons hp .nil
              · rw [hmade]
                exact ⟨_, .stop hquiet.files htold (.inl hbroken)⟩

/-- Without candidates there is nothing to say of them. -/
theorem MadeByStrategies.nil (files : FileStore) (registry : Registry) (task : Task)
    (share : Int) : MadeByStrategies files registry task share [] :=
  ⟨Int.le_max_right _ _, by simp, by simp, by simp, by simp, by simp⟩

section Templates

variable {registry : Registry} (hids : registry.ids.Nodup) {task : Task} {share : Int}
  {made : List Patch}

include hids

theorem MadeByStrategies.of_takes {content line : String}
    (hfile : files task.fault.location.file = some content)
    (hline : Template.lineAt? content task.fault.location.line = some line)
    (h : task.Takes registry share line made) :
    MadeByStrategies files registry task share made := by
  have hfrom : ∀ p ∈ made, ∃ x,
      Template.newLine? (task.fixContext line) task.tried x.1 = some x.2 ∧
      Template.Rewrites (task.fixContext line) x p := by
    intro p hp
    obtain ⟨x, hx, hrewrites⟩ := exists_of_forall₂ h hp
    exact ⟨x, (Template.mem_untried.mp (List.mem_of_mem_take hx)).2, hrewrites⟩
  -- Order and distinctness are those of the strategies that fit.
  have hstrategies : made.map (·.strategy) =
      (((Template.untried (task.fixContext line) task.tried (task.order registry)).take
        share.toNat).map (·.1)).map (·.id) := by
    rw [List.map_map, ← List.forall₂_eq_eq_eq, List.forall₂_map_left_iff,
      List.forall₂_map_right_iff]
    exact h.flip.imp fun p x hrewrites => hrewrites.strategy
  have horder : (made.map (·.strategy)).Sublist ((task.order registry).map (·.id)) := by
    rw [hstrategies]
    exact (((List.take_sublist _ _).map _).trans (Template.untried_sublist _ _ _)).map _
  refine ⟨?_, fun p hp => ?_, horder, horder.nodup (Registry.prioritize_ids_nodup hids),
    fun p hp => ?_, fun p hp => ?_⟩
  · have hlength := h.length_eq
    rw [List.length_take] at hlength
    omega
  · obtain ⟨x, _, hrewrites⟩ := hfrom p hp
    exact hrewrites.source
  · obtain ⟨x, hnew, hrewrites⟩ := hfrom p hp
    rw [hrewrites.key]
    exact Template.untried_of_new_line hnew
  · obtain ⟨x, hnew, hrewrites⟩ := hfrom p hp
    exact ⟨content, line, x.2, hfile, hline,
      Template.option_ne (Template.mem_options_of_new_line hnew), hrewrites.changes⟩

/-- Strategies take from a line what they make of it. -/
theorem takes_of_candidates {line : String}
    (h : Template.candidates registry task.fault task.codeContext line share task.learned
      task.tried = .ok made) : task.Takes registry share line made :=
  Template.of_strategies_rewrite (Registry.prioritize_ids_nodup hids) (lift_number_eq_ok h)

omit hids in
/-- Templates are made of the line of the fault, if the file can be read and has one. -/
theorem templates_eq (s : Site E) :
    (templates c.host registry task share s).1 =
      if share ≤ 0 then .ok []
      else (c.host.readable task.fault.location.file s).1 >>= fun content =>
        match content.bind (Template.lineAt? · task.fault.location.line) with
        | none => .ok []
        | some line => Template.candidates registry task.fault task.codeContext line share
          task.learned task.tried := by
  rw [templates]
  split
  · rfl
  · rw [run_bind]
    cases (c.host.readable task.fault.location.file s).1 with
    | error e => rfl
    | ok content =>
        dsimp only
        cases hline : content.bind (Template.lineAt? · task.fault.location.line) <;>
          simp [hline, run_pure, bind, Except.bind]

theorem made_by_templates {s : Site E}
    (h : (templates c.host registry task share s).1 = .ok made) :
    MadeByStrategies s.files registry task share made := by
  rw [templates_eq] at h
  split at h
  · cases h
    exact .nil _ _ _ _
  · obtain ⟨found, hread, h⟩ := bind_eq_ok h
    cases hline : found.bind (Template.lineAt? · task.fault.location.line) with
    | none =>
        rw [hline] at h
        cases h
        exact .nil _ _ _ _
    | some line =>
        rw [hline] at h
        obtain ⟨content, rfl, hat⟩ := Option.bind_eq_some_iff.mp hline
        have hfile := (readable_answers task.fault.location.file s rfl).2.1 content hread
        exact .of_takes hids hfile hat (takes_of_candidates hids h)

omit hids in
/-- With something of the budget for them, templates are what strategies make of the line of the
fault, in a file that is read. -/
theorem templates_of_read {s : Site E} {content line : String} (hshare : 0 < share)
    (hread : (c.read task.fault.location.file s).1 = .ok content)
    (hline : Template.lineAt? content task.fault.location.line = some line) :
    (templates c.host registry task share s).1 =
      Template.candidates registry task.fault task.codeContext line share task.learned
        task.tried := by
  have hat : (some content).bind (Template.lineAt? · task.fault.location.line) = some line := hline
  rw [templates_eq, if_neg (by omega), readable_eq, hread]
  simp only [bind, Except.bind, hat]

theorem takes_of_read {s : Site E} {content line : String}
    (hread : (c.read task.fault.location.file s).1 = .ok content)
    (hline : Template.lineAt? content task.fault.location.line = some line)
    (h : (templates c.host registry task share s).1 = .ok made) :
    task.Takes registry share line made := by
  rcases Int.lt_or_le 0 share with hshare | hnone
  · rw [templates_of_read hshare hread hline] at h
    exact takes_of_candidates hids h
  · rw [templates_eq, if_pos hnone] at h
    cases h
    rw [Task.Takes, Int.toNat_of_nonpos hnone, List.take_zero]
    exact .nil

omit hids in
/-- Templates fail when a read breaks, or when the priority of a strategy does not count. -/
theorem templates_fail {s : Site E} {e : Failure}
    (h : (templates c.host registry task share s).1 = .error e) : c.ReadBreaks e ∨
      ∃ st ∈ task.order registry, ¬st.Weighed := by
  rw [templates_eq] at h
  split at h
  · cases h
  cases hread : (c.host.readable task.fault.location.file s).1 with
  | error e' =>
      rw [hread] at h
      cases h
      exact .inl (readable_breaks _ _ hread)
  | ok found =>
      rw [hread] at h
      cases hline : found.bind (Template.lineAt? · task.fault.location.line) with
      | none => simp [hline, bind, Except.bind] at h
      | some line =>
          simp only [hline, bind, Except.bind] at h
          exact .inr (Template.candidates_error h)

end Templates

/-- The candidate that an answer states is a model's. -/
theorem stated_source {f : Fault} {x : Request × Reply String} {p : Patch}
    (h : stated? f x = some p) : p.source = .model := by
  obtain ⟨request, text | e | _⟩ := x
  · rcases hparse : FixReply.parse f FixReply.modelStrategy text with e | _ | q <;>
      simp only [stated?, hparse, Except.toOption, Option.join_none, Option.join_some,
        reduceCtorEq] at h
    cases h
    exact (FixReply.parse_offers hparse).1
  · cases h
  · cases h

theorem Completes.source {stated p : Patch} (h : c.Completes files stated p) :
    p.source = stated.source := by
  obtain ⟨changes, _, rfl⟩ := h
  rfl

/-- How many candidates may be made for a task. -/
def Task.total (task : Task) (config : RepairConfig) : Int :=
  task.budget.getD config.maxCandidates

/-- The model of a crew, if it has one, may be asked for candidates. -/
def asks (config : RepairConfig) (c : Crew E) : Bool :=
  config.useModel && c.model?.isSome

/-- How many of the candidates for a task may be those of strategies. -/
def Task.share (task : Task) (config : RepairConfig) (c : Crew E) : Int :=
  if asks config c then task.total config / 2 else task.total config

/-- Strategies see a line as that of the fault. -/
def Task.Sees (task : Task) (config : RepairConfig) (c : Crew E) (s : Site E) (line : String) :
    Prop :=
  config.useTemplates = true ∧ ∃ content, (c.read task.fault.location.file s).1 = .ok content ∧
    Template.lineAt? content task.fault.location.line = some line

/-- Candidates for a task are made within its budget: those of strategies, which take their share of
it, and after them those that the model stated in its answers to as many requests as there was room
for. -/
structure WithinBudget (c : Crew E) (config : RepairConfig) (registry : Registry) (task : Task)
    (s : Site E) (asked : List (Request × Reply String)) (made others : List Patch) : Prop where
  within : ((made ++ others).length : Int) ≤ max (task.total config) 0
  templates : MadeByStrategies s.files registry task (task.share config c) made
  takes : ∀ line, task.Sees config c s line →
    task.Takes registry (task.share config c) line made
  requests : (asked.length : Int) =
    if asks config c then max (task.total config - made.length) 0 else 0
  source : ∀ p ∈ others, p.source = .model
  answered : List.Forall₂ (c.Completes s.files) (asked.filterMap (stated? task.fault)) others

variable {config : RepairConfig} {registry : Registry} {task : Task}

theorem WithinBudget.of_parts {s : Site E} {asked : List (Request × Reply String)}
    {made others : List Patch}
    (hmade : MadeByStrategies s.files registry task (task.share config c) made)
    (htakes : ∀ line, task.Sees config c s line →
      task.Takes registry (task.share config c) line made)
    (hasked : (asked.length : Int) =
      if asks config c then max (task.total config - made.length) 0 else 0)
    (hothers : List.Forall₂ (c.Completes s.files) (asked.filterMap (stated? task.fault)) others) :
    WithinBudget c config registry task s asked made others := by
  refine ⟨?_, hmade, htakes, hasked, fun p hp => ?_, hothers⟩
  · have hwithin := hmade.within
    have hfewer : others.length ≤ asked.length :=
      hothers.length_eq ▸ List.length_filterMap_le _ _
    rw [List.length_append]
    unfold Task.share at hwithin
    cases hasks : asks config c <;>
      simp only [hasks, Bool.false_eq_true, if_false, if_true] at hwithin hasked <;> omega
  · obtain ⟨stated, hstated, hcompletes⟩ := exists_of_forall₂ hothers hp
    obtain ⟨x, _, hx⟩ := List.mem_filterMap.mp hstated
    rw [Completes.source hcompletes, stated_source hx]

/-- What can prevent candidates: a read that breaks, an answer that cannot be read, or a priority
that is none of the documented ones and cannot be counted in a confidence. -/
def Prevents (c : Crew E) (registry : Registry) (task : Task)
    (asked : List (Request × Reply String)) (e : Failure) : Prop :=
  c.ReadBreaks e ∨ (e.kind = .value ∧ ∃ x ∈ asked, x.2.Unreadable) ∨
    ∃ st ∈ task.order registry, ¬st.Documented ∧ ¬st.Weighed

/-- The candidates of strategies for a task, if there are to be any. -/
def templatePart (config : RepairConfig) (c : Crew E) (registry : Registry) (task : Task) :
    StateM (Site E) (Except Failure (List Patch)) :=
  if config.useTemplates then templates c.host registry task (task.share config c)
  else pure (.ok [])

theorem template_part_quiet : Keeps Site.Quiet (templatePart config c registry task) := by
  unfold templatePart
  split
  · exact fun s => (templates_yields c.reads_quiet registry task _ s).1
  · exact .pure _

theorem template_part_made (hids : registry.ids.Nodup) {s : Site E} {made : List Patch}
    (h : (templatePart config c registry task s).1 = .ok made) :
    MadeByStrategies s.files registry task (task.share config c) made ∧
      ∀ line, task.Sees config c s line →
        task.Takes registry (task.share config c) line made := by
  unfold templatePart at h
  split at h
  · refine ⟨made_by_templates hids h, ?_⟩
    rintro line ⟨_, content, hread, hline⟩
    exact takes_of_read hids hread hline h
  · rename_i hoff
    cases h
    exact ⟨.nil _ _ _ _, fun line hsees => absurd hsees.1 hoff⟩

theorem template_part_fails {s : Site E} {e : Failure}
    (h : (templatePart config c registry task s).1 = .error e) : c.ReadBreaks e ∨
      ∃ st ∈ task.order registry, ¬st.Weighed := by
  unfold templatePart at h
  split at h
  · exact templates_fail h
  · cases h

/-- Strategies come first, and then the model, if there is one. -/
theorem candidates_eq (config : RepairConfig) (registry : Registry) (task : Task) :
    candidates config c.host registry task = templatePart config c registry task >>= fun made =>
      match made, model? config c.host with
      | .ok made, some model => do
        let prompt := Prompt.repair task.fault task.codeContext task.hint
        let room := (task.total config - made.length).toNat
        return (← ofRequests config c.host model task.fault prompt 0 room).map (made ++ ·)
      | made, _ => return made := by
  have hasks : (model? config c.host).isSome = asks config c := by
    unfold model? asks
    cases config.useModel <;> simp [Crew.host]
  unfold candidates templatePart Task.share
  rw [← hasks]
  cases config.useTemplates with
  | true =>
    refine congrArg (bind (templates c.host registry task _)) (funext fun made => ?_)
    rcases made with e | made <;> cases model? config c.host
    all_goals rfl
  | false =>
    refine congrArg (bind (pure (Except.ok []))) (funext fun made => ?_)
    rcases made with e | made <;> cases model? config c.host
    all_goals rfl

theorem model_crew (config : RepairConfig) (c : Crew E) :
    model? config c.host = none ∧ asks config c = false ∨
      ∃ answer, model? config c.host = some (Crew.ask answer) ∧ asks config c = true := by
  unfold model? asks
  cases config.useModel <;> cases hmodel : c.model? <;> simp [Crew.host, hmodel]

/-- Candidates for a task are made within its budget, over a registry that any operations have led
to and whatever the collaborators do. What can prevent them is a read that breaks, an answer that
cannot be read, or a priority that is none of the documented ones, and nothing else. -/
theorem candidates_within_budget (c : Crew E) (config : RepairConfig)
    (ops : List Registry.Operation) (task : Task) (s : Site E) :
    let registry := Registry.ofOperations ops
    let run := candidates config c.host registry task s
    run.2.files = s.files ∧ ∃ asked, run.2.talk = s.talk ++ asked.map Exchange.ofAnswer ∧
      (∀ pool, run.1 = .ok pool → ∃ made others, pool = made ++ others ∧
        WithinBudget c config registry task s asked made others) ∧
      ∀ e, run.1 = .error e → Prevents c registry task asked e := by
  intro registry run
  have hids : registry.ids.Nodup := Registry.ids_nodup ops
  have hquiet : Site.Quiet s (templatePart config c registry task s).2 := template_part_quiet s
  have hrun : run = _ := congrFun (candidates_eq config registry task) s
  rw [run_bind] at hrun
  cases hpart : (templatePart config c registry task s).1 with
  | error e =>
      rw [hpart] at hrun
      rw [hrun]
      refine ⟨hquiet.files, [], hquiet.talk.trans (List.append_nil _).symm, by rintro _ ⟨⟩, ?_⟩
      rintro _ ⟨⟩
      refine (template_part_fails hpart).imp_right fun ⟨st, hst, hheavy⟩ => .inr ?_
      exact ⟨st, hst, mt Strategy.Documented.weighed hheavy, hheavy⟩
  | ok made =>
      obtain ⟨hmade, htakes⟩ := template_part_made hids hpart
      rw [hpart] at hrun
      obtain ⟨hmodel, hasks⟩ | ⟨answer, hmodel, hasks⟩ := model_crew config c
      · rw [hmodel] at hrun
        rw [hrun]
        refine ⟨hquiet.files, [], hquiet.talk.trans (List.append_nil _).symm, ?_,
          by rintro _ ⟨⟩⟩
        rintro _ ⟨⟩
        exact ⟨made, [], (List.append_nil _).symm, .of_parts hmade htakes (by simp [hasks]) .nil⟩
      · rw [hmodel] at hrun
        -- the model is asked for what the strategies left of the budget
        let s₁ := (templatePart config c registry task s).2
        obtain ⟨asked, h⟩ := of_requests_asked (c := c) config task.fault answer
          (Prompt.repair task.fault task.codeContext task.hint) 0
          (task.total config - made.length).toNat s₁
        rw [hrun]
        refine ⟨h.files.trans hquiet.files, asked, ?_, fun pool hpool => ?_, fun e hfails => ?_⟩
        · exact h.talk.trans (by rw [hquiet.talk])
        · obtain ⟨others, hothers, rfl⟩ := map_eq_ok hpool
          refine ⟨made, others, rfl, .of_parts hmade htakes ?_ ?_⟩
          · rw [h.count others hothers, if_pos hasks, Int.toNat_eq_max]
          · exact hquiet.files ▸ h.offers others hothers
        · exact (h.fails e (map_eq_error hfails)).imp_right .inl

end Generate

end Mender
