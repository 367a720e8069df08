import Mender.Proofs.Failure
import Mender.Proofs.Host.Keeps
import Mender.Repair.Generate

/-!
# What making candidates does

Making candidates reads files and asks the model, and so keeps every relation between states that
these two keep. A property holds of all candidates of a task when it holds of each that a template
or a reply makes (`Generate.candidates_made`). The candidates have not been validated.
-/

namespace Mender

/-- The text of a range of lines, as candidates record it. -/
def rangeText (content : String) (first last : Int) : String :=
  String.ofList (Text.joinText ['\n'] (window (first - 1) last (Text.lines content.toList)))

/-- The candidates that were made, if they were, have a property. -/
def Made (P : Patch → Prop) (made : Except Failure (List Patch)) : Prop :=
  ∀ patches, made = .ok patches → ∀ p ∈ patches, P p

section Made

variable {P : Patch → Prop}

theorem Made.nil : Made P (.ok []) := by
  rintro _ ⟨⟩
  simp

theorem Made.error (e : Failure) : Made P (.error e) := by
  rintro _ ⟨⟩

/-- Candidates before and after one another. -/
theorem Made.append {first : List Patch} {others : Except Failure (List Patch)}
    (hfirst : ∀ p ∈ first, P p) (hothers : Made P others) : Made P (others.map (first ++ ·)) := by
  intro patches hall p hp
  obtain ⟨rest, hrest, rfl⟩ := map_eq_ok hall
  rcases List.mem_append.mp hp with hp | hp
  · exact hfirst p hp
  · exact hothers rest hrest p hp

end Made

/-- The candidates that were made, if they were, have not been validated. -/
def Fresh (made : Except Failure (List Patch)) : Prop :=
  ∀ patches, made = .ok patches → ∀ p ∈ patches, p.validated = false

namespace FixReply

/-- The candidate of a reply is a model's, has one change and has not been validated. -/
theorem parse_offers {f : Fault} {strategy reply : String} {p : Patch}
    (h : parse f strategy reply = .ok (some p)) :
    p.source = .model ∧ p.validated = false ∧ ∃ change, p.changes = [change] := by
  unfold parse at h
  split at h
  · obtain ⟨code, _, rfl⟩ := Option.map_eq_some_iff.mp (Except.ok.inj h)
    exact ⟨rfl, rfl, _, rfl⟩
  · split at h
    · cases h
    · obtain ⟨_, htags, heq⟩ := map_eq_ok h
      obtain ⟨first, _, hrest⟩ := bind_eq_ok htags
      obtain ⟨last, _, hmade⟩ := bind_eq_ok hrest
      cases heq
      cases hmade
      exact ⟨rfl, rfl, _, rfl⟩

end FixReply

/-- The strategies that fit a fault are registered. -/
theorem Registry.mem_of_mem_prioritize {r : Registry} {f : Fault} {codeContext : String}
    {learned : Option String} {st : Strategy} (h : st ∈ r.prioritize f codeContext learned) :
    st ∈ r.strategies := by
  have hranked : ∀ st ∈ (r.ranked f codeContext learned).map (·.1), st ∈ r.strategies := by
    intro st hst
    obtain ⟨scored, hscored, rfl⟩ := List.mem_map.mp hst
    obtain ⟨st, hregistered, rfl⟩ :=
      List.mem_map.mp (List.mem_filter.mp (List.mem_mergeSort.mp hscored)).1
    exact hregistered
  unfold prioritize at h
  dsimp only at h
  split at h
  · rename_i learnt hlearnt
    obtain ⟨id, _, hget⟩ := Option.bind_eq_some_iff.mp hlearnt
    rcases List.mem_cons.mp h with rfl | hother
    · exact List.mem_of_find?_eq_some hget
    · exact hranked _ (List.mem_filter.mp hother).1
  · exact hranked _ h

namespace Template

theorem patch_fresh {registry : Registry} {ctx : FixContext} {s : Strategy} {new : String}
    {p : Patch} (h : patch registry ctx s new = .ok p) : p.validated = false := by
  obtain ⟨trust, _, hmade⟩ := bind_eq_ok h
  cases hmade
  rfl

/-- What holds of each candidate that a strategy makes holds of all candidates of strategies. -/
theorem of_strategies_forall {P : Patch → Prop} {registry : Registry} {ctx : FixContext}
    {tried : List (String × String)} {budget : Nat} {strategies : List Strategy}
    (hpatch : ∀ s ∈ strategies, ∀ new p, patch registry ctx s new = .ok p → P p)
    {patches : List Patch} (h : ofStrategies registry ctx tried budget strategies = .ok patches) :
    ∀ p ∈ patches, P p := by
  induction strategies generalizing tried budget patches with
  | nil =>
      cases h
      simp
  | cons s ss ih =>
      obtain ⟨hs, hss⟩ := List.forall_mem_cons.mp hpatch
      cases budget with
      | zero =>
          cases h
          simp
      | succ budget =>
          rw [ofStrategies] at h
          split at h
          · obtain ⟨p, hfirst, hnext⟩ := bind_eq_ok h
            obtain ⟨rest, hrest, hmade⟩ := bind_eq_ok hnext
            cases hmade
            exact List.forall_mem_cons.mpr ⟨hs _ _ hfirst, ih hss hrest⟩
          · exact ih hss h

/-- The template candidates for a fault have not been validated. -/
theorem candidates_fresh (registry : Registry) (f : Fault) (codeContext line : String)
    (budget : Int) (learned : Option String) (tried : List (String × String)) :
    Fresh (candidates registry f codeContext line budget learned tried) := by
  intro patches h
  exact of_strategies_forall (fun _ _ _ _ => patch_fresh) (lift_number_eq_ok h)

/-- The template candidates for a fault are those of strategies that are registered. -/
theorem candidates_registered (registry : Registry) (f : Fault) (codeContext line : String)
    (budget : Int) (learned : Option String) (tried : List (String × String)) :
    Made (fun p => p.source = .template ∧ p.strategy ∈ registry.ids)
      (candidates registry f codeContext line budget learned tried) := by
  intro patches h
  refine of_strategies_forall (fun s hs new p hpatch => ?_) (lift_number_eq_ok h)
  obtain ⟨trust, _, hmade⟩ := bind_eq_ok hpatch
  cases hmade
  exact ⟨rfl, List.mem_map_of_mem (Registry.mem_of_mem_prioritize hs)⟩

/-- Strategies whose priorities are numbers make their candidates without fail. -/
theorem of_strategies_ok (registry : Registry) (ctx : FixContext) {strategies : List Strategy}
    (hpriority : ∀ st ∈ strategies, ∃ x : Float, Arithmetic.ofInt st.priority = .ok x)
    (tried : List (String × String)) (budget : Nat) :
    ∃ patches, ofStrategies registry ctx tried budget strategies = .ok patches := by
  induction strategies generalizing tried budget with
  | nil => exact ⟨_, rfl⟩
  | cons st sts ih =>
      obtain ⟨⟨x, hx⟩, hothers⟩ := List.forall_mem_cons.mp hpriority
      cases budget with
      | zero => exact ⟨_, rfl⟩
      | succ budget =>
          rw [ofStrategies]
          cases newLine? ctx tried st with
          | none => exact ih hothers _ _
          | some new =>
              obtain ⟨p, hpatch⟩ : ∃ p, patch registry ctx st new = .ok p := by
                rw [patch, confidence, hx]
                exact ⟨_, rfl⟩
              obtain ⟨rest, hrest⟩ := ih hothers (p.key :: tried) budget
              refine ⟨p :: rest, ?_⟩
              dsimp only
              rw [hpatch]
              exact congrArg (fun made => made >>= fun rest => pure (p :: rest)) hrest

theorem candidates_ok {registry : Registry}
    (hpriority : ∀ st ∈ registry.strategies, ∃ x : Float, Arithmetic.ofInt st.priority = .ok x)
    (f : Fault) (codeContext line : String) (budget : Int) (learned : Option String)
    (tried : List (String × String)) :
    ∃ patches, candidates registry f codeContext line budget learned tried = .ok patches := by
  have hfits : ∀ st ∈ registry.prioritize f codeContext learned,
      ∃ x : Float, Arithmetic.ofInt st.priority = .ok x :=
    fun st hst => hpriority st (Registry.mem_of_mem_prioritize hst)
  obtain ⟨patches, hmade⟩ := of_strategies_ok registry
    ⟨f, codeContext, languageOf f.location.file, line⟩ hfits tried budget.toNat
  exact ⟨patches, by rw [candidates, hmade]; rfl⟩

end Template

namespace Generate

variable {σ : Type} {R : σ → σ → Prop} [IsPreorder σ R] {host : Host (StateM σ)}

/-- Asking the model under its time limit does what asking it does. -/
theorem ask_keeps {config : RepairConfig} {model : Request → StateM σ (Reply String)}
    (hmodel : ∀ request, Keeps R (model request)) (prompt : String) (history : List Turn)
    (temperature : Option Float) : Keeps R (ask config model prompt history temperature) :=
  .bind (bounded_keeps _ _ (hmodel _)) fun _ => .pure _

omit [IsPreorder σ R] in
theorem model_keeps (hasks : host.Asks R) {config : RepairConfig}
    {model : Request → StateM σ (Reply String)} (hmodel : model? config host = some model)
    (request : Request) : Keeps R (model request) := by
  unfold model? at hmodel
  split at hmodel
  · exact hasks model hmodel request
  · cases hmodel

/-- Filling in what a change replaces reads its file at most. -/
theorem fill_replaced_keeps (hreads : host.Reads R) (c : Change) :
    Keeps R (fillReplaced host c) := by
  unfold fillReplaced
  split
  · exact .pure _
  · refine .bind (host.readable_keeps hreads _) fun content => ?_
    rcases content with f | _ | text <;> exact .pure _

theorem fill_replaceds_keeps (hreads : host.Reads R) (cs : List Change) :
    Keeps R (fillReplaceds host cs) := by
  induction cs with
  | nil => exact .pure _
  | cons c cs ih =>
      refine .bind (fill_replaced_keeps hreads c) fun filled => ?_
      cases filled with
      | error f => exact .pure _
      | ok c => exact .bind ih fun _ => .pure _

/-- The candidate of a reply is new, and making it reads files at most. -/
theorem of_reply_yields (hreads : host.Reads R) (f : Fault) (strategy reply : String) :
    Yields R (fun made => ∀ p, made = .ok (some p) → p.validated = false)
      (ofReply host f strategy reply) := by
  unfold ofReply
  cases hparse : FixReply.parse f strategy reply with
  | error e => exact .pure (by simp)
  | ok found =>
      cases found with
      | none => exact .pure (by simp)
      | some p =>
          refine .bind (fill_replaceds_keeps hreads p.changes) fun filled => .pure ?_
          intro q hq
          cases filled with
          | error e => cases hq
          | ok changes =>
              cases hq
              exact (FixReply.parse_offers hparse).2.1

/-- The template candidates for a task are new. -/
theorem templates_yields (hreads : host.Reads R) (registry : Registry) (task : Task)
    (budget : Int) : Yields R Fresh (templates host registry task budget) := by
  unfold templates
  split
  · exact .pure Made.nil
  · refine .bind (host.readable_keeps hreads _) fun content => ?_
    split
    · exact .pure (Made.error _)
    · split
      · exact .pure Made.nil
      · exact .pure (Template.candidates_fresh _ _ _ _ _ _ _)

section Made

variable {I : σ → Prop} {P : Patch → Prop} {config : RepairConfig}

/-- Asking the model, if there is one, does not lead out of some states. -/
def Stays (I : σ → Prop) (config : RepairConfig) (host : Host (StateM σ)) : Prop :=
  ∀ model, model? config host = some model → ∀ prompt history temperature,
    Answers I (fun _ => True) (ask config model prompt history temperature)

theorem stays_of_asks (hasks : host.Asks R) (hstay : ∀ s s', R s s' → I s → I s') :
    Stays I config host :=
  fun _ hmodel _ _ _ => (ask_keeps (model_keeps hasks hmodel) _ _ _).answers hstay

omit [IsPreorder σ R]

/-- What holds of the candidate of each reply holds of the candidates of requests, however many of
the requests come to nothing. -/
theorem of_requests_made {model : Request → StateM σ (Reply String)} {f : Fault}
    (hask : Stays I config host) (hmodel : model? config host = some model)
    (hreply : ∀ reply, Answers I (fun made => ∀ p, made = .ok (some p) → P p)
      (ofReply host f FixReply.modelStrategy reply))
    (prompt : String) (number count : Nat) :
    Answers I (Made P) (ofRequests config host model f prompt number count) := by
  induction count generalizing number with
  | zero => exact .pure .nil
  | succ count ih =>
      refine .bind (hask model hmodel _ _ _) fun reply _ => ?_
      cases reply with
      | none => exact ih _
      | some reply =>
          refine .bind (hreply reply) fun made hmade => ?_
          cases made with
          | error e => exact .pure (.error e)
          | ok offered =>
              refine .bind (ih _) fun others hothers => .pure (.append (fun p hp => ?_) hothers)
              exact hmade p (by rw [Option.mem_toList.mp hp])

/-- What holds of each candidate that a template or a reply makes holds of all candidates for a
task. -/
theorem candidates_made {registry : Registry} {task : Task} (hask : Stays I config host)
    (htemplates : ∀ budget, Answers I (Made P) (templates host registry task budget))
    (hreply : ∀ reply, Answers I (fun made => ∀ p, made = .ok (some p) → P p)
      (ofReply host task.fault FixReply.modelStrategy reply)) :
    Answers I (Made P) (candidates config host registry task) := by
  unfold candidates
  dsimp only
  split
  case' isTrue => refine .bind (htemplates _) fun made hmade => ?_
  case' isFalse => refine .bind (P := Made P) (.pure Made.nil) fun made hmade => ?_
  all_goals
    split
    · rename_i made model hmodel
      exact .bind (of_requests_made hask hmodel hreply _ _ _) fun others hothers =>
        .pure (.append (hmade made rfl) hothers)
    · exact .pure hmade

/-- A candidate that learns from failed ones is that of a reply, known as refined. -/
theorem refine_made {f : Fault} (hask : Stays I config host)
    (hreply : ∀ reply, Answers I
      (fun made => ∀ p, made = .ok (some p) → P { p with source := .refinement })
      (ofReply host f refinedStrategy reply)) (codeContext : String) (failed : List Patch) :
    Answers I (Made P) (refine config host f codeContext failed) := by
  unfold refine
  split
  · exact .pure .nil
  · exact .pure .nil
  · rename_i model hmodel _
    refine .bind (hask model hmodel _ _ _) fun reply _ => ?_
    cases reply with
    | none => exact .pure .nil
    | some reply =>
        refine .bind (hreply reply) fun made hmade => .pure ?_
        intro patches hall p hp
        obtain ⟨offered, hoffered, rfl⟩ := map_eq_ok hall
        obtain ⟨q, hq, rfl⟩ := List.mem_map.mp hp
        exact hmade q (by rw [hoffered, Option.mem_toList.mp hq])

/-- The candidate of a reply is what the reply offers, with the texts it replaces filled in. -/
theorem of_reply_offers {f : Fault} {strategy reply : String} {s : σ} {made : Patch}
    (h : (ofReply host f strategy reply s).1 = .ok (some made)) :
    ∃ p changes, FixReply.parse f strategy reply = .ok (some p) ∧ made = { p with changes } := by
  rw [ofReply] at h
  rcases hparse : FixReply.parse f strategy reply with e | _ | p <;> rw [hparse] at h
  · cases h
  · cases h
  · obtain ⟨changes, _, heq⟩ := map_eq_ok h
    exact ⟨p, changes, rfl, (Option.some.inj heq).symm⟩

/-- Candidates that strategies made for a task, if its line could be read. -/
def Offered (registry : Registry) (task : Task) (made : List Patch) : Prop :=
  made = [] ∨ ∃ line budget, Template.candidates registry task.fault task.codeContext line budget
    task.learned task.tried = .ok made

theorem templates_offered (registry : Registry) (task : Task) (budget : Int) :
    Answers (fun _ : σ => True) (Gives (Offered registry task))
      (templates host registry task budget) := by
  unfold templates
  split
  · exact .pure (.pure (.inl rfl))
  · refine .bind (P := fun _ => True) (fun _ _ => ⟨trivial, trivial⟩) fun content _ => ?_
    split
    · exact .pure (by rintro _ ⟨⟩)
    · split
      · exact .pure (.pure (.inl rfl))
      · exact .pure fun made hmade => .inr ⟨_, _, hmade⟩

/-- The candidates for a task are those of strategies, and then those of the model. -/
theorem candidates_offered (host : Host (StateM σ)) (config : RepairConfig) (registry : Registry)
    (task : Task) :
    Answers (fun _ : σ => True)
      (Gives fun pool => ∃ made others, pool = made ++ others ∧ Offered registry task made ∧
        ∀ p ∈ others, p.source = .model)
      (candidates config host registry task) := by
  have hask : Stays (fun _ : σ => True) config host := fun _ _ _ _ _ _ _ => ⟨trivial, trivial⟩
  have hreply : ∀ reply, Answers (fun _ : σ => True)
      (fun made => ∀ p, made = .ok (some p) → p.source = .model)
      (ofReply host task.fault FixReply.modelStrategy reply) := fun reply s _ => by
    refine ⟨trivial, fun p hp => ?_⟩
    obtain ⟨stated, _, hparse, rfl⟩ := of_reply_offers hp
    exact (FixReply.parse_offers hparse).1
  unfold candidates
  dsimp only
  split
  case' isTrue => refine .bind (templates_offered registry task _) fun made hmade => ?_
  case' isFalse =>
    refine .bind (P := Gives (Offered registry task)) (.pure (.pure (.inl rfl)))
      fun made hmade => ?_
  all_goals
    split
    · rename_i made model hmodel
      refine .bind (of_requests_made hask hmodel hreply _ _ _) fun others hothers => .pure ?_
      intro pool hpool
      obtain ⟨others, hmore, rfl⟩ := map_eq_ok hpool
      exact ⟨made, others, rfl, hmade made rfl, hothers others hmore⟩
    · exact .pure fun pool hpool => ⟨pool, [], (List.append_nil _).symm, hmade pool hpool, by simp⟩

end Made

/-- The candidates for a task are new, and making them reads files and asks the model at most. -/
theorem candidates_yields (hreads : host.Reads R) (hasks : host.Asks R) (config : RepairConfig)
    (registry : Registry) (task : Task) :
    Yields R Fresh (candidates config host registry task) := by
  refine yields_iff_answers.mpr fun s₀ => ?_
  exact candidates_made (stays_of_asks hasks fun _ _ h hs => IsTrans.trans _ _ _ hs h)
    (fun budget => yields_iff_answers.mp (templates_yields hreads _ _ budget) s₀)
    (fun reply => yields_iff_answers.mp (of_reply_yields hreads _ _ reply) s₀)

/-- A candidate that learns from failed ones is new and known as refined. -/
theorem refine_yields (hreads : host.Reads R) (hasks : host.Asks R) (config : RepairConfig)
    (f : Fault) (codeContext : String) (failed : List Patch) :
    Yields R (Made fun p => p.validated = false ∧ p.source = .refinement)
      (refine config host f codeContext failed) := by
  refine yields_iff_answers.mpr fun s₀ => ?_
  refine refine_made (stays_of_asks hasks fun _ _ h hs => IsTrans.trans _ _ _ hs h)
    (fun reply s hs => ?_) codeContext failed
  obtain ⟨hkept, hfresh⟩ :=
    yields_iff_answers.mp (of_reply_yields hreads f refinedStrategy reply) s₀ s hs
  exact ⟨hkept, fun p hp => ⟨hfresh p hp, rfl⟩⟩

/-- Asking for a candidate that learns from failed ones keeps what surrounds a single request. -/
theorem refine_keeps {S : σ → σ → Prop} (h : Surrounds R S) (hreads : host.Reads R)
    (hasks : host.Asks S) (config : RepairConfig) (f : Fault) (codeContext : String)
    (failed : List Patch) : Keeps S (refine config host f codeContext failed) := by
  unfold refine
  split
  · exact fun s => h.alone (Keeps.pure _ s)
  · exact fun s => h.alone (Keeps.pure _ s)
  · rename_i model hmodel _
    have hask : ∀ prompt, Keeps S (ask config model prompt repairHistory (some 0.5)) :=
      fun prompt => .bind_after h (bounded_keeps _ _ (model_keeps hasks hmodel _)) fun _ => .pure _
    refine .bind_after h (hask _) fun reply => ?_
    cases reply with
    | none => exact .pure _
    | some reply =>
        have hoffer := of_reply_yields hreads f refinedStrategy reply
        exact .bind (fun s => (hoffer s).1) fun _ => .pure _

omit [IsPreorder σ R] in
/-- One candidate at most learns from failed ones. -/
theorem refine_length_le (config : RepairConfig) (host : Host (StateM σ)) (f : Fault)
    (codeContext : String) (failed : List Patch) (s : σ) :
    ∀ refined, (refine config host f codeContext failed s).1 = .ok refined →
      refined.length ≤ 1 := by
  have hanswers : Answers (fun _ : σ => True)
      (fun made => ∀ refined, made = .ok refined → refined.length ≤ 1)
      (refine config host f codeContext failed) := by
    unfold refine
    split
    · exact .pure (by simp)
    · exact .pure (by simp)
    · refine .bind (P := fun _ => True) (fun _ _ => ⟨trivial, trivial⟩) fun reply _ => ?_
      cases reply with
      | none => exact .pure (by simp)
      | some reply =>
          refine .bind (P := fun _ => True) (fun _ _ => ⟨trivial, trivial⟩) fun made _ => .pure ?_
          intro refined hrefined
          obtain ⟨offered, _, rfl⟩ := map_eq_ok hrefined
          cases offered <;> simp
  exact (hanswers s trivial).2

end Generate

end Mender
