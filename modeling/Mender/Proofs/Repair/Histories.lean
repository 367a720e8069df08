import Mender.Proofs.Dialogue.Transcript
import Mender.Proofs.Host.Record
import Mender.Proofs.Repair.Turns

/-!
# What dialogues ask

The conversation of a dialogue only grows. Each turn makes one request with all that was said so
far, and adds to it what the user asked and perhaps the reply and a word on the tests
(`Chat.Grows`). A request that fails adds no reply, so turns of the user follow one another;
messages join them. `Chat.requests_become_messages` says what the service is told, for any
collaborators, however they answer and fail.
-/

namespace Mender

/-! ## Recorded requests -/

/-- The request that a call makes of the model. -/
def Host.Call.request? : Host.Call → Option Request
  | .model r => some r
  | _ => none

namespace Recorded

variable {σ α : Type}

/-- The requests so far. -/
def asked (s : Recorded σ) : List Request :=
  s.calls.filterMap Host.Call.request?

/-- Between two states these requests were made. -/
def Requested (requests : List Request) (s s' : Recorded σ) : Prop :=
  s'.asked = s.asked ++ requests

theorem Requested.trans {requests requests' : List Request} {s s₁ s' : Recorded σ}
    (h : Requested requests s s₁) (h' : Requested requests' s₁ s') :
    Requested (requests ++ requests') s s' := by
  rw [Requested, h', h, List.append_assoc]

/-- No request was made. -/
instance : IsPreorder (Recorded σ) (Requested []) where
  refl _ := (List.append_nil _).symm
  trans _ _ _ h h' := h.trans h'

theorem recording_requested (call : Host.Call) (x : StateM σ α) :
    Keeps (Requested call.request?.toList) (recording call x) := by
  intro s
  cases h : call.request? <;> simp [Requested, asked, recording, h]

theorem unrecorded_requested (x : StateM σ α) : Keeps (Requested []) (unrecorded x) :=
  fun s => refl_of (Requested []) s

end Recorded

namespace Host

open Recorded

variable {σ : Type} (h : Host (StateM σ))

theorem recorded_reads_unasked : h.recorded.Reads (Requested []) :=
  h.recorded_reads_of fun path => recording_requested (.read path)

theorem recorded_writes_unasked : h.recorded.Writes (Requested []) :=
  h.recorded_writes_of fun path text => recording_requested (.write path text)

theorem recorded_runs_unasked : h.recorded.Runs (Requested []) :=
  h.recorded_runs_of (recording_requested .tests)

theorem recorded_tells_unasked (event : Event) :
    Keeps (Requested []) (h.recorded.notify event) :=
  recording_requested (.told event) (h.notify event)

end Host

namespace Chat

open Recorded

/-! ## Conversations -/

/-- A conversation that the system opens with one turn, and the user goes on with. -/
inductive Opened : List Turn → Prop
  | alone {said} : Opened [⟨.system, said⟩]
  | followed {said asked more} : (∀ t ∈ more, t.role ≠ .system) →
      Opened (⟨.system, said⟩ :: ⟨.user, asked⟩ :: more)

/-- A conversation grows by turns that make requests, to what it is in the end. -/
inductive Grows : List Turn → List Request → List Turn → Prop
  | done {conversation} : Grows conversation [] conversation
  | turn {prompt conversation temperature more requests last} :
      (∀ t ∈ more, t.role ≠ .system) →
      Grows (conversation ++ ⟨.user, prompt⟩ :: more) requests last →
      Grows conversation (⟨prompt, conversation, temperature⟩ :: requests) last

section Conversations

variable {conversation more last : List Turn} {requests : List Request} {asked : String}

theorem Opened.append (h : Opened conversation) (hmore : ∀ t ∈ more, t.role ≠ .system) :
    Opened (conversation ++ ⟨.user, asked⟩ :: more) := by
  cases h with
  | alone => exact .followed hmore
  | followed hbefore =>
      refine .followed (List.forall_mem_append.mpr ⟨hbefore, ?_⟩)
      exact List.forall_mem_cons.mpr ⟨by simp, hmore⟩

/-- What follows the turn of the system begins with a message of the user. -/
theorem Opened.first_message {r : Request} (h : Opened r.history) :
    ((Transcript.messages r).head?).map (·.role) = some .user := by
  obtain ⟨prompt, history, temperature⟩ := r
  rw [Transcript.messages_eq, Transcript.merged_head_role]
  cases h <;> simp [Transcript.spoken]

theorem Grows.is_prefix (h : Grows conversation requests last) : conversation <+: last := by
  induction h with
  | done => exact List.prefix_rfl
  | turn _ _ ih => exact (List.prefix_append _ _).trans ih

/-- Each request was made with what had been said of the last conversation, where it comes next. -/
theorem Grows.asked_is_prefix (h : Grows conversation requests last) :
    ∀ r ∈ requests, r.history ++ [⟨.user, r.prompt⟩] <+: last := by
  induction h with
  | done => simp
  | turn _ hrest ih =>
      refine List.forall_mem_cons.mpr ⟨List.IsPrefix.trans ?_ hrest.is_prefix, ih⟩
      exact (List.prefix_append_right_inj _).mpr (List.prefix_append [_] _)

theorem Grows.opened (h : Grows conversation requests last) (hopened : Opened conversation) :
    ∀ r ∈ requests, Opened r.history := by
  induction h with
  | done => simp
  | turn hmore _ ih => exact List.forall_mem_cons.mpr ⟨hopened, ih (hopened.append hmore)⟩

end Conversations

/-! ## Turns -/

section Turns

variable {σ : Type} {host : Host (StateM σ)} {model : Request → StateM σ (Reply String)}
  {setting : Setting (StateM (Recorded σ))}

/-- The model that writes down what is asked of it. -/
def recordedModel (model : Request → StateM σ (Reply String)) (r : Request) :
    StateM (Recorded σ) (Reply String) :=
  recording (.model r) (model r)

variable (model) in
/-- To ask is to make one request, and nothing else. -/
theorem ask_requested (config : RepairConfig) (prompt : String) (history : List Turn)
    (temperature : Option Float) :
    Keeps (Requested [⟨prompt, history, temperature⟩])
      (Generate.ask config (recordedModel model) prompt history temperature) :=
  bounded_keeps config.generationTimeout generationTimeout
    (recording_requested (.model ⟨prompt, history, temperature⟩) (model _))

/-- The test of plausible code makes no request, and the system says nothing of it. -/
theorem attempt_says (hhost : setting.host = host.recorded) (turn : Nat) (st : State)
    (code : String) (s : Recorded σ) :
    ∃ ended s' more, attempt setting turn st code s = (ended, s') ∧ Requested [] s s' ∧
      (∀ t ∈ more, t.role ≠ .system) ∧
      ∀ last : TurnEnd, ended = .ok last → last.state.conversation = st.conversation ++ more := by
  have hvalidates := Validate.candidate_keeps .self host.recorded_reads_unasked
    host.recorded_writes_unasked host.recorded_runs_unasked
    (fun files => host.recorded_tells_unasked (.rollback files)) setting.config
    (patchOf setting code) s
  rw [attempt, run_bind, hhost]
  rcases hended : Validate.candidate setting.config host.recorded (patchOf setting code) s with
    ⟨f | o, s₁⟩ <;> rw [hended] at hvalidates
  · exact ⟨.error f, s₁, [], rfl, hvalidates, by simp, by simp⟩
  · have htold := trans_of (Requested []) hvalidates
      (host.recorded_tells_unasked (.chatAttempt (turn + 1) o.accepted) s₁)
    cases haccepted : o.accepted <;> simp only [haccepted, run_bind] at htold ⊢
    · refine ⟨_, _, [⟨.user, Prompt.feedback o⟩], rfl, htold, by simp, ?_⟩
      rintro _ ⟨⟩
      rfl
    · refine ⟨_, _, [], rfl, htold, by simp, ?_⟩
      rintro _ ⟨⟩
      exact (List.append_nil _).symm

/-- A turn makes one request, with the conversation so far, and adds to it what was asked and no
turn of the system. -/
theorem take_turn_says (hhost : setting.host = host.recorded)
    (hmodel : setting.model = recordedModel model) (turn : Nat) (st : State) (s : Recorded σ) :
    ∃ ended s' more, takeTurn setting turn st s = (ended, s') ∧
      Requested [⟨st.prompt, st.conversation, none⟩] s s' ∧
      (∀ t ∈ more, t.role ≠ .system) ∧
      ∀ last : TurnEnd, ended = .ok last →
        last.state.conversation = st.conversation ++ ⟨.user, st.prompt⟩ :: more := by
  have hasked := ask_requested model setting.config st.prompt st.conversation none s
  rw [takeTurn, run_bind, hmodel]
  rcases hreply : Generate.ask setting.config (recordedModel model) st.prompt st.conversation none s
    with ⟨none | reply, s₁⟩ <;> rw [hreply] at hasked
  · refine ⟨_, s₁, [], rfl, hasked, by simp, ?_⟩
    rintro _ ⟨⟩
    rfl
  · have hanswer : ∀ t ∈ [Turn.mk .assistant reply], t.role ≠ .system := by simp
    -- whatever comes of the reply, the prompt and the reply are said
    have hsaid : st.conversation ++ [⟨.user, st.prompt⟩] ++ [⟨.assistant, reply⟩] =
        st.conversation ++ ⟨.user, st.prompt⟩ :: [⟨.assistant, reply⟩] := List.append_assoc _ _ _
    cases hchat : FixReply.chatCode? reply with
    | none =>
        refine ⟨_, s₁, _, by simp only [hchat]; rfl, hasked, hanswer, ?_⟩
        rintro _ ⟨⟩
        exact hsaid
    | some code =>
        cases hsound : implausible? code setting.snippet with
        | some reason =>
            refine ⟨_, s₁, _, by simp only [hchat, hsound]; rfl, hasked, hanswer, ?_⟩
            rintro _ ⟨⟩
            exact hsaid
        | none =>
            simp only [hchat, hsound]
            obtain ⟨ended, s', more, hrun, hunasked, hmore, hends⟩ := attempt_says hhost turn
              { st with conversation := st.conversation ++ [⟨.user, st.prompt⟩] ++
                [⟨.assistant, reply⟩] } code s₁
            refine ⟨ended, s', ⟨.assistant, reply⟩ :: more, hrun, hasked.trans hunasked,
              List.forall_mem_append.mpr ⟨hanswer, hmore⟩, fun last hlast => ?_⟩
            rw [hends last hlast]
            simp

variable (setting) in
/-- Turns grow the conversation, each by its request. -/
theorem take_turns_grow (hhost : setting.host = host.recorded)
    (hmodel : setting.model = recordedModel model) (left turn : Nat) (st : State)
    (s : Recorded σ) :
    ∃ ended s' requests conversation, takeTurns setting left turn st s = (ended, s') ∧
      Requested requests s s' ∧ Grows st.conversation requests conversation ∧
      ∀ last : TurnEnd, ended = .ok last → last.state.conversation = conversation := by
  -- by induction on the turns left: what one turn leaves of the conversation the next one asks with
  induction left generalizing turn st s with
  | zero =>
      refine ⟨_, s, [], _, rfl, refl_of (Requested []) s, .done, ?_⟩
      rintro _ ⟨⟩
      rfl
  | succ left ih =>
      by_cases hlimit : setting.config.maxImplausibleTurns ≤ st.implausible
      · refine ⟨_, s, [], _, by rw [takeTurns, if_pos hlimit]; rfl, refl_of (Requested []) s,
          .done, ?_⟩
        rintro _ ⟨⟩
        rfl
      obtain ⟨ended, s₁, more, hrun, hasked, hmore, hends⟩ :=
        take_turn_says hhost hmodel turn st s
      rw [takeTurns, if_neg hlimit, run_bind, hrun]
      rcases ended with f | ⟨st₁⟩ | ⟨st₁, p⟩
      · exact ⟨_, s₁, _, _, rfl, hasked, .turn hmore .done, by simp⟩
      · obtain ⟨ended, s', requests, conversation, hrest, hrequested, hlater, hlast⟩ :=
          ih (turn + 1) st₁ s₁
        have hsaid : st₁.conversation = _ := hends _ rfl
        exact ⟨ended, s', _, conversation, hrest, hasked.trans hrequested,
          .turn hmore (hsaid ▸ hlater), hlast⟩
      · refine ⟨_, s₁, _, _, rfl, hasked, .turn hmore .done, ?_⟩
        rintro _ ⟨⟩
        exact hends _ rfl

end Turns

/-! ## Dialogues -/

section Dialogues

variable {σ : Type} (host : Host (StateM σ)) (model : Request → StateM σ (Reply String))
  (config : RepairConfig)

/-- Putting a file back makes no request. -/
theorem rollback_requested (path : String) (before : Option String) :
    Keeps (Requested []) (rollback host.recorded path before) := by
  unfold rollback
  split
  · rename_i text write hwrite
    refine .bind (Host.readable_keeps host.recorded_reads_unasked path) fun found => ?_
    cases found with
    | error f => exact .pure _
    | ok now =>
        dsimp only
        split
        · exact .pure _
        · refine .bind (host.recorded_writes_unasked write hwrite path text) fun written => ?_
          cases written with
          | error f => exact .pure _
          | ok => exact .bind (host.recorded_tells_unasked _) fun _ => .pure _
  · exact .pure _

/-- A dialogue about a bug whose range is known grows from the turn that opens it. -/
theorem converse_grows (ctx : Context) (first : Int) (s : Recorded σ) :
    ∃ ended s' requests conversation,
      converse config host.recorded (recordedModel model) ctx first s = (ended, s') ∧
      Requested requests s s' ∧
      Grows [⟨.system, Prompt.chatSystem ctx.bug⟩] requests conversation ∧
      ∀ e : Ended, ended = .ok e → e.conversation = conversation := by
  have hread := trans_of (Requested []) (unrecorded_requested host.clock s)
    (Host.readable_keeps host.recorded_reads_unasked ctx.file (host.recorded.clock s).2)
  simp only [converse, run_bind]
  rcases hfound : host.recorded.readable ctx.file (host.recorded.clock s).2 with
    ⟨f | before, s₁⟩ <;> rw [hfound] at hread
  · exact ⟨_, s₁, [], _, rfl, hread, .done, by simp⟩
  · have hstart := hread.trans (host.recorded_tells_unasked (.chatStart ctx.file) s₁)
    obtain ⟨ends, s₂, requests, conversation, hrun, hrequested, hgrows, hlast⟩ := take_turns_grow
      ⟨config, host.recorded, recordedModel model, .ofRange ctx.file first ctx.last, ctx.snippet⟩
      rfl rfl config.maxChatTurns.toNat 0
      ⟨Prompt.chatOpening, [⟨.system, Prompt.chatSystem ctx.bug⟩], [], [], 0, none⟩
      (host.recorded.notify (.chatStart ctx.file) s₁).2
    have hall := hstart.trans hrequested
    -- after the turns nothing more is asked
    have hafter {s'} (h : Requested [] s₂ s') : Requested requests s s' := by
      simpa using hall.trans h
    simp only [run_bind, hrun]
    rcases ends with f | ⟨st⟩ | ⟨st, p⟩
    · exact ⟨_, s₂, requests, conversation, rfl, hall, hgrows, by simp⟩
    · have hback := rollback_requested host ctx.file before s₂
      simp only [run_bind]
      rcases hended : rollback host.recorded ctx.file before s₂ with ⟨f | _, s₃⟩ <;>
        rw [hended] at hback
      · exact ⟨_, s₃, requests, conversation, rfl, hafter hback, hgrows, by simp⟩
      · refine ⟨_, _, requests, conversation, rfl,
          hafter (trans_of (Requested []) hback (unrecorded_requested host.clock s₃)), hgrows, ?_⟩
        rintro _ ⟨⟩
        exact hlast _ rfl
    · refine ⟨_, _, requests, conversation, rfl, hafter (unrecorded_requested host.clock s₂),
        hgrows, ?_⟩
      rintro _ ⟨⟩
      exact hlast _ rfl

end Dialogues

/-- Every request is told to the service in good form: the turns of the system apart, and of all
others the runs of one speaker, in their order, as messages in which speakers take turns and the
user is the last. In a dialogue every request is made with what had been said of the last
conversation, where it comes next; the system opened it with one turn, and its messages begin with
the user. So it is for any collaborators, however they answer and fail. -/
theorem requests_become_messages :
    (∀ r : Request, Transcript.Formed r) ∧
    ∀ {σ : Type} (host : Host (StateM σ)) (model : Request → StateM σ (Reply String))
      (config : RepairConfig) (ctx : Context) (s : σ), ∃ resolved ended s' conversation,
      repair config host.recorded (recordedModel model) ctx ⟨s, []⟩ = ((resolved, ended), s') ∧
      (∀ e, ended = .ok e → e.conversation = conversation) ∧
      ∀ r ∈ s'.asked, r.history ++ [⟨.user, r.prompt⟩] <+: conversation ∧ Opened r.history ∧
        (Transcript.messages r).head?.map (·.role) = some .user := by
  refine ⟨Transcript.formed, fun {σ} host model config ctx s => ?_⟩
  have hread := Host.readable_keeps host.recorded_reads_unasked ctx.file (⟨s, []⟩ : Recorded σ)
  rw [repair, run_bind]
  rcases hfound : host.recorded.readable ctx.file (⟨s, []⟩ : Recorded σ) with ⟨f | content, s₁⟩ <;>
    rw [hfound] at hread <;> replace hread : s₁.asked = [] := hread
  · exact ⟨ctx, .error f, s₁, [], rfl, by simp, by simp [hread]⟩
  · dsimp only
    cases hfirst : (resolve ctx content).first with
    | none =>
        refine ⟨_, _, s₁, [], rfl, ?_, by simp [hread]⟩
        rintro _ ⟨⟩
        rfl
    | some first =>
        obtain ⟨ended, s', requests, conversation, hrun, hrequested, hgrows, hends⟩ :=
          converse_grows host model config (resolve ctx content) first s₁
        refine ⟨_, ended, s', conversation, by dsimp only; rw [run_bind, hrun]; rfl, hends, ?_⟩
        have hasked : s'.asked = requests := by rw [hrequested, hread, List.nil_append]
        intro r hr
        rw [hasked] at hr
        have hopened := hgrows.opened .alone r hr
        exact ⟨hgrows.asked_is_prefix r hr, hopened, hopened.first_message⟩

end Chat

end Mender
