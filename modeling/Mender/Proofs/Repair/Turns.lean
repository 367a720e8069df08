import Mathlib.Data.List.Induction
import Mender.Proofs.Host.Talk
import Mender.Proofs.Repair.Confinement
import Mender.Proofs.Repair.Validation
import Mender.Repair.Chat

/-!
# The turns of a dialogue

Each turn of a dialogue makes one request, and runs the tests once at most, for plausible code only
(`TakenTurn`). Turns leave the files as they were, unless the last patch is accepted (`Fares`).
`Chat.take_turn_takes` says what one turn does at a site, whatever the model replies, and
`Chat.take_turns_takes` what all do, until none is left or patience is used up.
-/

namespace Mender

/-- The value that a call came to. -/
def Reply.value? {α : Type} : Reply α → Option α
  | .value a => some a
  | .raised _ | .silent => none

/-- Asking a model answers with the text that it replied, if it did. -/
theorem Generate.ask_eq {E : Type} (config : RepairConfig)
    (answer : Request → Site E → Reply String × E) (prompt : String) (history : List Turn)
    (temperature : Option Float) (s : Site E) :
    Generate.ask config (Crew.ask answer) prompt history temperature s =
      ((answer ⟨prompt, history, temperature⟩ s).1.value?,
        (Crew.ask answer ⟨prompt, history, temperature⟩ s).2) := by
  rw [Generate.ask, run_bind]
  obtain ⟨text, hreply, hrun⟩ | ⟨hreply, f, hrun⟩ :=
    bounded_eq config.generationTimeout generationTimeout
      (Crew.ask answer ⟨prompt, history, temperature⟩) s
  · rw [hrun, show (answer ⟨prompt, history, temperature⟩ s).1 = .value text from hreply]
    rfl
  · rw [hrun]
    cases hvalue : (answer ⟨prompt, history, temperature⟩ s).1 with
    | value text => exact absurd hvalue (hreply text)
    | raised _ | silent => rfl

namespace Chat

open Site

/-- Plausible code is not the code that it would replace, up to blanks around them. -/
theorem trimmed_ne_of_plausible {code before : String}
    (h : implausible? code (some before) = none) : Text.trimmed code ≠ Text.trimmed before := by
  intro hsame
  unfold implausible? at h
  split at h
  · simp at h
  · split at h <;> simp [hsame] at h

/-- A turn of a dialogue as it was taken: the request with its reply, and the run of the tests, with
the files that they saw, if there was one. -/
structure TakenTurn where
  request : Request
  reply : Reply String
  run? : Option (FileStore × Reply Outcome)

namespace TakenTurn

/-- What was said in a turn. -/
def talk (t : TakenTurn) : List Exchange :=
  .model t.request t.reply :: t.run?.toList.map Exchange.ofRun

/-- The code of a turn, if its reply has any that is plausible in place of a snippet. -/
def code? (snippet : Option String) (t : TakenTurn) : Option String :=
  (t.reply.value?.bind FixReply.chatCode?).filter fun code => (implausible? code snippet).isNone

theorem code_eq_some {snippet : Option String} {t : TakenTurn} {code : String} :
    t.code? snippet = some code ↔
      (∃ text, t.reply = .value text ∧ FixReply.chatCode? text = some code) ∧
        implausible? code snippet = none := by
  rw [code?, Option.filter_eq_some_iff, Option.isNone_iff_eq_none]
  cases t.reply <;> simp [Reply.value?]

/-- A turn whose reply has no code has no plausible code. -/
theorem code_eq_none {snippet : Option String} {t : TakenTurn}
    (h : t.reply.value?.bind FixReply.chatCode? = none) : t.code? snippet = none := by
  rw [code?, h, Option.filter_none]

/-- The code of a reply is that of the turn if it is plausible. -/
theorem code_of_chat_code {snippet : Option String} {t : TakenTurn} {code : String}
    (h : t.reply.value?.bind FixReply.chatCode? = some code) :
    t.code? snippet = if (implausible? code snippet).isNone then some code else none := by
  rw [code?, h, Option.filter_some]

end TakenTurn

/-- How many turns in a row had no plausible code by the end of some turns, when there were so many
before them. -/
def idleAfter (snippet : Option String) : Nat → List TakenTurn → Nat
  | idle, [] => idle
  | idle, t :: turns => idleAfter snippet (if (t.code? snippet).isNone then idle + 1 else 0) turns

section Idle

variable {snippet : Option String}

theorem idle_after_append (n : Nat) (turns turns' : List TakenTurn) :
    idleAfter snippet n (turns ++ turns') =
      idleAfter snippet (idleAfter snippet n turns) turns' := by
  induction turns generalizing n with
  | nil => rfl
  | cons t turns ih => exact ih _

/-- Turns without plausible code add up. -/
theorem idle_after_idle {idle : List TakenTurn} (hidle : ∀ t ∈ idle, t.code? snippet = none)
    (n : Nat) : idleAfter snippet n idle = n + idle.length := by
  induction idle generalizing n with
  | nil => rfl
  | cons t idle ih =>
      obtain ⟨hfirst, hrest⟩ := List.forall_mem_cons.mp hidle
      rw [idleAfter, hfirst, Option.isNone_none, if_pos rfl, ih hrest, List.length_cons]
      omega

/-- The turns that are counted are the last ones. -/
theorem exists_idle (snippet : Option String) (turns : List TakenTurn) :
    ∃ earlier idle, turns = earlier ++ idle ∧ (∀ t ∈ idle, t.code? snippet = none) ∧
      idleAfter snippet 0 turns = idle.length := by
  -- by induction on the turns from the last one back, since that one decides whether to count
  induction turns using List.reverseRecOn with
  | nil => exact ⟨[], [], rfl, by simp, rfl⟩
  | append_singleton turns t ih =>
      obtain ⟨earlier, idle, rfl, hidle, hcount⟩ := ih
      cases hcode : t.code? snippet with
      | none =>
          refine ⟨earlier, idle ++ [t], List.append_assoc _ _ _, ?_, ?_⟩
          · exact List.forall_mem_append.mpr ⟨hidle, by simpa using hcode⟩
          · rw [idle_after_append, hcount, List.length_append]
            simp [idleAfter, hcode]
      | some code =>
          refine ⟨earlier ++ idle ++ [t], [], (List.append_nil _).symm, by simp, ?_⟩
          rw [idle_after_append]
          simp [idleAfter, hcode]

end Idle

/-- The codes that were attempted. -/
def codes (attempts : List Attempt) : List String :=
  attempts.flatMap fun a => a.patch.changes.map (·.new)

@[simp] theorem codes_append (attempts attempts' : List Attempt) :
    codes (attempts ++ attempts') = codes attempts ++ codes attempts' :=
  List.flatMap_append

/-- The state in which a turn leaves a dialogue. -/
def TurnEnd.state : TurnEnd → State
  | .onwards st | .accepted st _ => st

variable {E : Type}

/-- What turns come to from a site: the attempts made before, and the files. -/
inductive Fares (attempts : List Attempt) (s : Site E) : Except Failure TurnEnd → Site E → Prop
  | raised {f s'} : s'.files = s.files → Fares attempts s (.error f) s'
  | onwards {st s' more} : st.attempts = attempts ++ more →
      (∀ a ∈ more, a.outcome.accepted = false) → s'.files = s.files →
      Fares attempts s (.ok (.onwards st)) s'
  | accepted {st s' more last} : st.attempts = attempts ++ (more ++ [last]) →
      (∀ a ∈ more, a.outcome.accepted = false) → last.outcome.accepted = true →
      s.files.patched? last.patch = some s'.files →
      Fares attempts s (.ok (.accepted st last.patch)) s'

/-- What turns come to after others that were not accepted. -/
theorem Fares.after {attempts : List Attempt} {st : State} {ended : Except Failure TurnEnd}
    {s s₁ s' : Site E} (h : Fares attempts s (.ok (.onwards st)) s₁)
    (h' : Fares st.attempts s₁ ended s') : Fares attempts s ended s' := by
  cases h with
  | @onwards _ _ before hattempts hrejected hfiles =>
      rw [hattempts] at h'
      cases h' with
      | raised hsame => exact .raised (hsame.trans hfiles)
      | @onwards _ _ more hmore hothers hsame =>
          refine .onwards (hmore.trans (List.append_assoc _ _ _)) ?_ (hsame.trans hfiles)
          exact List.forall_mem_append.mpr ⟨hrejected, hothers⟩
      | @accepted _ _ more last hmore hothers haccepted hpatched =>
          have hall : ∀ a ∈ before ++ more, a.outcome.accepted = false :=
            List.forall_mem_append.mpr ⟨hrejected, hothers⟩
          exact .accepted (hmore.trans (by simp)) hall haccepted (hfiles ▸ hpatched)

theorem Fares.onwards_files {attempts : List Attempt} {st : State} {s s' : Site E}
    (h : Fares attempts s (.ok (.onwards st)) s') : s'.files = s.files := by
  cases h with
  | onwards _ _ hfiles => exact hfiles

section Attempt

variable {σ : Type} {setting : Setting (StateM σ)} {code : String} {s s₁ : σ} (turn : Nat)
  (st : State)

/-- A validation that fails ends the dialogue. -/
theorem attempt_raised {f : Failure}
    (hends : Validate.candidate setting.config setting.host (patchOf setting code) s =
      (.error f, s₁)) : attempt setting turn st code s = (.error f, s₁) := by
  rw [attempt, run_bind, hends]
  rfl

/-- A patch that was tested is added to the attempts, and it ends the dialogue if it was
accepted. -/
theorem attempt_tested {o : Outcome}
    (hends : Validate.candidate setting.config setting.host (patchOf setting code) s =
      (.ok o, s₁)) :
    ∃ st' : State,
      st'.attempts = st.attempts ++ [⟨turn, (patchOf setting code).withOutcome o, o⟩] ∧
      st'.implausible = 0 ∧
      attempt setting turn st code s =
        (.ok (if o.accepted then .accepted st' ((patchOf setting code).withOutcome o)
          else .onwards st'), (setting.host.notify (.chatAttempt (turn + 1) o.accepted) s₁).2) := by
  rw [attempt, run_bind, hends]
  cases haccepted : o.accepted <;>
    exact ⟨_, rfl, rfl, by simp only [run_bind, haccepted]; rfl⟩

end Attempt

/-- What a turn comes to from a site. -/
structure Takes (setting : Setting (StateM (Site E))) (st : State) (s : Site E) (t : TakenTurn)
    (ended : Except Failure TurnEnd) (s' : Site E) : Prop where
  talk : s'.talk = s.talk ++ t.talk
  /-- The tests are run for plausible code, and see that code alone. -/
  tested : ∀ run, t.run? = some run → ∃ code, t.code? setting.snippet = some code ∧
    s.files.patched? (patchOf setting code) = some run.1
  fares : Fares st.attempts s ended s'
  /-- Plausible code is attempted, and nothing else. -/
  attempted : ∀ last, ended = .ok last →
    codes last.state.attempts = codes st.attempts ++ (t.code? setting.snippet).toList
  /-- Turns without plausible code are counted until there is one with it. -/
  idle : ∀ st', ended = .ok (.onwards st') →
    st'.implausible = if (t.code? setting.snippet).isNone then st.implausible + 1 else 0

section Turns

variable {c : Crew E} {locked : Set String} {answer : Request → Site E → Reply String × E}
  {setting : Setting (StateM (Site E))}

/-- Plausible code is tried as a candidate. -/
theorem attempt_fares (hlocks : c.Locks locked) (hhost : setting.host = c.host) (turn : Nat)
    (st : State) (code : String) (s : Site E) :
    ∃ (run? : Option (FileStore × Reply Outcome)) (ended : Except Failure TurnEnd) (s' : Site E),
      attempt setting turn st code s = (ended, s') ∧
      s'.talk = s.talk ++ run?.toList.map Exchange.ofRun ∧
      (∀ run, run? = some run → s.files.patched? (patchOf setting code) = some run.1) ∧
      Fares st.attempts s ended s' ∧
      (∀ last, ended = .ok last →
        codes last.state.attempts = codes st.attempts ++ [code] ∧ last.state.implausible = 0) := by
  have hvalidates := Validate.candidate_validates hlocks setting.config (patchOf setting code) s
  -- a validation runs the tests once at most and asks the model nothing
  have hunasked := Validate.candidate_keeps .self c.reads_unasked c.writes_unasked c.runs_unasked
    (fun files => c.notify_unasked (.rollback files)) setting.config (patchOf setting code) s
  rw [← hhost] at hvalidates hunasked
  obtain ⟨run?, hruns, hsaw⟩ := hvalidates.new_run
  have htalk := hunasked.talk_eq hruns
  rcases hends : Validate.candidate setting.config setting.host (patchOf setting code) s with
    ⟨f | o, s₁⟩ <;> rw [hends] at hvalidates htalk
  · refine ⟨run?, .error f, s₁, attempt_raised turn st hends, htalk, hsaw, ?_, by simp⟩
    cases hvalidates with
    | raised hfiles _ => exact .raised hfiles
  · obtain ⟨st', hattempts, hidle, hrun⟩ := attempt_tested turn st hends
    have hquiet := c.notify_quiet (.chatAttempt (turn + 1) o.accepted) s₁
    rw [← hhost] at hquiet
    refine ⟨run?, _, _, hrun, hquiet.talk.trans htalk, hsaw, ?_, ?_⟩
    · -- listeners are told of the attempt when the files are as it leaves them
      cases hvalidates with
      | unapplied hrejected hfiles _ | rejected hrejected _ _ hfiles _ =>
          simp only [hrejected] at hquiet ⊢
          exact .onwards hattempts (by simpa using hrejected) (hquiet.files.trans hfiles)
      | accepted haccepts =>
          have hpatched := haccepts.files
          rw [← hquiet.files] at hpatched
          simp only [haccepts.accepted] at hpatched ⊢
          exact .accepted (show _ = st.attempts ++ ([] ++ [_]) from hattempts) (by simp)
            haccepts.accepted hpatched
    · have hcodes : codes st'.attempts = codes st.attempts ++ [code] := by
        rw [hattempts, codes_append]
        rfl
      rintro _ ⟨⟩
      cases o.accepted <;> exact ⟨hcodes, hidle⟩

/-- A turn without plausible code does nothing but ask. -/
theorem Takes.fruitless {st : State} {s s' : Site E} {t : TakenTurn} (hrun : t.run? = none)
    (hcode : t.code? setting.snippet = none)
    (htalk : s'.talk = s.talk ++ [.model t.request t.reply]) (hfiles : s'.files = s.files)
    (conversation : List Turn) (lesson prompt : String) :
    Takes setting st s t
      (.ok (.onwards (Chat.fruitless { st with conversation } lesson prompt))) s' where
  talk := by simpa [TakenTurn.talk, hrun] using htalk
  tested := by simp [hrun]
  fares := .onwards (List.append_nil _).symm (by simp) hfiles
  attempted := by
    rintro _ ⟨⟩
    simp [TurnEnd.state, Chat.fruitless, hcode]
  idle := by
    rintro _ ⟨⟩
    simp [Chat.fruitless, hcode]

/-- A turn in which plausible code is tried. -/
theorem attempt_takes (hlocks : c.Locks locked) (hhost : setting.host = c.host) (turn : Nat)
    (st : State) (conversation : List Turn) {request : Request} {reply : Reply String}
    {code : String} {s s₁ : Site E}
    (hcode : ∀ run?, (TakenTurn.mk request reply run?).code? setting.snippet = some code)
    (htalk : s₁.talk = s.talk ++ [.model request reply]) (hfiles : s₁.files = s.files) :
    ∃ (t : TakenTurn) (ended : Except Failure TurnEnd) (s' : Site E),
      attempt setting turn { st with conversation } code s₁ = (ended, s') ∧
      Takes setting st s t ended s' := by
  obtain ⟨run?, ended, s', hrun, hsaid, hsaw, hfares, hattempted⟩ :=
    attempt_fares hlocks hhost turn { st with conversation } code s₁
  refine ⟨⟨request, reply, run?⟩, ended, s', hrun, ?_, ?_, ?_, ?_, ?_⟩
  · rw [hsaid, htalk, List.append_assoc]
    rfl
  · exact fun run hran => ⟨code, hcode run?, hfiles ▸ hsaw run hran⟩
  · exact .after (.onwards (List.append_nil _).symm (by simp) hfiles) hfares
  · intro last hended
    rw [(hattempted last hended).1, hcode run?]
    rfl
  · intro st' hended
    rw [hcode run?]
    exact (hattempted _ hended).2

/-- Asking the model adds the request and the reply to the talk, and no more. -/
theorem ask_says (hmodel : setting.model = Crew.ask answer) (prompt : String)
    (history : List Turn) (s : Site E) :
    ∃ (reply : Reply String) (s₁ : Site E),
      Generate.ask setting.config setting.model prompt history none s = (reply.value?, s₁) ∧
      s₁.talk = s.talk ++ [.model ⟨prompt, history, none⟩ reply] ∧ s₁.files = s.files := by
  rw [hmodel, Generate.ask_eq]
  exact ⟨_, _, rfl, note_talk s _ _, rfl⟩

/-- A turn is taken. -/
theorem take_turn_takes (hlocks : c.Locks locked) (hhost : setting.host = c.host)
    (hmodel : setting.model = Crew.ask answer) (turn : Nat) (st : State) (s : Site E) :
    ∃ (t : TakenTurn) (ended : Except Failure TurnEnd) (s' : Site E),
      takeTurn setting turn st s = (ended, s') ∧ Takes setting st s t ended s' := by
  obtain ⟨reply, s₁, hasked, htalk, hfiles⟩ := ask_says hmodel st.prompt st.conversation s
  let unheard : TakenTurn := ⟨⟨st.prompt, st.conversation, none⟩, reply, none⟩
  rw [takeTurn, run_bind, hasked]
  cases htext : reply.value? with
  | none =>
      have hcode : unheard.code? setting.snippet = none :=
        TakenTurn.code_eq_none (show reply.value?.bind _ = none by rw [htext]; rfl)
      exact ⟨unheard, _, s₁, rfl, .fruitless rfl hcode htalk hfiles _ _ _⟩
  | some text =>
      have hoffer : reply.value?.bind FixReply.chatCode? = FixReply.chatCode? text := by
        rw [htext, Option.bind_some]
      cases hchat : FixReply.chatCode? text with
      | none =>
          refine ⟨unheard, _, s₁, by simp only [hchat]; rfl, ?_⟩
          exact .fruitless rfl (TakenTurn.code_eq_none (hoffer.trans hchat)) htalk hfiles _ _ _
      | some code =>
          -- what a reply offers does not depend on whether its code was tried
          have hcode (run?) : (TakenTurn.mk ⟨st.prompt, st.conversation, none⟩ reply
              run?).code? setting.snippet = _ :=
            TakenTurn.code_of_chat_code (hoffer.trans hchat)
          cases hsound : implausible? code setting.snippet with
          | some reason =>
              simp only [hsound, Option.isNone_some, Bool.false_eq_true, if_false] at hcode
              refine ⟨unheard, _, s₁, by simp only [hchat, hsound]; rfl, ?_⟩
              exact .fruitless rfl (hcode none) htalk hfiles _ _ _
          | none =>
              simp only [hsound, Option.isNone_none, if_true] at hcode
              simp only [hchat, hsound]
              exact attempt_takes hlocks hhost turn st _ hcode htalk hfiles

/-- Turns one after another from a site on: what was said, how often and with what code, and what
they come to. -/
structure TakesAll (setting : Setting (StateM (Site E))) (left : Nat) (st : State) (s : Site E)
    (turns : List TakenTurn) (ended : Except Failure TurnEnd) (s' : Site E) : Prop where
  talk : s'.talk = s.talk ++ turns.flatMap TakenTurn.talk
  length_le : turns.length ≤ left
  /-- Each turn is taken while patience lasts. -/
  patient : ∀ earlier t later, turns = earlier ++ t :: later →
    (idleAfter setting.snippet st.implausible earlier : Int) < setting.config.maxImplausibleTurns
  tested : ∀ t ∈ turns, ∀ run, t.run? = some run → ∃ code, t.code? setting.snippet = some code ∧
    s.files.patched? (patchOf setting code) = some run.1
  fares : Fares st.attempts s ended s'
  attempted : ∀ last, ended = .ok last → codes last.state.attempts =
    codes st.attempts ++ turns.filterMap (TakenTurn.code? setting.snippet)
  /-- Without success the turns are used up, or patience is. -/
  spent : ∀ st', ended = .ok (.onwards st') → turns.length = left ∨
    setting.config.maxImplausibleTurns ≤ idleAfter setting.snippet st.implausible turns

/-- No turn is taken when none is left, or patience is used up. -/
theorem TakesAll.nil {left : Nat} {st st' : State} {s : Site E}
    (hattempts : st'.attempts = st.attempts)
    (hspent : left = 0 ∨ setting.config.maxImplausibleTurns ≤ st.implausible) :
    TakesAll setting left st s [] (.ok (.onwards st')) s where
  talk := by simp
  length_le := Nat.zero_le _
  patient := by simp
  tested := by simp
  fares := .onwards (hattempts.trans (List.append_nil _).symm) (by simp) rfl
  attempted := by
    rintro _ ⟨⟩
    simp [TurnEnd.state, hattempts]
  spent _ _ := hspent.imp_left Eq.symm

/-- A turn that ends the dialogue is the last. -/
theorem TakesAll.single {left : Nat} {st : State} {s s' : Site E} {t : TakenTurn}
    {ended : Except Failure TurnEnd}
    (hfirst : (st.implausible : Int) < setting.config.maxImplausibleTurns)
    (h : Takes setting st s t ended s') (hlast : ∀ st', ended ≠ .ok (.onwards st')) :
    TakesAll setting (left + 1) st s [t] ended s' where
  talk := by simpa using h.talk
  length_le := by simp
  patient earlier t' later hall := by
    obtain rfl : earlier = [] := by
      cases earlier with
      | nil => rfl
      | cons => simp at hall
    exact hfirst
  tested := by simpa using h.tested
  fares := h.fares
  attempted last hended := by
    rw [h.attempted last hended]
    cases hcode : t.code? setting.snippet <;> simp [hcode]
  spent st' hended := absurd hended (hlast st')

/-- After a turn that does not end the dialogue others are taken. -/
theorem TakesAll.cons {left : Nat} {st st₁ : State} {s s₁ s' : Site E} {t : TakenTurn}
    {turns : List TakenTurn} {ended : Except Failure TurnEnd}
    (hfirst : (st.implausible : Int) < setting.config.maxImplausibleTurns)
    (h : Takes setting st s t (.ok (.onwards st₁)) s₁)
    (hall : TakesAll setting left st₁ s₁ turns ended s') :
    TakesAll setting (left + 1) st s (t :: turns) ended s' where
  talk := by rw [hall.talk, h.talk, List.append_assoc, List.flatMap_cons]
  length_le := Nat.succ_le_succ hall.length_le
  patient earlier t' later heq := by
    cases earlier with
    | nil => exact hfirst
    | cons _ earlier =>
        obtain ⟨rfl, hrest⟩ := List.cons_eq_cons.mp heq
        rw [idleAfter, ← h.idle st₁ rfl]
        exact hall.patient earlier t' later hrest
  tested := List.forall_mem_cons.mpr ⟨h.tested, h.fares.onwards_files ▸ hall.tested⟩
  fares := h.fares.after hall.fares
  attempted last hended := by
    have hbefore : codes st₁.attempts = codes st.attempts ++ (t.code? setting.snippet).toList :=
      h.attempted _ rfl
    rw [hall.attempted last hended, hbefore, List.append_assoc]
    cases hcode : t.code? setting.snippet <;> simp [hcode]
  spent st' hended := by
    rw [idleAfter, ← h.idle st₁ rfl]
    exact (hall.spent st' hended).imp_left (congrArg (· + 1))

variable (setting) in
/-- Turns are taken until one ends the dialogue, none is left or too many were fruitless. -/
theorem take_turns_takes (hlocks : c.Locks locked) (hhost : setting.host = c.host)
    (hmodel : setting.model = Crew.ask answer) (left turn : Nat) (st : State) (s : Site E) :
    ∃ (turns : List TakenTurn) (ended : Except Failure TurnEnd) (s' : Site E),
      takeTurns setting left turn st s = (ended, s') ∧
      TakesAll setting left st s turns ended s' := by
  induction left generalizing turn st s with
  | zero => exact ⟨[], _, s, rfl, .nil rfl (.inl rfl)⟩
  | succ left ih =>
      by_cases hlimit : setting.config.maxImplausibleTurns ≤ st.implausible
      · refine ⟨[], _, s, by rw [takeTurns, if_pos hlimit]; rfl, ?_⟩
        exact .nil rfl (.inr hlimit)
      obtain ⟨t, ended, s₁, hrun, htakes⟩ := take_turn_takes hlocks hhost hmodel turn st s
      have hfirst : (st.implausible : Int) < setting.config.maxImplausibleTurns :=
        Int.not_le.mp hlimit
      rw [takeTurns, if_neg hlimit, run_bind, hrun]
      match ended, htakes with
      | .error f, htakes => exact ⟨[t], _, s₁, rfl, .single hfirst htakes (by simp)⟩
      | .ok (.accepted st₁ p), htakes =>
          exact ⟨[t], _, s₁, rfl, .single hfirst htakes (by simp)⟩
      | .ok (.onwards st₁), htakes =>
          obtain ⟨turns, ended, s', hrest, hall⟩ := ih (turn + 1) st₁ s₁
          exact ⟨t :: turns, ended, s', hrest, .cons hfirst htakes hall⟩

end Turns

end Chat

end Mender
