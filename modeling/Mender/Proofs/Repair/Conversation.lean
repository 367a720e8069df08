import Mender.Proofs.Repair.Provenance
import Mender.Proofs.Repair.Turns

/-!
# Repair by dialogue

Before the turns of a dialogue and after them nothing happens to the files: a dialogue that fails
puts back a text that is there already. `Chat.repair_is_safe_and_bounded` says what dialogues do and
how long they last, with any model and any tests, over a store whose writes do not fail.
-/

namespace Mender.Chat

open Site

variable {E : Type}

/-- A dialogue about a bug as it was conducted between two states of a site, in turns that were
taken. -/
structure Conducted (config : RepairConfig) (ctx : Context) (turns : List TakenTurn)
    (ended : Except Failure Ended) (s s' : Site E) : Prop where
  /-- All requests and all runs of the tests belong to turns: one request to each, and one run at
  most. -/
  talk : s'.talk = s.talk ++ turns.flatMap TakenTurn.talk
  length_le : turns.length ≤ config.maxChatTurns.toNat
  /-- No turn is taken after as many in a row without plausible code as are allowed. -/
  patient : ∀ earlier idle turn later, turns = earlier ++ idle ++ turn :: later →
    (∀ t ∈ idle, t.code? ctx.snippet = none) → (idle.length : Int) < config.maxImplausibleTurns
  /-- The tests are run for plausible code only, which is not the code there was, and they see it in
  the files of the first state. -/
  tested : ∀ t ∈ turns, ∀ run, t.run? = some run → ∃ text code,
    t.reply = .value text ∧ FixReply.chatCode? text = some code ∧
    implausible? code ctx.snippet = none ∧
    (∀ before, ctx.snippet = some before → Text.trimmed code ≠ Text.trimmed before) ∧
    ∃ p : Patch, p.changes.map (·.new) = [code] ∧ s.files.patched? p = some run.1
  /-- All plausible code is attempted. -/
  attempted : ∀ e, ended = .ok e → codes e.attempts = turns.filterMap (TakenTurn.code? ctx.snippet)
  raised : ∀ f, ended = .error f → s'.files = s.files
  /-- A dialogue is given up when it has no place to be about, its turns are used up, or the last of
  them had no plausible code and were as many as are allowed. -/
  failed : ∀ e, ended = .ok e → e.success = false →
    (e.applied = none ∧ (∀ a ∈ e.attempts, a.outcome.accepted = false) ∧ s'.files = s.files) ∧
    (ctx.first = none ∨ turns.length = config.maxChatTurns.toNat ∨
      ∃ earlier idle, turns = earlier ++ idle ∧ (∀ t ∈ idle, t.code? ctx.snippet = none) ∧
        config.maxImplausibleTurns ≤ idle.length)
  /-- The applied patch is that of the last attempt, and no other was accepted. -/
  succeeded : ∀ e, ended = .ok e → e.success = true → ∃ earlier last,
    e.attempts = earlier ++ [last] ∧ e.applied = some last.patch ∧
    last.outcome.accepted = true ∧ (∀ a ∈ earlier, a.outcome.accepted = false) ∧
    s.files.patched? last.patch = some s'.files

/-- A dialogue without a turn. -/
theorem Conducted.of_quiet {config : RepairConfig} {ctx : Context}
    {ended : Except Failure Ended} {s s' : Site E} (hquiet : Quiet s s')
    (hfails : ∀ e, ended = .ok e →
      ctx.first = none ∧ e.success = false ∧ e.applied = none ∧ e.attempts = []) :
    Conducted config ctx [] ended s s' where
  talk := by simpa using hquiet.talk
  length_le := Nat.zero_le _
  patient := by simp
  tested := by simp
  attempted e hended := by simp [(hfails e hended).2.2.2, codes]
  raised _ _ := hquiet.files
  failed e hended _ := by
    obtain ⟨hnowhere, _, happlied, hattempts⟩ := hfails e hended
    exact ⟨⟨happlied, by simp [hattempts], hquiet.files⟩, .inl hnowhere⟩
  succeeded e hended hsuccess := by simp [(hfails e hended).2.1] at hsuccess

/-- A dialogue after a quiet beginning. -/
theorem Conducted.before {config : RepairConfig} {ctx : Context} {turns : List TakenTurn}
    {ended : Except Failure Ended} {s s₁ s' : Site E} (hquiet : Quiet s s₁)
    (h : Conducted config ctx turns ended s₁ s') : Conducted config ctx turns ended s s' where
  talk := hquiet.talk ▸ h.talk
  length_le := h.length_le
  patient := h.patient
  tested := hquiet.files ▸ h.tested
  attempted := h.attempted
  raised := hquiet.files ▸ h.raised
  failed := hquiet.files ▸ h.failed
  succeeded := hquiet.files ▸ h.succeeded

/-- What the end of its turns makes of a dialogue. -/
inductive Concludes : Except Failure TurnEnd → Except Failure Ended → Prop
  | raised {f} : Concludes (.error f) (.error f)
  | unrestored {st f} : Concludes (.ok (.onwards st)) (.error f)
  | failed {st e} : e.success = false → e.applied = none → e.attempts = st.attempts →
      Concludes (.ok (.onwards st)) (.ok e)
  | succeeded {st p e} : e.success = true → e.applied = some p → e.attempts = st.attempts →
      Concludes (.ok (.accepted st p)) (.ok e)

/-- A dialogue of turns that were taken from its beginning on. -/
theorem Conducted.of_turns {setting : Setting (StateM (Site E))} {ctx : Context}
    (hsnippet : setting.snippet = ctx.snippet) {st : State} (hstart : st.attempts = [])
    (hidle : st.implausible = 0) {turns : List TakenTurn} {ends : Except Failure TurnEnd}
    {ended : Except Failure Ended} {s s₁ s' : Site E}
    (hturns : TakesAll setting setting.config.maxChatTurns.toNat st s turns ends s₁)
    (hconcludes : Concludes ends ended) (hquiet : Quiet s₁ s') :
    Conducted setting.config ctx turns ended s s' where
  talk := hquiet.talk.trans hturns.talk
  length_le := hturns.length_le
  patient earlier idle turn later hall hnone := by
    -- the turns between are a streak after which one more turn was allowed
    have hlimit := hturns.patient (earlier ++ idle) turn later hall
    rw [idle_after_append, hsnippet, idle_after_idle hnone] at hlimit
    omega
  tested t ht run hrun := by
    obtain ⟨code, hcode, hpatched⟩ := hturns.tested t ht run hrun
    rw [hsnippet] at hcode
    obtain ⟨⟨text, hreply, hchat⟩, hsound⟩ := TakenTurn.code_eq_some.mp hcode
    exact ⟨text, code, hreply, hchat, hsound,
      fun before hbefore => trimmed_ne_of_plausible (hbefore ▸ hsound), _, rfl, hpatched⟩
  attempted e hended := by
    have hattempted := hturns.attempted
    rw [hstart, hsnippet] at hattempted
    subst hended
    cases hconcludes with
    | failed _ _ hattempts | succeeded _ _ hattempts =>
        rw [hattempts]
        exact hattempted _ rfl
  raised f hended := by
    have hfares := hturns.fares
    subst hended
    cases hconcludes with
    | raised => cases hfares with | raised hfiles => exact hquiet.files.trans hfiles
    | unrestored => exact hquiet.files.trans hfares.onwards_files
  failed e hended hfails := by
    have hfares := hturns.fares
    have hspent := hturns.spent
    subst hended
    cases hconcludes with
    | failed _ happlied hattempts =>
        cases hfares with
        | onwards hmore hrejected hfiles =>
            rw [hstart, List.nil_append] at hmore
            refine ⟨⟨happlied, hattempts ▸ hmore ▸ hrejected, hquiet.files.trans hfiles⟩,
              .inr ((hspent _ rfl).imp_right fun hlimit => ?_)⟩
            -- the count at the end is the length of the last streak
            obtain ⟨earlier, idle, hall, hnone, hcount⟩ := exists_idle ctx.snippet turns
            rw [hidle, hsnippet, hcount] at hlimit
            exact ⟨earlier, idle, hall, hnone, hlimit⟩
    | succeeded hsuccess => simp [hsuccess] at hfails
  succeeded e hended hsucceeds := by
    have hfares := hturns.fares
    subst hended
    cases hconcludes with
    | failed hfails => simp [hfails] at hsucceeds
    | succeeded _ happlied hattempts =>
        cases hfares with
        | accepted hmore hrejected haccepted hpatched =>
            rw [hstart, List.nil_append] at hmore
            exact ⟨_, _, hattempts.trans hmore, happlied, haccepted, hrejected,
              hquiet.files ▸ hpatched⟩

variable {c : Crew E}

/-- Putting a file back that is as it was found is quiet. -/
theorem rollback_quiet {path : String} {before : Option String} {s : Site E}
    (hbefore : ∀ text, before = some text → s.files path = some text) :
    Quiet s (rollback c.host path before s).2 := by
  cases before with
  | none => exact refl_of Quiet s
  | some text =>
      have hread := c.host.readable_keeps c.reads_quiet path s
      have hsame := hbefore text rfl
      rw [← hread.files] at hsame
      unfold rollback
      rw [show c.host.write? = some c.write from rfl]
      simp only [run_bind]
      rcases hfound : c.host.readable path s with ⟨f | now, s₁⟩ <;> rw [hfound] at hread hsame
      · exact hread
      · dsimp only
        split
        · exact hread
        · have hwrote := trans_of Quiet hread (c.write_quiet hsame)
          rw [run_bind]
          rcases hwritten : c.write path text s₁ with ⟨f | _, s₂⟩ <;> rw [hwritten] at hwrote
          · exact hwrote
          · exact trans_of Quiet hwrote (c.notify_quiet _ s₂)

/-- A dialogue about a bug whose range is known. -/
theorem converse_conducted {locked : Set String} (hlocks : c.Locks locked) (config : RepairConfig)
    (answer : Request → Site E → Reply String × E) (ctx : Context) (first : Int) (s : Site E) :
    ∃ (turns : List TakenTurn) (ended : Except Failure Ended) (s' : Site E),
      converse config c.host (Crew.ask answer) ctx first s = (ended, s') ∧
      Conducted config ctx turns ended s s' := by
  have hclock := c.clock_quiet s
  have hread := trans_of Quiet hclock
    (c.host.readable_keeps c.reads_quiet ctx.file (c.host.clock s).2)
  have hthere := (Generate.readable_answers (c := c) ctx.file (c.host.clock s).2 rfl).2.1
  simp only [converse, run_bind]
  rcases hfound : c.host.readable ctx.file (c.host.clock s).2 with ⟨f | before, s₁⟩ <;>
    rw [hfound] at hread hthere
  · exact ⟨[], .error f, s₁, rfl, .of_quiet hread (by simp)⟩
  · have hstart := trans_of Quiet hread (c.notify_quiet (.chatStart ctx.file) s₁)
    obtain ⟨turns, ends, s₂, hrun, hturns⟩ := take_turns_takes
      ⟨config, c.host, Crew.ask answer, .ofRange ctx.file first ctx.last, ctx.snippet⟩
      hlocks rfl rfl config.maxChatTurns.toNat 0
      ⟨Prompt.chatOpening, [⟨.system, Prompt.chatSystem ctx.bug⟩], [], [], 0, none⟩
      (c.host.notify (.chatStart ctx.file) s₁).2
    have hconducted (ended s') (hconcludes : Concludes ends ended) (hquiet : Quiet s₂ s') :
        Conducted config ctx turns ended s s' :=
      .before hstart (.of_turns rfl rfl rfl hturns hconcludes hquiet)
    simp only [run_bind, hrun]
    match ends, hturns, hconducted with
    | .error f, _, hconducted =>
        exact ⟨turns, _, s₂, rfl, hconducted _ _ .raised (refl_of Quiet s₂)⟩
    | .ok (.accepted st p), _, hconducted =>
        exact ⟨turns, _, _, rfl, hconducted _ _ (.succeeded rfl rfl rfl) (c.clock_quiet s₂)⟩
    | .ok (.onwards st), hturns, hconducted =>
        -- no turn changed the files, so what is put back is what is there
        have hsame : s₂.files = (c.host.clock s).2.files :=
          (hturns.fares.onwards_files.trans hstart.files).trans hclock.files.symm
        have hback : Quiet s₂ (rollback c.host ctx.file before s₂).2 :=
          rollback_quiet fun text hbefore => hsame ▸ hthere text (by rw [hbefore])
        simp only [run_bind]
        rcases hended : rollback c.host ctx.file before s₂ with ⟨f | _, s₃⟩ <;> rw [hended] at hback
        · exact ⟨turns, _, s₃, rfl, hconducted _ _ .unrestored hback⟩
        · exact ⟨turns, _, _, rfl, hconducted _ _ (.failed rfl rfl rfl)
            (trans_of Quiet hback (c.clock_quiet s₃))⟩

/-- A snippet that is given is kept. -/
theorem resolve_snippet {ctx : Context} {snippet : String} (h : ctx.snippet = some snippet)
    (content : Option String) : (resolve ctx content).snippet = some snippet := by
  unfold resolve
  split
  · exact h
  · simp [h]

/-- A dialogue makes a request in each turn, of which there are no more than are allowed, and none
after as many in a row without plausible code as are allowed. It attempts all plausible code, and
runs the tests for nothing else, once a turn at most. If it fails the files are as they were; if it
succeeds they are as they were but for the applied patch, that of the last attempt, which alone was
accepted. So it is for any model, any tests and any store whose writes do not fail. -/
theorem repair_is_safe_and_bounded (c : Crew E) (hwrites : c.WritesSucceed) (config : RepairConfig)
    (answer : Request → Site E → Reply String × E) (ctx : Context) (s : Site E) :
    ∃ (resolved : Context) (ended : Except Failure Ended) (s' : Site E) (turns : List TakenTurn),
      repair config c.host (Crew.ask answer) ctx s = ((resolved, ended), s') ∧
      (∀ snippet, ctx.snippet = some snippet → resolved.snippet = some snippet) ∧
      Conducted config resolved turns ended s s' := by
  have hread := c.host.readable_keeps c.reads_quiet ctx.file s
  rw [repair, run_bind]
  rcases hfound : c.host.readable ctx.file s with ⟨f | content, s₁⟩ <;> rw [hfound] at hread
  · exact ⟨ctx, .error f, s₁, [], rfl, fun _ h => h, .of_quiet hread (by simp)⟩
  · have hsnippet (snippet) (h : ctx.snippet = some snippet) := resolve_snippet h content
    dsimp only
    cases hfirst : (resolve ctx content).first with
    | none => exact ⟨_, _, s₁, [], rfl, hsnippet, .of_quiet hread (by simp [hfirst])⟩
    | some first =>
        obtain ⟨turns, ended, s', hrun, hconducted⟩ :=
          converse_conducted hwrites.locks config answer (resolve ctx content) first s₁
        refine ⟨_, ended, s', turns, ?_, hsnippet, .before hread hconducted⟩
        dsimp only
        rw [run_bind, hrun]
        rfl

theorem repair_is_safe_with_one_reply :
    (Crew.steady (fun _ _ => none) (.value { success := true })).WritesSucceed ∧
      ∃ resolved ended s' turns,
        repair {} (Crew.steady (fun _ _ => none) (.value { success := true })).host
          (Crew.ask fun _ _ => (.value "```\nx = 2\n```", ()))
          { file := "a.py", message := "wrong value", first := some 1 }
          (.single "a.py" "x = 1\n") = ((resolved, ended), s') ∧
        Conducted {} resolved turns ended (.single "a.py" "x = 1\n") s' := by
  have hwrites : (Crew.steady (fun _ _ => none) (.value { success := true })).WritesSucceed :=
    fun _ _ _ => rfl
  obtain ⟨resolved, ended, s', turns, hrun, _, hconducted⟩ := repair_is_safe_and_bounded _ hwrites
    {} (fun _ _ => (.value "```\nx = 2\n```", ()))
    { file := "a.py", message := "wrong value", first := some 1 } (.single "a.py" "x = 1\n")
  exact ⟨hwrites, resolved, ended, s', turns, hrun, hconducted⟩

end Mender.Chat
