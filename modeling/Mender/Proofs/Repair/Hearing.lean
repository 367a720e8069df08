import Mender.Proofs.Patch.Trial
import Mender.Proofs.Repair.Counting
import Mender.Proofs.Repair.Validation

/-!
# What listeners hear of a run

Listeners are told of each candidate before and after its validation, of files that were put back in
between, and of the result. The grammar of these events, with the runs of the tests among them, has
a rule for each way in which a validation may go (`Hearing`), one for each step of a run
(`Loop.Hearings`) and one for each way in which it may end (`Loop.RunHeard`). The rules are about
the steps that are taken, and every run follows them, whatever the collaborators do
(`Loop.run_heard`).
-/

namespace Mender

/-- The call tells listeners of an event or runs the tests. -/
def Host.Call.isHeard : Host.Call → Bool
  | .told _ | .tests => true
  | _ => false

/-- The events that were told and the runs of the tests so far. -/
def Recorded.heard {σ : Type} (s : Recorded σ) : List Host.Call :=
  s.calls.filter Host.Call.isHeard

/-- Between two states these events were told and the tests run, and none besides. -/
def Hears {σ : Type} (calls : List Host.Call) (s s' : Recorded σ) : Prop :=
  s'.heard = s.heard ++ calls

namespace Hears

variable {σ α : Type} {calls calls' : List Host.Call} {s s₁ s' : Recorded σ}

theorem trans (h : Hears calls s s₁) (h' : Hears calls' s₁ s') :
    Hears (calls ++ calls') s s' := by
  rw [Hears, h', h, List.append_assoc]

/-- Nothing was heard. -/
instance : IsPreorder (Recorded σ) (Hears []) where
  refl _ := (List.append_nil _).symm
  trans _ _ _ h h' := h.trans h'

theorem before (h : Hears [] s s₁) (h' : Hears calls s₁ s') : Hears calls s s' :=
  h.trans h'

theorem after (h : Hears calls s s₁) (h' : Hears [] s₁ s') : Hears calls s s' := by
  simpa using h.trans h'

theorem recording_keeps (call : Host.Call) (x : StateM σ α) :
    Keeps (Hears (if call.isHeard then [call] else [])) (recording call x) := by
  intro s
  cases h : call.isHeard <;> simp [Hears, recording, Recorded.heard, h]

theorem unrecorded_keeps (x : StateM σ α) : Keeps (Hears []) (unrecorded x) :=
  fun _ => (List.append_nil _).symm

end Hears

namespace Host

variable {σ : Type} (h : Host (StateM σ))

theorem reads_hear : h.recorded.Reads (Hears []) :=
  h.recorded_reads_of fun path => Hears.recording_keeps (.read path)

theorem writes_hear : h.recorded.Writes (Hears []) :=
  h.recorded_writes_of fun path text => Hears.recording_keeps (.write path text)

theorem runs_hear : h.recorded.Runs (Hears [.tests]) :=
  h.recorded_runs_of (Hears.recording_keeps .tests)

theorem asks_hear : h.recorded.Asks (Hears []) :=
  h.recorded_asks_of fun request => Hears.recording_keeps (.model request)

theorem tells_hear (event : Event) : Keeps (Hears [.told event]) (h.recorded.notify event) :=
  Hears.recording_keeps (.told event) (h.notify event)

theorem clock_hears : Keeps (Hears []) h.recorded.clock :=
  Hears.unrecorded_keeps h.clock

end Host

variable {σ : Type}

/-- In a state a candidate can be applied, its tests reject it, and putting its files back fails. -/
def Validate.Unrestored (config : RepairConfig) (files : FileAccess (StateM σ))
    (tests : StateM σ (Reply Outcome)) (p : Patch) (s : σ) (f : Failure) : Prop :=
  ∃ taken o s₁ s₂ s', files.applyTo p.changes p.files [] s = ((taken, .ok ()), s₁) ∧
    runTests config tests s₁ = (o, s₂) ∧ o.accepted = false ∧
    files.restore taken s₂ = (.error f, s')

/-- What is heard of a candidate that is validated in a round, from the state in which its
validation begins and from the outcome. Files are put back when the candidate was tested and not
accepted. A writer that fails then as a patch does makes this the outcome, and no rollback is
told. -/
inductive Hearing (config : RepairConfig) (host : Host (StateM σ)) (round : Nat) (p : Patch)
    (s : σ) : Outcome → List Host.Call → Prop
  | untested {o} :
      Hearing config host round p s o
        [.told (.candidate p round), .told (.validation (p.withOutcome o) o)]
  | accepted {o} :
      Validate.runsTests config host = true → o.accepted = true →
      Hearing config host round p s o
        [.told (.candidate p round), .tests, .told (.validation (p.withOutcome o) o)]
  | rejected {o} :
      Validate.runsTests config host = true → o.accepted = false →
      Hearing config host round p s o
        [.told (.candidate p round), .tests, .told (.rollback p.files),
          .told (.validation (p.withOutcome o) o)]
  | unrestored {tests files f} :
      Validate.runsTests config host = true → host.tests? = some tests →
      host.files? = some files → Validate.Unrestored config files tests p s f →
      f.kind = .patch →
      Hearing config host round p s (.failure [f.message] false)
        [.told (.candidate p round), .tests,
          .told (.validation (p.withOutcome (.failure [f.message] false))
            (.failure [f.message] false))]

/-- The event that tells of a result. -/
def RepairResult.closing (r : RepairResult) : Event :=
  if r.success then .success r else .failure r

/-- What is heard between the two events of a validation: at most a run of the tests, if it fails,
and otherwise what makes a hearing of its outcome. -/
def Validate.HeardBetween (config : RepairConfig) (host : Host (StateM σ)) (round : Nat) (p : Patch)
    (s : σ) (answer : Except Failure Outcome) (calls : List Host.Call) : Prop :=
  match answer with
  | .error _ => calls = [] ∨ calls = [.tests]
  | .ok o => Hearing config host round p s o
      (.told (.candidate p round) :: calls ++ [.told (.validation (p.withOutcome o) o)])

namespace Validate

variable {host : Host (StateM σ)} {config : RepairConfig} {round : Nat} {p : Patch}
  {answer : Except Failure Outcome} {files : FileAccess (StateM (Recorded σ))}
  {tests : StateM (Recorded σ) (Reply Outcome)} {s s' : Recorded σ}

/-- The trial of a validation either does not reach the tests, and fails, or runs them once. After
that it fails only when files are not put back. -/
theorem trial_hears (hread : ∀ path, Keeps (Hears []) (files.read path))
    (hwrite : ∀ path text, Keeps (Hears []) (files.write path text))
    (htests : Keeps (Hears [.tests]) tests)
    (h : files.trial p (do
      let outcome ← runTests config tests
      return (outcome.accepted, .ok outcome)) s = (answer, s')) :
    (∃ f, answer = .error f ∧ Hears [] s s') ∨
      (Hears [.tests] s s' ∧ ∀ f, answer = .error f → Unrestored config files tests p s f) := by
  have happlies := FileAccess.apply_to_keeps hread hwrite p.changes p.files [] s
  rcases happly : files.applyTo p.changes p.files [] s with ⟨⟨taken, f | _⟩, s₁⟩ <;>
    rw [happly] at happlies
  · -- the patch does not apply, so what was written is put back and the tests do not run
    rw [FileAccess.trial_unapplied happly] at h
    obtain ⟨f', hended⟩ := FileAccess.after_restoring_error Outcome (files.restore taken s₁).1 f
    rw [hended] at h
    cases h
    exact .inl ⟨f', rfl, happlies.trans (FileAccess.restore_keeps hwrite taken s₁)⟩
  right
  have hran : Hears [.tests] s (runTests config tests s₁).2 := by
    rw [run_tests_state]
    exact happlies.before (htests s₁)
  rcases hruns : runTests config tests s₁ with ⟨o, s₂⟩
  rw [hruns] at hran
  cases haccepted : o.accepted with
  | true =>
      rw [FileAccess.trial_committed happly (show _ = ((true, .ok o), s₂) by
        simp only [run_bind, hruns, haccepted]
        rfl)] at h
      cases h
      exact ⟨hran, by simp⟩
  | false =>
      rw [FileAccess.trial_rejected happly (show _ = ((false, .ok o), s₂) by
        simp only [run_bind, hruns, haccepted]
        rfl)] at h
      -- a rejected candidate is put back, and nothing else can fail after the tests
      have hrestores := hran.after (FileAccess.restore_keeps hwrite taken s₂)
      rcases hrestore : files.restore taken s₂ with ⟨f | _, s₃⟩ <;>
        rw [hrestore] at h hrestores <;> cases h
      · refine ⟨hrestores, ?_⟩
        rintro _ ⟨⟩
        exact ⟨taken, o, s₁, s₂, _, happly, hruns, haccepted, hrestore⟩
      · exact ⟨hrestores, by simp [FileAccess.afterRestoring]⟩

/-- A candidate that is tested is heard of as its outcome says. -/
theorem apply_and_test_hears (hruns : runsTests config host.recorded = true)
    (hfiles : host.recorded.files? = some files) (htests : host.recorded.tests? = some tests)
    (h : applyAndTest config host.recorded files tests p s = (answer, s')) :
    ∃ calls, Hears calls s s' ∧ HeardBetween config host.recorded round p s answer calls := by
  obtain ⟨hread, hwrite⟩ := files_keep host.reads_hear host.writes_hear hfiles
  rw [applyAndTest, run_bind] at h
  rcases htrial : files.trial p (do
    let outcome ← runTests config tests
    return (outcome.accepted, .ok outcome)) s with ⟨ended, s₁⟩
  rw [htrial] at h
  obtain ⟨f, rfl, hnone⟩ | ⟨hran, hfails⟩ :=
    trial_hears hread hwrite (host.runs_hear tests htests) htrial
  · -- the tests were not run: the failure is an outcome or goes on
    rcases patch_outcome_error f with houtcome | houtcome <;> simp only [houtcome] at h <;> cases h
    · exact ⟨[], hnone, .inl rfl⟩
    · exact ⟨[], hnone, .untested⟩
  cases ended with
  | error f =>
      by_cases hkind : f.kind = .patch
      · simp only [patch_outcome_of_patch hkind] at h
        cases h
        exact ⟨[.tests], hran, .unrestored hruns htests hfiles (hfails f rfl) hkind⟩
      · simp only [patch_outcome_of_other hkind] at h
        cases h
        exact ⟨[.tests], hran, .inr rfl⟩
  | ok o =>
      cases haccepted : o.accepted with
      | true =>
          simp only [patchOutcome, haccepted] at h
          cases h
          exact ⟨[.tests], hran, .accepted hruns haccepted⟩
      | false =>
          simp only [patchOutcome, haccepted] at h
          cases h
          exact ⟨[.tests, .told (.rollback p.files)], hran.trans (host.tells_hear _ _),
            .rejected hruns haccepted⟩

/-- The ways to validate a candidate: not at all, with the tests, or without them. -/
theorem candidate_cases (config : RepairConfig) (host : Host (StateM σ)) (p : Patch) :
    candidate config host p = pure (.ok (.failure [Reason.noFileAccess] false)) ∨
      (runsTests config host = true ∧ ∃ tests files, host.tests? = some tests ∧
        host.files? = some files ∧
          candidate config host p = applyAndTest config host files tests p) ∨
      candidate config host p = applyUntested host.files? p := by
  unfold candidate
  split
  · exact .inl rfl
  · rename_i tests files hwith htests hfiles
    exact .inr (.inl ⟨by simp [runsTests, hwith, htests], tests, files, htests, hfiles, rfl⟩)
  · exact .inr (.inr rfl)

/-- A candidate is heard of as its outcome says. -/
theorem candidate_hears (round : Nat)
    (h : candidate config host.recorded p s = (answer, s')) :
    ∃ calls, Hears calls s s' ∧ HeardBetween config host.recorded round p s answer calls := by
  obtain heq | ⟨hruns, tests, files, htests, hfiles, heq⟩ | heq :=
    candidate_cases config host.recorded p <;> rw [heq] at h
  · cases h
    exact ⟨[], refl_of (Hears []) s, .untested⟩
  · exact apply_and_test_hears hruns hfiles htests h
  · have hkeeps := apply_untested_keeps Surrounds.self host.reads_hear host.writes_hear p s
    rw [h] at hkeeps
    cases answer with
    | error f => exact ⟨[], hkeeps, .inl rfl⟩
    | ok o => exact ⟨[], hkeeps, .untested⟩

end Validate

namespace Loop

/-- Steps of a run, with what is heard on the way: candidates are validated one after another, and
now and then a refined one is asked for. -/
inductive Hearings (setting : Setting (StateM σ)) (s₀ : σ) : List Host.Call → σ → Prop
  | start : Hearings setting s₀ [] s₀
  | validated {round p o calls last s s'} :
      Hearings setting s₀ calls s → Judges setting round p o s s' →
      Hearing setting.config setting.host round p
        (setting.host.notify (.candidate p round) s).2 o last →
      Hearings setting s₀ (calls ++ last) s'
  | refined {tried made calls s s'} :
      Hearings setting s₀ calls s → refinement setting tried s = (made, s') →
      Hearings setting s₀ calls s'

/-- What is heard of a run, from its answer, before its end is told: candidates that are validated,
and one more at most, whose validation fails and with it the run. -/
inductive RunHeard (setting : Setting (StateM σ)) (s₀ : σ) {α : Type} :
    Except Failure α → List Host.Call → σ → Prop
  | hearings {answer calls s} :
      Hearings setting s₀ calls s → RunHeard setting s₀ answer calls s
  | unvalidated {round p f calls tests s s'} :
      Hearings setting s₀ calls s → Raises setting round p f s s' →
      tests = [] ∨ tests = [.tests] →
      RunHeard setting s₀ (.error f) (calls ++ .told (.candidate p round) :: tests) s'

variable {host : Host (StateM σ)} {config : RepairConfig} {fault : Fault} {codeContext : String}
  {pool cands tried refined : List Patch} {round : Nat} {p : Patch} {s₀ s s' : Recorded σ}

theorem Judges.heard {o : Outcome}
    (h : Judges ⟨config, host.recorded, fault, codeContext⟩ round p o s s') :
    ∃ calls, Hears calls s s' ∧
      Hearing config host.recorded round p (host.recorded.notify (.candidate p round) s).2 o
        calls := by
  obtain ⟨_, s₁, hends, rfl⟩ := h
  obtain ⟨calls, hcalls, hheard⟩ := Validate.candidate_hears round hends
  refine ⟨_, ?_, hheard⟩
  exact ((host.tells_hear _ s).trans hcalls).trans (host.tells_hear _ s₁)

theorem Raises.heard {f : Failure}
    (h : Raises ⟨config, host.recorded, fault, codeContext⟩ round p f s s') :
    ∃ tests, Hears (.told (.candidate p round) :: tests) s s' ∧
      (tests = [] ∨ tests = [.tests]) := by
  obtain ⟨calls, hcalls, hheard⟩ := Validate.candidate_hears round h.2
  exact ⟨calls, (host.tells_hear _ s).trans hcalls, hheard⟩

theorem refinement_hears {made : Except Failure (List Patch)}
    (h : refinement ⟨config, host.recorded, fault, codeContext⟩ tried s = (made, s')) :
    Hears [] s s' := by
  have hkeeps := Generate.refine_keeps Surrounds.self host.reads_hear host.asks_hear config fault
    codeContext tried s
  rw [refinement] at h
  rwa [h] at hkeeps

/-- In the course of a run candidates are heard of one after another. -/
theorem Course.heard
    (h : Course ⟨config, host.recorded, fault, codeContext⟩ pool s₀ cands tried refined s) :
    ∃ calls, Hears calls s₀ s ∧
      Hearings ⟨config, host.recorded, fault, codeContext⟩ s₀ calls s := by
  induction h with
  | start => exact ⟨[], refl_of (Hears []) s₀, .start⟩
  | rejected _ hjudges _ ih =>
      obtain ⟨calls, hcalls, hheard⟩ := ih
      obtain ⟨last, hlast, hhearing⟩ := hjudges.heard
      exact ⟨_, hcalls.trans hlast, hheard.validated hjudges hhearing⟩
  | refined _ _ hrefine ih =>
      obtain ⟨calls, hcalls, hheard⟩ := ih
      exact ⟨calls, hcalls.after (refinement_hears hrefine), hheard.refined hrefine⟩

theorem RunsTo.heard {memory memory' : Memory} {ended : Except Failure RunEnd}
    (h : RunsTo ⟨config, host.recorded, fault, codeContext⟩ memory pool s₀ refined memory' ended
      s') :
    ∃ calls, Hears calls s₀ s' ∧
      RunHeard ⟨config, host.recorded, fault, codeContext⟩ s₀ ended calls s' := by
  cases h with
  | raised hcourse _ hraises =>
      obtain ⟨calls, hcalls, hheard⟩ := hcourse.heard
      obtain ⟨tests, hlast, htests⟩ := hraises.heard
      exact ⟨_, hcalls.trans hlast, .unvalidated hheard hraises htests⟩
  | unrefined hcourse _ hrefine | settled hcourse _ hrefine =>
      obtain ⟨calls, hcalls, hheard⟩ := hcourse.heard
      exact ⟨calls, hcalls.after (refinement_hears hrefine), .hearings (hheard.refined hrefine)⟩
  | last hcourse =>
      obtain ⟨calls, hcalls, hheard⟩ := hcourse.heard
      exact ⟨calls, hcalls, .hearings hheard⟩
  | accepted hcourse _ hjudges _ =>
      obtain ⟨calls, hcalls, hheard⟩ := hcourse.heard
      obtain ⟨last, hlast, hhearing⟩ := hjudges.heard
      exact ⟨_, hcalls.trans hlast, .hearings (hheard.validated hjudges hhearing)⟩

/-- A run is its rounds between two looks at the clock. If they fail, so does the run; otherwise its
result is told. -/
theorem run_eq_rounds {τ : Type} (setting : Setting (StateM τ)) (memory : Memory)
    (pool : List Patch) (s : τ) :
    run setting memory pool s =
      match rounds setting memory pool (setting.host.clock s).2 with
      | ((memory', .error f), s₁) => ((memory', .error f), s₁)
      | ((memory', .ok last), s₁) =>
        let r := resultOf setting.fault last
          ((setting.host.clock s₁).1 - (setting.host.clock s).1)
        ((memory', .ok r), (setting.host.notify r.closing (setting.host.clock s₁).2).2) := by
  rw [run, run_bind, rounds]
  cases pool.isEmpty with
  | true => rfl
  | false =>
      simp only [Bool.false_eq_true, if_false, run_bind]
      rcases runRounds setting setting.config.maxIterations.toNat 0 memory 0 pool
        (setting.host.clock s).2 with ⟨⟨memory', f | last⟩, s₁⟩ <;> rfl

/-- What is heard of a run over new candidates. -/
theorem run_heard (host : Host (StateM σ)) (config : RepairConfig) (fault : Fault)
    (codeContext : String) (memory : Memory) (hpool : ∀ p ∈ pool, p.validated = false)
    (s : Recorded σ) :
    ∃ memory' answer s₁ s' calls,
      run ⟨config, host.recorded, fault, codeContext⟩ memory pool s = ((memory', answer), s') ∧
      RunHeard ⟨config, host.recorded, fault, codeContext⟩ (host.recorded.clock s).2 answer calls
        s₁ ∧
      match answer with
      | .error _ => Hears calls s s'
      | .ok r => r.fault = fault ∧ Hears (calls ++ [.told r.closing]) s s' := by
  obtain ⟨memory', ended, s₁, hrounds, hends⟩ := rounds_run_to
    ⟨config, host.recorded, fault, codeContext⟩ memory hpool (host.recorded.clock s).2
  obtain ⟨calls, hcalls, hheard⟩ : ∃ calls, Hears calls (host.recorded.clock s).2 s₁ ∧
      RunHeard ⟨config, host.recorded, fault, codeContext⟩ (host.recorded.clock s).2 ended calls
        s₁ := by
    rcases hends with ⟨_, _, refined, hends⟩ | ⟨_, _, _, rfl⟩
    · exact hends.heard
    · exact ⟨[], refl_of (Hears []) _, .hearings .start⟩
  have hstart := (host.clock_hears s).before hcalls
  rw [run_eq_rounds]
  dsimp only
  rw [hrounds]
  cases hheard with
  | @unvalidated round p f calls tests s₂ _ hbefore hraises htests =>
      exact ⟨memory', .error f, s₁, s₁, _, rfl, .unvalidated hbefore hraises htests, hstart⟩
  | hearings hheard =>
      cases ended with
      | error f => exact ⟨memory', .error f, s₁, s₁, calls, rfl, .hearings hheard, hstart⟩
      | ok last =>
          refine ⟨memory', .ok _, s₁, _, calls, rfl, .hearings hheard, rfl, ?_⟩
          exact (hstart.after (host.clock_hears s₁)).trans (host.tells_hear _ _)

end Loop

end Mender
