import Mender.Proofs.Repair.Round

/-!
# Isolation of candidates

Over all rounds of a run each candidate is tested on the files as they were at the start, with that
candidate applied and nothing else, and the first that is accepted is the one that is left applied.
-/

namespace Mender.Loop

open Site

variable {E : Type} {c : Crew E} {locked : Set String} {config : RepairConfig}

/-- A run over a pool of candidates that were not validated. When there is no round at all the pool
stays as it is. -/
theorem run_tried (hlocks : c.Locks locked) (config : RepairConfig) (fault : Fault)
    (codeContext : String) (memory : Memory) {pool : List Patch}
    (hpool : ∀ p ∈ pool, p.validated = false) (s : Site E) :
    ∃ refined memory' result s',
      run ⟨config, c.host, fault, codeContext⟩ memory pool s = ((memory', result), s') ∧
      (∀ q ∈ refined, q.source = .refinement) ∧
      (∀ r, result = .ok r → r.success = r.applied.isSome) ∧
      (Tried config c s (pool ++ refined) (result.map (·.verdict)) s' ∨
        (refined = [] ∧ result.map (·.verdict) = .ok (pool, none) ∧ Untouched s s')) := by
  have hstart := c.clock_keeps s
  obtain ⟨memory', ended, s₁, hends, hrun⟩ :=
    run_cases ⟨config, c.host, fault, codeContext⟩ memory hpool s
  have hverdict : ∃ refined, (∀ q ∈ refined, q.source = .refinement) ∧
      (Tried config c s (pool ++ refined) (ended.map (·.verdict)) s₁ ∨
        (refined = [] ∧ ended.map (·.verdict) = .ok (pool, none) ∧ Untouched s s₁)) := by
    rcases hends with ⟨_, _, refined, hends⟩ | ⟨_, _, rfl, rfl⟩
    · exact ⟨refined, fun q hq => (hends.refined_new q hq).2,
        .inl (hends.tries hlocks hpool hstart)⟩
    · exact ⟨[], by simp, .inr ⟨rfl, rfl, hstart⟩⟩
  obtain ⟨refined, hrefined, hverdict⟩ := hverdict
  obtain ⟨f, rfl, hrun⟩ | ⟨last, duration, event, rfl, _, hrun⟩ := hrun
  · exact ⟨refined, memory', .error f, s₁, hrun, hrefined, by simp, hverdict⟩
  · have hkeeps := trans_of Untouched (c.clock_keeps s₁)
      (c.notify_keeps event (c.host.clock s₁).2)
    refine ⟨refined, memory', _, _, hrun, hrefined, ?_, ?_⟩
    · rintro _ ⟨⟩
      rfl
    · exact hverdict.imp (·.untouched hkeeps) fun ⟨hnone, hsame, h⟩ =>
        ⟨hnone, hsame, trans_of Untouched h hkeeps⟩

/-- What came of a run between two states of a site: candidates that were in its pool or were
refined, its result, and the files. -/
structure Isolated (cands : List Patch) (result : Except Failure RepairResult) (s s' : Site E) :
    Prop where
  /-- The tests were run for candidates in order, each time on the files at the start with that
  candidate applied. -/
  runs : ∃ new, s'.runs = s.runs ++ new ∧ List.SublistForall₂ (Saw s.files) new cands
  failed : ∀ f, result = .error f → s'.files = s.files
  patches : ∀ r, result = .ok r → List.Forall₂ Patch.Becomes cands r.patches
  succeeded : ∀ r, result = .ok r → r.success = true → ∃ earlier p later,
    r.patches = earlier ++ p :: later ∧ r.applied = some earlier.length ∧
    r.appliedPatch? = some p ∧ p.accepted = true ∧ (∀ q ∈ earlier, q.rejected = true) ∧
    (∀ q ∈ later, q.validated = false) ∧ s.files.patched? p = some s'.files
  exhausted : ∀ r, result = .ok r → r.success = false →
    r.applied = none ∧ (∀ q ∈ r.patches, q.accepted = false) ∧ s'.files = s.files

/-- The applied patch of a result, by its place. -/
theorem applied_patch_eq_some {r : RepairResult} {earlier later : List Patch} {p : Patch}
    (hpatches : r.patches = earlier ++ p :: later) (happlied : r.applied = some earlier.length) :
    r.appliedPatch? = some p := by
  simp [RepairResult.appliedPatch?, happlied, hpatches]

theorem Isolated.of_tried {cands : List Patch} {result : Except Failure RepairResult}
    {s s' : Site E} (hsuccess : ∀ r, result = .ok r → r.success = r.applied.isSome)
    (h : Tried config c s cands (result.map (·.verdict)) s') :
    Isolated cands result s s' := by
  -- what the result says decides which of the three ways the trying went
  generalize hended : result.map (·.verdict) = ended at h
  cases h with
  | @raised cands tried rest f _ hall =>
      obtain ⟨new, hruns, _, hsaw⟩ := hall.runs
      obtain rfl := map_eq_error hended
      refine ⟨⟨new, hruns, ?_⟩, fun _ _ => hall.files, by simp, by simp, by simp⟩
      simpa using sublist_forall₂_append hsaw (.nil (l := rest))
  | exhausted hall =>
      obtain ⟨new, hruns, _, hsaw⟩ := hall.runs
      obtain ⟨r, rfl, heq⟩ := map_eq_ok hended
      obtain ⟨rfl, happlied⟩ := Prod.mk.inj heq
      have hfails : r.success = false := by simp [hsuccess r rfl, happlied]
      refine ⟨⟨new, hruns, hsaw⟩, by simp, ?_, ?_, ?_⟩
      · rintro _ ⟨⟩
        simpa using hall.becomes []
      · rintro _ ⟨⟩ hsucceeds
        simp [hfails] at hsucceeds
      · rintro _ ⟨⟩ _
        exact ⟨happlied, fun q hq => Patch.not_accepted_of_rejected
          (Patch.rejected_of_forall₂ hall.outcomes q hq), hall.files⟩
  | @accepted cands tried rest p o s₁ _ hall hlater haccepts =>
      obtain ⟨new, hruns, _, hsaw⟩ := hall.runs
      obtain ⟨last, hlast, hsawlast⟩ := haccepts.new_runs
      obtain ⟨r, rfl, heq⟩ := map_eq_ok hended
      obtain ⟨hpatches, happlied⟩ := Prod.mk.inj heq
      have hsucceeds : r.success = true := by simp [hsuccess r rfl, happlied]
      have hpatched : s.files.patched? p = some s'.files := hall.files ▸ haccepts.files
      rw [hall.files] at hsawlast
      refine ⟨⟨new ++ last, by rw [hlast, hruns, List.append_assoc], ?_⟩, by simp, ?_, ?_, ?_⟩
      · -- the run for the accepted candidate comes after those for the rejected ones
        simpa using sublist_forall₂_append hsaw
          (sublist_forall₂_append hsawlast (.nil (l := rest)))
      · rintro _ ⟨⟩
        rw [hpatches]
        exact List.rel_append (hall.outcomes.imp fun _ _ => Patch.Rejects.becomes)
          (.cons (.inr ⟨o, rfl⟩) (List.forall₂_same.mpr fun _ _ => .inl rfl))
      · rintro _ ⟨⟩ _
        exact ⟨tried, p.withOutcome o, rest, hpatches, happlied,
          applied_patch_eq_some hpatches happlied, by simp [Patch.accepted, haccepts.accepted],
          Patch.rejected_of_forall₂ hall.outcomes, hlater, hpatched⟩
      · rintro _ ⟨⟩ hfails
        simp [hsucceeds] at hfails

/-- A run without a round leaves candidates as they were. -/
theorem Isolated.of_untouched {cands : List Patch} {result : Except Failure RepairResult}
    {s s' : Site E} (hsuccess : ∀ r, result = .ok r → r.success = r.applied.isSome)
    (hnew : ∀ q ∈ cands, q.validated = false)
    (hsame : result.map (·.verdict) = .ok (cands, none))
    (hkeeps : Untouched s s') : Isolated cands result s s' := by
  obtain ⟨r, rfl, heq⟩ := map_eq_ok hsame
  obtain ⟨rfl, happlied⟩ := Prod.mk.inj heq
  have hfails : r.success = false := by simp [hsuccess r rfl, happlied]
  refine ⟨⟨[], by simpa using hkeeps.runs, .nil⟩, by simp, ?_, ?_, ?_⟩
  · rintro _ ⟨⟩
    exact List.forall₂_same.mpr fun _ _ => .inl rfl
  · rintro _ ⟨⟩ hsucceeds
    simp [hfails] at hsucceeds
  · rintro _ ⟨⟩ _
    exact ⟨happlied, fun q hq => by simp [Patch.accepted, hnew q hq], hkeeps.files⟩

/-- Candidates are isolated from each other: each is tested on the files at the start with that
candidate applied and nothing else, and a run ends with the first accepted one applied, or else with
the files as they were. -/
theorem run_isolates_candidates (c : Crew E) (hwrites : c.WritesSucceed) (config : RepairConfig)
    (fault : Fault) (codeContext : String) (memory : Memory) (pool : List Patch)
    (hpool : ∀ p ∈ pool, p.validated = false) (s : Site E) :
    ∃ refined memory' result s',
      run ⟨config, c.host, fault, codeContext⟩ memory pool s = ((memory', result), s') ∧
      (∀ q ∈ refined, q.source = .refinement) ∧ Isolated (pool ++ refined) result s s' := by
  obtain ⟨refined, memory', result, s', hrun, hrefined, hsuccess, hends⟩ :=
    run_tried hwrites.locks config fault codeContext memory hpool s
  refine ⟨refined, memory', result, s', hrun, hrefined, ?_⟩
  rcases hends with htried | ⟨rfl, hsame, hkeeps⟩
  · exact .of_tried hsuccess htried
  · rw [List.append_nil]
    exact .of_untouched hsuccess hpool hsame hkeeps

/-- Two candidates for one line, of which a crew without a model and with willing tests takes the
first. -/
theorem run_isolates_two_candidates :
    (Crew.steady (fun _ _ => none) (.value { success := true })).WritesSucceed ∧
      (∀ p ∈ [Patch.ofFirstLine "a.py" "x = 2", Patch.ofFirstLine "a.py" "x = 3"],
        p.validated = false) ∧
      ∃ refined memory' result s',
        run ⟨{}, (Crew.steady (fun _ _ => none) (.value { success := true })).host,
            .ofFirstLine "a.py", ""⟩ ⟨⟨[], []⟩, {}⟩
          [.ofFirstLine "a.py" "x = 2", .ofFirstLine "a.py" "x = 3"] (.single "a.py" "x = 1\n") =
            ((memory', result), s') ∧
        (∀ q ∈ refined, q.source = .refinement) ∧
        Isolated ([.ofFirstLine "a.py" "x = 2", .ofFirstLine "a.py" "x = 3"] ++ refined) result
          (.single "a.py" "x = 1\n") s' := by
  have hwrites : (Crew.steady (fun _ _ => none) (.value { success := true })).WritesSucceed :=
    fun _ _ _ => rfl
  have hpool : ∀ p ∈ [Patch.ofFirstLine "a.py" "x = 2", Patch.ofFirstLine "a.py" "x = 3"],
      p.validated = false := by simp [Patch.ofFirstLine]
  exact ⟨hwrites, hpool, run_isolates_candidates _ hwrites _ _ _ _ _ hpool _⟩

end Mender.Loop
