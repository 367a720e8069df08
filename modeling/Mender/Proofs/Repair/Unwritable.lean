import Mender.Proofs.Repair.Round

/-!
# Candidates that touch a locked file

A candidate that touches a file to which every write fails is never applied, and the files stay as
they are. But putting a locked file back fails too. The validation then ends with that failure, and
the round with it, in place of an outcome that rejects the candidate.
-/

namespace Mender

open FileAccess Site

variable {E : Type} {c : Crew E} {locked : Set String}

/-- A candidate that touches a locked file fails the validation when it gets stuck on one, and is
an outcome that rejects it otherwise. -/
theorem Validate.candidate_locked (hlocks : c.Locks locked) (hreads : c.ReadsSucceed)
    (config : RepairConfig) {p : Patch} (htouches : ∃ path ∈ p.files, path ∈ locked) (s : Site E) :
    ∃ s' : Site E, s'.files = s.files ∧
      ((p.Stuck locked s.files p.files ∧ ∃ f, f.kind.isHost = true ∧
          Validate.candidate config c.host p s = (.error f, s')) ∨
        (¬p.Stuck locked s.files p.files ∧ ∃ o : Outcome, o.accepted = false ∧ o.compiled = false ∧
          Validate.candidate config c.host p s = (.ok o, s'))) := by
  obtain ⟨taken, applied, s₁, happly, happlies⟩ :=
    apply_to_applies c.files p.changes p.files [] s
  rw [List.nil_append] at happly
  have hstuck := hlocks.taken_locked_iff hreads happlies p.files_nodup
  refine ⟨(c.files.restore taken s₁).2, ?_, ?_⟩
  · exact hlocks.files_restored happlies (refl_of Unwritten s₁)
  cases applied with
  | ok =>
      obtain ⟨path, hpath, hlocked⟩ := htouches
      exact absurd hlocked (hlocks.applies_unlocked happlies rfl path hpath)
  | error f =>
      have hkind := hlocks.applies_error hreads happlies rfl
      rw [Validate.candidate_unapplied happly]
      rcases hlocks.restore_result taken s₁ with ⟨hok, hfree⟩ | ⟨⟨f', herror, hhost⟩, hmem⟩
      · refine .inr ⟨?_, .failure [f.message] false, rfl, rfl, ?_⟩
        · rw [← hstuck]
          rintro ⟨snapshot, hsnapshot, hlocked⟩
          exact hfree snapshot hsnapshot hlocked
        · simp only [hok, afterRestoring, Validate.patch_outcome_of_patch hkind, Except.map]
      · have hother : f'.kind ≠ .patch := fun heq => by simp [heq, Failure.Kind.isHost] at hhost
        refine .inl ⟨hstuck.mp hmem, f', hhost, ?_⟩
        simp only [herror, afterRestoring, Validate.patch_outcome_of_other hother, Except.map]

theorem Validate.candidate_stuck (hlocks : c.Locks locked) (hreads : c.ReadsSucceed)
    (config : RepairConfig) {p : Patch} (s : Site E) (hstuck : p.Stuck locked s.files p.files) :
    ∃ f s', f.kind.isHost = true ∧ s'.files = s.files ∧
      Validate.candidate config c.host p s = (.error f, s') := by
  have htouches : ∃ path ∈ p.files, path ∈ locked := by
    obtain ⟨done, path, rest, heq, _, hlocked, _⟩ := hstuck
    exact ⟨path, by simp [heq], hlocked⟩
  obtain ⟨s', hfiles, ⟨_, f, hkind, heq⟩ | ⟨hfree, _⟩⟩ :=
    candidate_locked hlocks hreads config htouches s
  · exact ⟨f, s', hkind, hfiles, heq⟩
  · exact absurd hstuck hfree

theorem Validate.candidate_not_stuck (hlocks : c.Locks locked) (hreads : c.ReadsSucceed)
    (config : RepairConfig) {p : Patch} (htouches : ∃ path ∈ p.files, path ∈ locked)
    (s : Site E) (hfree : ¬p.Stuck locked s.files p.files) :
    ∃ o s', o.accepted = false ∧ o.compiled = false ∧ s'.files = s.files ∧
      Validate.candidate config c.host p s = (.ok o, s') := by
  obtain ⟨s', hfiles, ⟨hstuck, _⟩ | ⟨_, o, hrejected, hcompiled, heq⟩⟩ :=
    candidate_locked hlocks hreads config htouches s
  · exact absurd hstuck hfree
  · exact ⟨o, s', hrejected, hcompiled, hfiles, heq⟩

/-- A crew that cannot write one path, and whose tests accept whatever they see. -/
def Crew.lockedOut (path : String) : Crew Unit :=
  steady (fun other _ => if other = path then some ⟨.host, "disk full"⟩ else none)
    (.value { success := true })

theorem Crew.locked_out_locks (path : String) : (lockedOut path).Locks {path} where
  fails := by
    rintro _ rfl text s
    exact ⟨⟨.host, "disk full"⟩, by simp [lockedOut, steady], rfl⟩
  succeeds := by
    intro other hother text s
    have hne : other ≠ path := hother
    simp [lockedOut, steady, hne]

theorem Crew.locked_out_reads (path : String) : (lockedOut path).ReadsSucceed :=
  fun _ _ => rfl

theorem Patch.of_first_line_stuck (path before new : String) :
    (Patch.ofFirstLine path new).Stuck {path} (Site.single path before).files
      (Patch.ofFirstLine path new).files :=
  ⟨[], path, [], by simp, by simp, rfl, by simp [Site.single]⟩

/-- A candidate that touches a locked file leaves the files as they are. It fails alone, and the
round goes on after it, unless it gets stuck on a locked file: then the round fails with it. -/
theorem locked_candidate_fails_alone_unless_stuck (c : Crew E) (locked : Set String)
    (hlocks : c.Locks locked) (hreads : c.ReadsSucceed) (config : RepairConfig) (fault : Fault)
    (codeContext : String) (p : Patch) (htouches : ∃ path ∈ p.files, path ∈ locked)
    (hnew : p.validated = false) (round tested : Nat) (memory : Memory)
    (before after : List Patch) (s : Site E) :
    (Validate.candidate config c.host p s).2.files = s.files ∧
    (¬p.Stuck locked s.files p.files →
      (∃ o, (Validate.candidate config c.host p s).1 = .ok o ∧
        o.accepted = false ∧ o.compiled = false) ∧
      ∃ o memory' s', o.accepted = false ∧ o.compiled = false ∧ s'.files = s.files ∧
        Loop.testPool ⟨config, c.host, fault, codeContext⟩ round memory before tested
            (p :: after) s =
          Loop.testPool ⟨config, c.host, fault, codeContext⟩ round memory'
            (before ++ [p.withOutcome o]) (tested + 1) after s') ∧
    (p.Stuck locked s.files p.files →
      (∃ f, (Validate.candidate config c.host p s).1 = .error f ∧ f.kind.isHost = true) ∧
      ∃ f s', f.kind.isHost = true ∧ s'.files = s.files ∧
        Loop.testPool ⟨config, c.host, fault, codeContext⟩ round memory before tested
          (p :: after) s = ((memory, .error f), s')) := by
  -- the round tells of the candidate before it validates it, which leaves the files as they are
  have htold : (c.host.notify (.candidate p round) s).2.files = s.files := rfl
  refine ⟨?_, fun hfree => ⟨?_, ?_⟩, fun hstuck => ⟨?_, ?_⟩⟩
  · obtain ⟨s', hfiles, ⟨_, f, _, heq⟩ | ⟨_, o, _, _, heq⟩⟩ :=
      Validate.candidate_locked hlocks hreads config htouches s <;> rwa [heq]
  · obtain ⟨o, s', hrejected, hcompiled, _, heq⟩ :=
      Validate.candidate_not_stuck hlocks hreads config htouches s hfree
    exact ⟨o, by rw [heq], hrejected, hcompiled⟩
  · obtain ⟨o, s', hrejected, hcompiled, hfiles, heq⟩ :=
      Validate.candidate_not_stuck hlocks hreads config htouches
        (c.host.notify (.candidate p round) s).2 (htold ▸ hfree)
    have hnext := (c.notify_keeps (.validation (p.withOutcome o) o) s').files
    exact ⟨o, _, _, hrejected, hcompiled, hnext.trans (hfiles.trans htold),
      Loop.test_pool_rejected _ hnew hrejected heq⟩
  · obtain ⟨f, s', hkind, _, heq⟩ := Validate.candidate_stuck hlocks hreads config s hstuck
    exact ⟨f, by rw [heq], hkind⟩
  · obtain ⟨f, s', hkind, hfiles, heq⟩ :=
      Validate.candidate_stuck hlocks hreads config (c.host.notify (.candidate p round) s).2
        (htold ▸ hstuck)
    exact ⟨f, s', hkind, hfiles.trans htold, Loop.test_pool_raised _ hnew heq⟩

/-- Of two candidates for a locked file the second is never tried. -/
theorem locked_candidate_ends_round :
    (Crew.lockedOut "a.py").Locks {"a.py"} ∧ (Crew.lockedOut "a.py").ReadsSucceed ∧
      (∃ path ∈ (Patch.ofFirstLine "a.py" "x = 2").files, path ∈ ({"a.py"} : Set String)) ∧
      (Patch.ofFirstLine "a.py" "x = 2").validated = false ∧
      (Patch.ofFirstLine "a.py" "x = 2").Stuck {"a.py"} (Site.single "a.py" "x = 1\n").files
        (Patch.ofFirstLine "a.py" "x = 2").files ∧
      ∃ f s', f.kind.isHost = true ∧ s'.files = (Site.single "a.py" "x = 1\n").files ∧
        Loop.testPool ⟨{}, (Crew.lockedOut "a.py").host, .ofFirstLine "a.py", ""⟩ 0 ⟨⟨[], []⟩, {}⟩
            [] 0 [.ofFirstLine "a.py" "x = 2", .ofFirstLine "a.py" "x = 3"]
            (.single "a.py" "x = 1\n") =
          ((⟨⟨[], []⟩, {}⟩, .error f), s') := by
  have htouches : ∃ path ∈ (Patch.ofFirstLine "a.py" "x = 2").files,
      path ∈ ({"a.py"} : Set String) := ⟨"a.py", by simp, rfl⟩
  have hstuck := Patch.of_first_line_stuck "a.py" "x = 1\n" "x = 2"
  exact ⟨Crew.locked_out_locks _, Crew.locked_out_reads _, htouches, rfl, hstuck,
    ((locked_candidate_fails_alone_unless_stuck _ _ (Crew.locked_out_locks _)
      (Crew.locked_out_reads _) _ _ _ _ htouches rfl _ _ _ _ _ _).2.2 hstuck).2⟩

/-- A candidate for a single file that is there and locked does not fail alone: its validation ends
with the failure to put the file back. -/
theorem locked_candidate_fails_validation :
    (Crew.lockedOut "a.py").Locks {"a.py"} ∧ (Crew.lockedOut "a.py").ReadsSucceed ∧
      (∃ path ∈ (Patch.ofFirstLine "a.py" "x = 2").files, path ∈ ({"a.py"} : Set String)) ∧
      ¬∃ o, (Validate.candidate {} (Crew.lockedOut "a.py").host (.ofFirstLine "a.py" "x = 2")
        (.single "a.py" "x = 1\n")).1 = .ok o := by
  have hstuck := Patch.of_first_line_stuck "a.py" "x = 1\n" "x = 2"
  obtain ⟨f, s', _, _, heq⟩ := Validate.candidate_stuck (Crew.locked_out_locks "a.py")
    (Crew.locked_out_reads "a.py") {} _ hstuck
  refine ⟨Crew.locked_out_locks _, Crew.locked_out_reads _, ?_, ?_⟩
  · exact ⟨"a.py", by simp, rfl⟩
  · rintro ⟨o, hok⟩
    rw [heq] at hok
    cases hok

end Mender
