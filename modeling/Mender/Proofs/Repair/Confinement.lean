import Mender.Proofs.Host.Keeps
import Mender.Repair.Validate

/-!
# What a validation does to the host

All that the validation of a candidate does is to read and write files, to run the tests once at
most, and to tell of a rollback. A relation that surrounds what a run of the tests keeps, and is
kept by reading, writing and telling, is therefore kept by a validation
(`Validate.candidate_keeps`).
-/

namespace Mender

variable {σ α : Type} {R S : σ → σ → Prop} [IsPreorder σ R]

namespace FileAccess

variable {files : FileAccess (StateM σ)}

theorem read_for_keeps (hread : ∀ path, Keeps R (files.read path)) (path : String) :
    Keeps R (files.readFor path) := by
  refine .bind (hread path) fun text => ?_
  cases text with
  | ok text => exact .pure _
  | error f => exact .pure _

theorem write_for_keeps (hwrite : ∀ path text, Keeps R (files.write path text))
    (path text : String) : Keeps R (files.writeFor path text) := by
  refine .bind (hwrite path text) fun written => ?_
  cases written with
  | ok => exact .pure _
  | error f => exact .pure _

theorem apply_to_keeps (hread : ∀ path, Keeps R (files.read path))
    (hwrite : ∀ path text, Keeps R (files.write path text)) (changes : List Change)
    (paths : List String) (taken : Snapshots) :
    Keeps R (files.applyTo changes paths taken) := by
  induction paths generalizing taken with
  | nil => exact .pure _
  | cons path paths ih =>
      refine .bind (read_for_keeps hread path) fun text => ?_
      cases text with
      | error f => exact .pure _
      | ok before =>
          dsimp only
          cases Edit.apply before (changes.filter (·.file = path)) with
          | error fault => exact .pure _
          | ok after =>
              refine .bind (write_for_keeps hwrite path after) fun written => ?_
              cases written with
              | error f => exact .pure _
              | ok => exact ih _

theorem restore_keeps (hwrite : ∀ path text, Keeps R (files.write path text))
    (taken : Snapshots) : Keeps R (files.restore taken) := by
  induction taken with
  | nil => exact .pure _
  | cons snapshot taken ih => exact .bind (hwrite _ _) fun _ => .bind ih fun _ => .pure _

/-- A trial reads and writes around its block. -/
theorem trial_keeps (h : Surrounds R S) (hread : ∀ path, Keeps R (files.read path))
    (hwrite : ∀ path text, Keeps R (files.write path text)) (p : Patch)
    {block : StateM σ (Bool × Except Failure α)} (hblock : Keeps S block) :
    Keeps S (files.trial p block) := by
  refine .bind_before h (apply_to_keeps hread hwrite _ _ _) fun applied => ?_
  obtain ⟨taken, applied⟩ := applied
  cases applied
  case' error f =>
    refine .bind_after h (fun s => h.alone (Keeps.pure (false, Except.error f) s)) fun ended => ?_
  case' ok =>
    refine .bind_after h hblock fun ended => ?_
  -- with the block or without it, what is left to do is to restore or not
  all_goals
    obtain ⟨_ | _, ended⟩ := ended
    · refine .bind (restore_keeps hwrite taken) fun restored => ?_
      cases restored with
      | error f => exact .pure _
      | ok => exact .pure _
    · exact .pure _

end FileAccess

namespace Validate

variable {host : Host (StateM σ)}

omit [IsPreorder σ R] in
/-- Files that can be read and written are read and written as the host does it. -/
theorem files_keep (hreads : host.Reads R) (hwrites : host.Writes R)
    {files : FileAccess (StateM σ)} (hfiles : host.files? = some files) :
    (∀ path, Keeps R (files.read path)) ∧ ∀ path text, Keeps R (files.write path text) := by
  unfold Host.files? at hfiles
  split at hfiles
  · rename_i read write hread hwrite
    cases hfiles
    exact ⟨hreads read hread, hwrites write hwrite⟩
  · cases hfiles

omit [IsPreorder σ R] in
/-- Running the tests under their time limit does what running them does. -/
theorem run_tests_state (config : RepairConfig) (tests : StateM σ (Reply Outcome)) (s : σ) :
    (runTests config tests s).2 = (tests s).2 := by
  obtain ⟨o, _, hrun⟩ | ⟨_, f, hrun⟩ := bounded_eq config.testTimeout testTimeout tests s <;>
    simp only [runTests, run_bind, hrun, run_pure]

theorem apply_and_test_keeps (h : Surrounds R S) {files : FileAccess (StateM σ)}
    (hread : ∀ path, Keeps R (files.read path))
    (hwrite : ∀ path text, Keeps R (files.write path text)) (htells : host.TellsRollback R)
    {tests : StateM σ (Reply Outcome)} (htests : Keeps S tests) (config : RepairConfig)
    (p : Patch) : Keeps S (applyAndTest config host files tests p) := by
  have hblock : Keeps S (runTests config tests >>= fun outcome =>
      pure (outcome.accepted, (.ok outcome : Except Failure Outcome))) := fun s => by
    rw [run_bind, run_pure, run_tests_state]
    exact htests s
  refine .bind_after h (FileAccess.trial_keeps h hread hwrite p hblock) fun ended => ?_
  rcases patchOutcome ended with f | ⟨outcome, tested⟩
  · exact .pure _
  · dsimp only
    split
    · exact .bind (htells _) fun _ => .pure _
    · exact .pure _

theorem apply_untested_keeps (h : Surrounds R S) (hreads : host.Reads R)
    (hwrites : host.Writes R) (p : Patch) : Keeps S (applyUntested host.files? p) := by
  cases hfiles : host.files? with
  | none => exact fun s => h.alone (Keeps.pure _ s)
  | some files =>
      obtain ⟨hread, hwrite⟩ := files_keep hreads hwrites hfiles
      refine .bind_after h (FileAccess.trial_keeps h hread hwrite p ?_) fun _ => .pure _
      exact fun s => h.alone (Keeps.pure _ s)

/-- A validation keeps what surrounds a run of the tests. -/
theorem candidate_keeps (h : Surrounds R S) (hreads : host.Reads R) (hwrites : host.Writes R)
    (hruns : host.Runs S) (htells : host.TellsRollback R) (config : RepairConfig) (p : Patch) :
    Keeps S (candidate config host p) := by
  unfold candidate
  split
  · exact fun s => h.alone (Keeps.pure _ s)
  · rename_i tests files _ htests hfiles
    obtain ⟨hread, hwrite⟩ := files_keep hreads hwrites hfiles
    exact apply_and_test_keeps h hread hwrite htells (hruns tests htests) config p
  · exact apply_untested_keeps h hreads hwrites p

end Validate

end Mender
