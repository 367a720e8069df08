import Mender.Proofs.Number.Order
import Mender.Proofs.Repair.Validation

/-!
# Time limits on calls that answer

A call that answers before its limit is answered as it would be without one, with a single
exception: a time-out that the host itself reports is taken for the limit. What a validation does to
the host never depends on the limit, and neither does its outcome, unless the tests fail with such a
time-out (`Validate.limit_unnoticed_iff`). All this is for limits that can be waited for; with a
longer one a call that has not answered when the caller first looks fails at once
(`bounded_unwaitable`).
-/

namespace Mender

variable {σ α : Type}

/-- What a call returns or fails with, if it answers. -/
def Reply.answer? : Reply α → Option (Except Failure α)
  | .value a => some (.ok a)
  | .raised f => some (.error f)
  | .silent => none

/-- A call answers that the host ran out of time. -/
def Reply.TimesOut (reply : Reply α) (f : Failure) : Prop :=
  reply = .raised f ∧ f.kind = .hostTimeout

section Bounded

variable {call : StateM σ (Reply α)} {late : Float → Failure} {seconds : Float} {s s₁ : σ}
  {reply : Reply α} {answer : Except Failure α}

/-- Without a limit in force a call answers for itself. -/
theorem bounded_direct (hcall : call s = (reply, s₁)) (hanswer : reply.answer? = some answer) :
    bounded (some 0.0) late call s = (answer, s₁) := by
  have hnone : limitInForce (some 0.0) = none := by decide
  rw [bounded, run_bind, hcall, hnone]
  cases reply <;> cases hanswer <;> rfl

/-- A limit does not change an answer that is no time-out of the host. -/
theorem bounded_unchanged (hlimit : 0.0 < seconds) (hcall : call s = (reply, s₁))
    (hanswer : reply.answer? = some answer) (hintime : ∀ f, ¬reply.TimesOut f) :
    bounded (some seconds) late call s = (answer, s₁) := by
  have hforce : limitInForce (some seconds) = some seconds := if_neg (Binary64.not_le_of_lt hlimit)
  rw [bounded, run_bind, hcall, hforce]
  cases reply with
  | value a =>
      cases hanswer
      rfl
  | raised f =>
      cases hanswer
      have hkind : f.kind ≠ .hostTimeout := fun hkind => hintime f ⟨rfl, hkind⟩
      simp only [hkind, if_false]
      rfl
  | silent => cases hanswer

/-- A time-out of the host counts as the limit. -/
theorem bounded_late (hlimit : 0.0 < seconds) (hcall : call s = (reply, s₁)) {f : Failure}
    (hlate : reply.TimesOut f) :
    bounded (some seconds) late call s = (.error (late seconds), s₁) := by
  have hforce : limitInForce (some seconds) = some seconds := if_neg (Binary64.not_le_of_lt hlimit)
  obtain ⟨rfl, hkind⟩ := hlate
  rw [bounded, run_bind, hcall, hforce]
  simp only [hkind, if_true]
  rfl

/-- A call that has not answered when its limit is over is late. -/
theorem bounded_silent (hlimit : 0.0 < seconds) (hwait : seconds ≤ longestWait)
    (hcall : call s = (.silent, s₁)) :
    bounded (some seconds) late call s = (.error (late seconds), s₁) := by
  have hforce : limitInForce (some seconds) = some seconds :=
    if_neg (Binary64.not_le_of_lt hlimit)
  have hwaits : ¬longestWait < seconds := fun hlonger => Binary64.not_le_of_lt hlonger hwait
  rw [bounded, run_bind, hcall, hforce]
  simp only [hwaits, if_false]
  rfl

/-- A call that would have to be waited for longer than is possible fails, however soon it would
answer. -/
theorem bounded_unwaitable (hlonger : longestWait < seconds) (hcall : call s = (.silent, s₁)) :
    bounded (some seconds) late call s = (.error unwaitable, s₁) := by
  have hpositive : 0.0 < seconds := Binary64.lt_trans (by decide) hlonger
  have hforce : limitInForce (some seconds) = some seconds :=
    if_neg (Binary64.not_le_of_lt hpositive)
  rw [bounded, run_bind, hcall, hforce]
  simp only [hlonger, if_true]
  rfl

/-- A limit leaves an answer alone unless it is a time-out of the host, told in other words than the
limit's own. -/
theorem bounded_eq_direct_iff (hlimit : 0.0 < seconds) (hcall : call s = (reply, s₁))
    (hanswer : reply.answer? = some answer) :
    bounded (some seconds) late call s = (answer, s₁) ↔
      ∀ f, reply.TimesOut f → late seconds = f := by
  constructor
  · intro h f hlate
    rw [bounded_late hlimit hcall hlate] at h
    obtain ⟨rfl, _⟩ := hlate
    cases hanswer
    exact Except.error.inj (Prod.mk.inj h).1
  · intro hown
    by_cases hlate : ∃ f, reply.TimesOut f
    · obtain ⟨f, hlate⟩ := hlate
      rw [bounded_late hlimit hcall hlate, hown f hlate]
      obtain ⟨rfl, _⟩ := hlate
      cases hanswer
      rfl
    · exact bounded_unchanged hlimit hcall hanswer (not_exists.mp hlate)

end Bounded

namespace Validate

/-- A configuration with a limit of so many seconds on the tests. -/
def withLimit (config : RepairConfig) (seconds : Float) : RepairConfig :=
  { config with testTimeout := some seconds }

section Tests

variable {tests : StateM σ (Reply Outcome)} {config : RepairConfig} {seconds : Float} {s s₁ : σ}
  {reply : Reply Outcome}

/-- Tests that answer in time, but not with a time-out of the host, come to the same outcome under a
limit. -/
theorem run_tests_unchanged (hlimit : 0.0 < seconds) (hcall : tests s = (reply, s₁))
    (hanswers : reply ≠ .silent) (hintime : ∀ f, ¬reply.TimesOut f) :
    runTests (withLimit config seconds) tests s = runTests (withLimit config 0.0) tests s := by
  have hanswer : ∃ answer, reply.answer? = some answer := by
    cases reply with
    | value o => exact ⟨_, rfl⟩
    | raised f => exact ⟨_, rfl⟩
    | silent => exact absurd rfl hanswers
  obtain ⟨answer, hanswer⟩ := hanswer
  rw [runTests, runTests, run_bind, run_bind]
  simp only [withLimit, bounded_unchanged hlimit hcall hanswer hintime,
    bounded_direct hcall hanswer]

/-- A time-out of the host is an outcome of its own without a limit, and that of the limit with
one. -/
theorem run_tests_late (hlimit : 0.0 < seconds) (hcall : tests s = (reply, s₁)) {f : Failure}
    (hlate : reply.TimesOut f) :
    runTests (withLimit config seconds) tests s = (.failure ["Test timeout"] false, s₁) ∧
      runTests (withLimit config 0.0) tests s = (.failure [f.described] true, s₁) := by
  have hlimited : bounded (some seconds) testTimeout tests s = (.error (testTimeout seconds), s₁) :=
    bounded_late hlimit hcall hlate
  obtain ⟨rfl, hkind⟩ := hlate
  have hdirect : bounded (some 0.0) testTimeout tests s = (.error f, s₁) :=
    bounded_direct hcall rfl
  have hother : f.kind ≠ .testTimeout := by simp [hkind]
  constructor
  · rw [runTests, run_bind]
    simp only [withLimit, hlimited]
    rfl
  · rw [runTests, run_bind]
    simp only [withLimit, hdirect, hother, if_false]
    rfl

end Tests

/-- The validation of a candidate runs the tests, in the state `s₁`, where the candidate is applied
and `taken` holds the texts from before. -/
structure TestsAt (config : RepairConfig) (host : Host (StateM σ)) (p : Patch) (s : σ)
    (files : FileAccess (StateM σ)) (tests : StateM σ (Reply Outcome)) (taken : Snapshots)
    (s₁ : σ) : Prop where
  enabled : config.validateWithTests = true
  tested : host.tests? = some tests
  accessed : host.files? = some files
  applied : files.applyTo p.changes p.files [] s = ((taken, .ok ()), s₁)

/-- The validation of a candidate runs tests that fail with a time-out of the host, and puts the
files back. -/
def TimesOutAt (config : RepairConfig) (host : Host (StateM σ)) (p : Patch) (s : σ)
    (f : Failure) : Prop :=
  ∃ files tests taken s₁, TestsAt config host p s files tests taken s₁ ∧ (tests s₁).1.TimesOut f ∧
    (files.restore taken (tests s₁).2).1 = .ok ()

section Candidate

variable {config : RepairConfig} {host : Host (StateM σ)} {p : Patch} {s s₁ s₂ : σ}
  {files : FileAccess (StateM σ)} {tests : StateM σ (Reply Outcome)} {taken : Snapshots}
  {seconds : Float} {f : Failure}

theorem TestsAt.with_limit (h : TestsAt config host p s files tests taken s₁) (seconds : Float) :
    candidate (withLimit config seconds) host p =
      applyAndTest (withLimit config seconds) host files tests p := by
  simp [candidate, withLimit, h.enabled, h.tested, h.accessed]

/-- Tests that come to the same outcome in the state in which they are run lead to the same
validation. -/
theorem TestsAt.congr (h : TestsAt config host p s files tests taken s₁)
    (hsame : runTests (withLimit config seconds) tests s₁ =
      runTests (withLimit config 0.0) tests s₁) :
    candidate (withLimit config seconds) host p s = candidate (withLimit config 0.0) host p s := by
  rw [h.with_limit, h.with_limit, applyAndTest, applyAndTest, run_bind, run_bind]
  simp only [FileAccess.trial, run_bind, h.applied, hsame]
  rfl

/-- Tests that do not accept lead to the outcome that they come to, once the files are put back. -/
theorem TestsAt.rejected (h : TestsAt config host p s files tests taken s₁) {o : Outcome}
    (hrun : runTests (withLimit config seconds) tests s₁ = (o, s₂))
    (hrejects : o.accepted = false) :
    candidate (withLimit config seconds) host p s =
      match files.restore taken s₂ with
      | (.ok (), s₃) => (.ok o, (host.notify (.rollback p.files) s₃).2)
      | (.error f, s₃) => ((patchOutcome (.error f)).map (·.1), s₃) := by
  have hblock : (do
      let outcome ← runTests (withLimit config seconds) tests
      return (outcome.accepted, (.ok outcome : Except Failure Outcome))) s₁ =
        ((false, .ok o), s₂) := by
    rw [run_bind, hrun, run_pure, hrejects]
  rw [h.with_limit, applyAndTest, run_bind, FileAccess.trial_rejected h.applied hblock]
  rcases files.restore taken s₂ with ⟨f | _, s₃⟩
  · rcases patch_outcome_error f with houtcome | houtcome <;>
      simp [FileAccess.afterRestoring, houtcome, Except.map, run_pure]
  · simp only [FileAccess.afterRestoring, patchOutcome, hrejects]
    rfl

/-- A validation that never gets to the tests has no use for their limit. -/
theorem candidate_without_tests
    (hnone : ∀ files tests taken s₁, ¬TestsAt config host p s files tests taken s₁) :
    candidate (withLimit config seconds) host p s = candidate (withLimit config 0.0) host p s := by
  cases henabled : config.validateWithTests with
  | false => simp [candidate, withLimit, henabled]
  | true =>
      cases htests : host.tests? with
      | none => simp [candidate, withLimit, henabled, htests]
      | some tests =>
          cases hfiles : host.files? with
          | none => simp [candidate, withLimit, henabled, htests, hfiles]
          | some files =>
              rcases happly : files.applyTo p.changes p.files [] s with ⟨⟨taken, f | _⟩, s₁⟩
              · simp only [candidate, withLimit, henabled, htests, hfiles, applyAndTest, run_bind,
                  FileAccess.trial_unapplied happly]
              · exact absurd ⟨henabled, htests, hfiles, happly⟩ (hnone files tests taken s₁)

/-- Tests that time out on the host are reported as such without a limit, and with one as exceeding
it; the state is the same. When the files cannot be put back that is reported instead. -/
theorem TestsAt.late_cases (hlimit : 0.0 < seconds)
    (h : TestsAt config host p s files tests taken s₁) (hlate : (tests s₁).1.TimesOut f) :
    ((files.restore taken (tests s₁).2).1 = .ok () ∧ ∃ s',
        candidate (withLimit config seconds) host p s =
          (.ok (.failure ["Test timeout"] false), s') ∧
        candidate (withLimit config 0.0) host p s = (.ok (.failure [f.described] true), s')) ∨
      ((files.restore taken (tests s₁).2).1 ≠ .ok () ∧
        candidate (withLimit config seconds) host p s =
          candidate (withLimit config 0.0) host p s) := by
  obtain ⟨hlimited, hdirect⟩ := run_tests_late hlimit rfl hlate
  rw [h.rejected hlimited (Outcome.failure_not_accepted _ _),
    h.rejected hdirect (Outcome.failure_not_accepted _ _)]
  rcases files.restore taken (tests s₁).2 with ⟨f' | _, s₃⟩
  · exact .inr ⟨by simp, rfl⟩
  · exact .inl ⟨rfl, _, rfl, rfl⟩

theorem TimesOutAt.outcomes (hlimit : 0.0 < seconds) (h : TimesOutAt config host p s f) :
    ∃ s', candidate (withLimit config seconds) host p s =
        (.ok (.failure ["Test timeout"] false), s') ∧
      candidate (withLimit config 0.0) host p s = (.ok (.failure [f.described] true), s') := by
  obtain ⟨files, tests, taken, s₁, htests, hlate, hrestored⟩ := h
  obtain ⟨_, houtcomes⟩ | ⟨hleft, _⟩ := htests.late_cases hlimit hlate
  · exact houtcomes
  · exact absurd hrestored hleft

/-- Without a time-out of the host that comes to be reported, a limit that the tests keep changes
nothing. -/
theorem candidate_same (hlimit : 0.0 < seconds)
    (hanswers : ∀ files tests taken s₁, TestsAt config host p s files tests taken s₁ →
      (tests s₁).1 ≠ .silent) (hintime : ∀ f, ¬TimesOutAt config host p s f) :
    candidate (withLimit config seconds) host p s = candidate (withLimit config 0.0) host p s := by
  by_cases htested : ∃ files tests taken s₁, TestsAt config host p s files tests taken s₁
  · obtain ⟨files, tests, taken, s₁, h⟩ := htested
    by_cases hlate : ∃ f, (tests s₁).1.TimesOut f
    · obtain ⟨f, hlate⟩ := hlate
      obtain ⟨hrestored, _⟩ | ⟨_, hsame⟩ := h.late_cases hlimit hlate
      · exact absurd ⟨files, tests, taken, s₁, h, hlate, hrestored⟩ (hintime f)
      · exact hsame
    · exact h.congr (run_tests_unchanged hlimit rfl (hanswers files tests taken s₁ h)
        (not_exists.mp hlate))
  · simp only [not_exists] at htested
    exact candidate_without_tests htested

/-- A limit that can be waited for and that collaborators keep goes unnoticed, except for a time-out
that the host itself reports. A validation leaves the same state under the limit as without one, and
comes to the same outcome unless the tests end with such a time-out and the files can be put back:
then the limit is reported in its place. A single call returns or fails as it does without a limit
unless it ends with such a time-out, and is late if it has not answered by then. -/
theorem limit_unnoticed_iff (α : Type) (hlimit : 0.0 < seconds) (hwait : seconds ≤ longestWait)
    (hanswers : ∀ files tests taken s₁, TestsAt config host p s files tests taken s₁ →
      (tests s₁).1 ≠ .silent) :
    (candidate (withLimit config seconds) host p s).2 =
        (candidate (withLimit config 0.0) host p s).2 ∧
      ((candidate (withLimit config seconds) host p s).1 =
          (candidate (withLimit config 0.0) host p s).1 ↔
        ∀ f, ¬TimesOutAt config host p s f) ∧
      (∀ f, TimesOutAt config host p s f →
        (candidate (withLimit config seconds) host p s).1 =
            .ok (.failure ["Test timeout"] false) ∧
          (candidate (withLimit config 0.0) host p s).1 = .ok (.failure [f.described] true)) ∧
      ∀ (late : Float → Failure) (call : StateM σ (Reply α)) (s : σ),
        (∀ answer, (call s).1.answer? = some answer →
          bounded (some 0.0) late call s = (answer, (call s).2) ∧
            (bounded (some seconds) late call s = (answer, (call s).2) ↔
              ∀ f, (call s).1.TimesOut f → late seconds = f)) ∧
        ((call s).1 = .silent →
          bounded (some seconds) late call s = (.error (late seconds), (call s).2)) := by
  refine ⟨?_, ⟨fun hsame f h => ?_, fun hintime => ?_⟩, fun f h => ?_, fun late call s => ?_⟩
  · by_cases hlate : ∃ f, TimesOutAt config host p s f
    · obtain ⟨f, h⟩ := hlate
      obtain ⟨s', hlimited, hdirect⟩ := h.outcomes hlimit
      rw [hlimited, hdirect]
    · rw [candidate_same hlimit hanswers (not_exists.mp hlate)]
  · -- the two outcomes do not even agree on whether the program was built
    obtain ⟨s', hlimited, hdirect⟩ := h.outcomes hlimit
    rw [hlimited, hdirect] at hsame
    simp [Outcome.failure] at hsame
  · rw [candidate_same hlimit hanswers hintime]
  · obtain ⟨s', hlimited, hdirect⟩ := h.outcomes hlimit
    rw [hlimited, hdirect]
    exact ⟨rfl, rfl⟩
  · refine ⟨fun answer hanswer => ?_, fun hsilent => ?_⟩
    · exact ⟨bounded_direct rfl hanswer, bounded_eq_direct_iff hlimit rfl hanswer⟩
    · exact bounded_silent hlimit hwait (Prod.ext hsilent rfl)

end Candidate

section FirstLine

open Crew Site

/-- The validation of a new first line by a crew whose writes all succeed runs its tests. -/
theorem tests_first_line (reply : Reply Outcome) :
    ∃ s₁, TestsAt {} (steady (fun _ _ => none) reply).host (.ofFirstLine "a.py" "x = 2")
      (single "a.py" "x = 1\n") (steady (fun _ _ => none) reply).files
      (Crew.test fun _ => (reply, ())) [("a.py", "x = 1\n")] s₁ := by
  have hread : ((steady (fun _ _ => none) reply).files.readFor "a.py"
      (single "a.py" "x = 1\n")).1 = .ok "x = 1\n" := by
    rfl
  have hedit : Edit.apply "x = 1\n"
      ((Patch.ofFirstLine "a.py" "x = 2").changes.filter (·.file = "a.py")) = .ok "x = 2\n" := by
    show Edit.apply "x = 1\n" [⟨"a.py", 1, 1, "", "x = 2"⟩] = _
    rw [Edit.apply, Edit.bottomUp, List.mergeSort_singleton]
    rfl
  have hends : ((steady (fun _ _ => none) reply).files.applyTo
      (Patch.ofFirstLine "a.py" "x = 2").changes (Patch.ofFirstLine "a.py" "x = 2").files []
      (single "a.py" "x = 1\n")).1 = ([("a.py", "x = 1\n")], .ok ()) := by
    simp only [FileAccess.applyTo, Patch.of_first_line_files, run_bind, hread, hedit]
    rfl
  exact ⟨_, rfl, rfl, rfl, Prod.ext hends rfl⟩

/-- Tests that crash are reported as they crashed, within the limit of five seconds as without. -/
theorem limit_unnoticed_by_crash :
    let host := (steady (fun _ _ => none) (.raised ⟨.runtime, "runner crashed"⟩)).host
    (∃ files tests taken s₁, TestsAt {} host (.ofFirstLine "a.py" "x = 2")
        (single "a.py" "x = 1\n") files tests taken s₁) ∧
      (candidate (withLimit {} 5.0) host (.ofFirstLine "a.py" "x = 2")
          (single "a.py" "x = 1\n")).1 =
        (candidate (withLimit {} 0.0) host (.ofFirstLine "a.py" "x = 2")
          (single "a.py" "x = 1\n")).1 ∧
      bounded (some 5.0) testTimeout (Crew.test fun _ : Site Unit =>
          (.raised ⟨.runtime, "runner crashed"⟩, ())) (single "a.py" "x = 1\n") =
        (.error ⟨.runtime, "runner crashed"⟩, (Crew.test (fun _ : Site Unit =>
          (.raised ⟨.runtime, "runner crashed"⟩, ())) (single "a.py" "x = 1\n")).2) := by
  intro host
  have hreply : ∀ files tests taken s₁, TestsAt {} host (.ofFirstLine "a.py" "x = 2")
      (single "a.py" "x = 1\n") files tests taken s₁ →
      (tests s₁).1 = .raised ⟨.runtime, "runner crashed"⟩ := by
    intro files tests taken s₁ h
    rw [← Option.some.inj h.tested]
    rfl
  have hlimit : (0.0 : Float) < 5.0 := by decide
  have hwait : (5.0 : Float) ≤ longestWait := by decide
  obtain ⟨_, hsame, _, hcalls⟩ := limit_unnoticed_iff Outcome hlimit hwait
    (fun files tests taken s₁ h => by simp [hreply files tests taken s₁ h])
  refine ⟨?_, hsame.mpr ?_, ?_⟩
  · obtain ⟨s₁, h⟩ := tests_first_line (.raised ⟨.runtime, "runner crashed"⟩)
    exact ⟨_, _, _, s₁, h⟩
  · rintro f ⟨files, tests, taken, s₁, h, ⟨hraised, hkind⟩, _⟩
    rw [hreply files tests taken s₁ h] at hraised
    cases hraised
    cases hkind
  · refine ((hcalls testTimeout _ _).1 _ rfl).2.mpr ?_
    rintro f ⟨hraised, hkind⟩
    cases hraised
    cases hkind

/-- Tests that end with a time-out of the host within the limit of five seconds are reported as
exceeding it. -/
theorem host_timeout_told_as_limit :
    let host := (steady (fun _ _ => none) (.raised ⟨.hostTimeout, "read timed out"⟩)).host
    (candidate (withLimit {} 5.0) host (.ofFirstLine "a.py" "x = 2") (single "a.py" "x = 1\n")).1 =
        .ok (.failure ["Test timeout"] false) ∧
      (candidate (withLimit {} 0.0) host (.ofFirstLine "a.py" "x = 2")
        (single "a.py" "x = 1\n")).1 = .ok (.failure ["read timed out"] true) := by
  intro host
  have hlimit : (0.0 : Float) < 5.0 := by decide
  obtain ⟨s₁, h⟩ := tests_first_line (.raised ⟨.hostTimeout, "read timed out"⟩)
  have hlate : TimesOutAt {} host (.ofFirstLine "a.py" "x = 2") (single "a.py" "x = 1\n")
      ⟨.hostTimeout, "read timed out"⟩ := ⟨_, _, _, s₁, h, ⟨rfl, rfl⟩, rfl⟩
  obtain ⟨s', hlimited, hdirect⟩ := hlate.outcomes hlimit
  rw [hlimited, hdirect]
  exact ⟨rfl, rfl⟩

end FirstLine

end Validate

end Mender
