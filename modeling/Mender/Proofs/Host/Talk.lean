import Mender.Proofs.Host.Site

/-!
# The talk at a site

The talk at a site is what the log holds of runs of the tests and of requests to the model. Reading,
writing and telling add nothing to it, so all talk of a computation that does not ask the model is
of the tests that it ran (`Unasked`), and one that does neither leaves talk and files as they were
(`Quiet`).
-/

namespace Mender

namespace Exchange

/-- A run of the tests or a request to the model. -/
def isTalk : Exchange → Bool
  | .tests _ _ | .model _ _ => true
  | _ => false

/-- The exchange that a run of the tests is. -/
def ofRun (run : FileStore × Reply Outcome) : Exchange :=
  .tests run.1 run.2

end Exchange

namespace Site

variable {E : Type} {s s' : Site E}

/-- The runs of the tests and the requests to the model so far, in their order. -/
def talk (s : Site E) : List Exchange :=
  s.log.filter Exchange.isTalk

@[simp] theorem note_talk (s : Site E) (x : Exchange) (rest : E) :
    (s.note x rest).talk = s.talk ++ if x.isTalk then [x] else [] := by
  cases h : x.isTalk <;> simp [talk, note, h]

/-- Between two states of a site the model was not asked, so all talk is of the tests that were
run. -/
def Unasked (s s' : Site E) : Prop :=
  ∃ runs, s'.runs = s.runs ++ runs ∧ s'.talk = s.talk ++ runs.map Exchange.ofRun

instance : IsPreorder (Site E) Unasked where
  refl _ := ⟨[], by simp, by simp⟩
  trans _ _ _ := by
    rintro ⟨runs, hruns, htalk⟩ ⟨runs', hruns', htalk'⟩
    exact ⟨runs ++ runs', by rw [hruns', hruns, List.append_assoc],
      by rw [htalk', htalk, List.map_append, List.append_assoc]⟩

/-- The talk is of the runs of the tests that there were. -/
theorem Unasked.talk_eq (h : Unasked s s') {runs : List (FileStore × Reply Outcome)}
    (hruns : s'.runs = s.runs ++ runs) : s'.talk = s.talk ++ runs.map Exchange.ofRun := by
  obtain ⟨runs', hruns', htalk⟩ := h
  obtain rfl := List.append_cancel_left (hruns'.symm.trans hruns)
  exact htalk

/-- Where no test was run there was no talk. -/
theorem Unasked.talk_same (h : Unasked s s') (hruns : s'.runs = s.runs) : s'.talk = s.talk := by
  have htalk := h.talk_eq (hruns.trans (List.append_nil _).symm)
  rwa [List.map_nil, List.append_nil] at htalk

/-- Between two states of a site nothing was asked or tested and no file changed. -/
structure Quiet (s s' : Site E) : Prop where
  files : s'.files = s.files
  talk : s'.talk = s.talk

instance : IsPreorder (Site E) Quiet where
  refl _ := ⟨rfl, rfl⟩
  trans _ _ _ h h' := ⟨h'.files.trans h.files, h'.talk.trans h.talk⟩

/-- An untouched site at which the model was not asked is quiet. -/
theorem Untouched.quiet (h : Untouched s s') (hunasked : Unasked s s') : Quiet s s' :=
  ⟨h.files, hunasked.talk_same h.runs⟩

end Site

namespace Crew

open Site

variable {E : Type} (c : Crew E)

theorem read_unasked (path : String) : Keeps Unasked (c.read path) :=
  fun _ => ⟨[], by simp [read, Exchange.run?], by simp [read, Exchange.isTalk]⟩

theorem write_unasked (path text : String) : Keeps Unasked (c.write path text) := by
  intro s
  have hwrote := c.write_wrote path text s
  refine ⟨[], by simpa using hwrote.runs, ?_⟩
  unfold Crew.write
  rcases c.writeFault path text s with ⟨_ | f, rest⟩ <;> simp [talk, note, Exchange.isTalk]

theorem reads_unasked : c.host.Reads Unasked := by
  rintro read ⟨⟩ path
  exact c.read_unasked path

theorem writes_unasked : c.host.Writes Unasked := by
  rintro write ⟨⟩ path text
  exact c.write_unasked path text

theorem runs_unasked : c.host.Runs Unasked := by
  intro tests htests s
  obtain ⟨answer, _, rfl⟩ := Option.map_eq_some_iff.mp htests
  exact ⟨[(s.files, (answer s).1)], by simp [test, Exchange.run?],
    by simp [test, Exchange.isTalk, Exchange.ofRun]⟩

theorem notify_unasked (e : Event) : Keeps Unasked (c.host.notify e) :=
  fun _ => ⟨[], by simp [host, Exchange.run?], by simp [host, Exchange.isTalk]⟩

theorem reads_quiet : c.host.Reads Quiet := by
  rintro read ⟨⟩ path s
  exact (c.read_keeps path s).quiet (c.read_unasked path s)

theorem notify_quiet (e : Event) : Keeps Quiet (c.host.notify e) :=
  fun s => (c.notify_keeps e s).quiet (c.notify_unasked e s)

theorem clock_quiet : Keeps Quiet c.host.clock :=
  fun _ => ⟨rfl, rfl⟩

/-- Writing the text that a file has, or failing to, is quiet. -/
theorem write_quiet {path text : String} {s : Site E} (hsame : s.files path = some text) :
    Quiet s (c.write path text s).2 := by
  have hwrote := c.write_wrote path text s
  refine ⟨?_, (c.write_unasked path text s).talk_same hwrote.runs⟩
  cases hresult : (c.write path text s).1 with
  | error f => exact hwrote.files_failed (by simp [hresult])
  | ok => rw [hwrote.files, hresult, ← hsame, Function.update_eq_self]

end Crew

end Mender
