import Mender.Proofs.Host.Keeps

/-!
# Records of calls

Any host can be made to keep a record of what is asked of it: `Host.recorded` answers and acts as
the host does, and writes down each call. A theorem about the record of every host is thus one about
the calls of every run, whatever the collaborators answer and however they fail. `Spent` bounds what
of the record a computation adds.
-/

namespace Mender

/-- A call of a collaborator. -/
inductive Host.Call where
  | read (path : String)
  | write (path text : String)
  /-- A run of the tests. -/
  | tests
  | model (request : Request)
  | command (command : String)
  | told (event : Event)

namespace Host.Call

/-- The candidate of which a call tells that its validation begins. -/
def begun? : Host.Call → Option Patch
  | .told (.candidate p _) => some p
  | _ => none

/-- The candidate, with its outcome, of which a call tells that it was validated. -/
def judged? : Host.Call → Option Patch
  | .told (.validation p _) => some p
  | _ => none

/-- The call runs the tests. -/
def isRun : Host.Call → Bool
  | .tests => true
  | _ => false

/-- The call asks the model. -/
def isRequest : Host.Call → Bool
  | .model _ => true
  | _ => false

end Host.Call

/-- A state with the calls that led to it. -/
structure Recorded (σ : Type) where
  state : σ
  /-- The calls so far, the latest last. -/
  calls : List Host.Call

namespace Recorded

variable {σ : Type}

/-- The candidates whose validation began so far. -/
def begun (s : Recorded σ) : List Patch :=
  s.calls.filterMap Host.Call.begun?

/-- The candidates that were validated so far, with their outcomes. -/
def judged (s : Recorded σ) : List Patch :=
  s.calls.filterMap Host.Call.judged?

/-- How often the tests were run so far. -/
def runs (s : Recorded σ) : Nat :=
  s.calls.countP Host.Call.isRun

/-- How often the model was asked so far. -/
def requests (s : Recorded σ) : Nat :=
  s.calls.countP Host.Call.isRequest

end Recorded

section Recording

variable {σ α : Type}

/-- Computes and writes down a call. -/
def recording (call : Host.Call) (x : StateM σ α) : StateM (Recorded σ) α := fun s =>
  ((x s.state).1, ⟨(x s.state).2, s.calls ++ [call]⟩)

/-- Computes and writes nothing down. -/
def unrecorded (x : StateM σ α) : StateM (Recorded σ) α := fun s =>
  ((x s.state).1, ⟨(x s.state).2, s.calls⟩)

/-- The host that writes down what is asked of it. -/
def Host.recorded (h : Host (StateM σ)) : Host (StateM (Recorded σ)) where
  read? := h.read?.map fun read path => recording (.read path) (read path)
  write? := h.write?.map fun write path text => recording (.write path text) (write path text)
  tests? := h.tests?.map (recording .tests)
  model? := h.model?.map fun model request => recording (.model request) (model request)
  command? := h.command?.map fun run command => recording (.command command) (run command)
  notify event := recording (.told event) (h.notify event)
  stopAsked := unrecorded h.stopAsked
  forgetStop := unrecorded h.forgetStop
  clock := unrecorded h.clock

end Recording

/-- Between two states the validation of some candidates began, some got an outcome, and the tests
were run and the model asked so many times at most. -/
structure Spent {σ : Type} (begun judged : List Patch) (runs requests : Nat) (s s' : Recorded σ) :
    Prop where
  begun : s'.begun = s.begun ++ begun
  judged : s'.judged = s.judged ++ judged
  runs : s'.runs ≤ s.runs + runs
  requests : s'.requests ≤ s.requests + requests

namespace Spent

variable {σ : Type} {begun judged begun' judged' : List Patch} {runs requests runs' requests' : Nat}
  {s s₁ s' : Recorded σ}

theorem trans (h : Spent begun judged runs requests s s₁)
    (h' : Spent begun' judged' runs' requests' s₁ s') :
    Spent (begun ++ begun') (judged ++ judged') (runs + runs') (requests + requests') s s' := by
  refine ⟨by rw [h'.begun, h.begun, List.append_assoc],
    by rw [h'.judged, h.judged, List.append_assoc], ?_, ?_⟩
  · have := h.runs
    have := h'.runs
    omega
  · have := h.requests
    have := h'.requests
    omega

theorem mono (h : Spent begun judged runs requests s s') (hruns : runs ≤ runs')
    (hrequests : requests ≤ requests') : Spent begun judged runs' requests' s s' :=
  ⟨h.begun, h.judged, Nat.le_trans h.runs (by omega), Nat.le_trans h.requests (by omega)⟩

/-- Nothing at all was spent. -/
instance : IsPreorder (Recorded σ) (Spent [] [] 0 0) where
  refl _ := ⟨by simp, by simp, Nat.le_refl _, Nat.le_refl _⟩
  trans _ _ _ h h' := h.trans h'

/-- Whatever is spent, spending nothing before or after does not add to it. -/
theorem surrounds (σ : Type) (runs requests : Nat) :
    Surrounds (@Spent σ [] [] 0 0) (Spent [] [] runs requests) := by
  refine ⟨fun h => h.mono (by omega) (by omega), fun h h' => ?_, fun h h' => h.trans h'⟩
  simpa using h.trans h'

/-- To write down a call is to spend it. -/
theorem recording_keeps {α : Type} (call : Host.Call) (x : StateM σ α) :
    Keeps (Spent call.begun?.toList call.judged?.toList (if call.isRun then 1 else 0)
      (if call.isRequest then 1 else 0)) (recording call x) := by
  intro s
  refine ⟨?_, ?_, ?_, ?_⟩
  · cases h : call.begun? <;> simp [recording, Recorded.begun, h]
  · cases h : call.judged? <;> simp [recording, Recorded.judged, h]
  · simp [recording, Recorded.runs, List.countP_append, List.countP_singleton]
  · simp [recording, Recorded.requests, List.countP_append, List.countP_singleton]

theorem unrecorded_keeps {α : Type} (x : StateM σ α) : Keeps (Spent [] [] 0 0) (unrecorded x) :=
  fun _ => ⟨by simp [Recorded.begun, unrecorded], by simp [Recorded.judged, unrecorded],
    Nat.le_refl _, Nat.le_refl _⟩

end Spent

namespace Host

variable {σ : Type} (h : Host (StateM σ))

section Calls

variable {R : Recorded σ → Recorded σ → Prop}

/-- What is kept whenever a call of a sort is written down is kept by the recorded host's calls of
this sort. -/
theorem recorded_reads_of
    (hkeeps : ∀ path (x : StateM σ (Except Failure String)), Keeps R (recording (.read path) x)) :
    h.recorded.Reads R := by
  intro read hread path
  obtain ⟨read, _, rfl⟩ := Option.map_eq_some_iff.mp hread
  exact hkeeps path (read path)

theorem recorded_writes_of
    (hkeeps : ∀ path text (x : StateM σ (Except Failure Unit)),
      Keeps R (recording (.write path text) x)) : h.recorded.Writes R := by
  intro write hwrite path text
  obtain ⟨write, _, rfl⟩ := Option.map_eq_some_iff.mp hwrite
  exact hkeeps path text (write path text)

theorem recorded_runs_of (hkeeps : ∀ x : StateM σ (Reply Outcome), Keeps R (recording .tests x)) :
    h.recorded.Runs R := by
  intro tests htests
  obtain ⟨tests, _, rfl⟩ := Option.map_eq_some_iff.mp htests
  exact hkeeps tests

theorem recorded_asks_of
    (hkeeps : ∀ request (x : StateM σ (Reply String)), Keeps R (recording (.model request) x)) :
    h.recorded.Asks R := by
  intro model hmodel request
  obtain ⟨model, _, rfl⟩ := Option.map_eq_some_iff.mp hmodel
  exact hkeeps request (model request)

end Calls

theorem recorded_reads : h.recorded.Reads (Spent [] [] 0 0) :=
  h.recorded_reads_of fun path => Spent.recording_keeps (.read path)

theorem recorded_writes : h.recorded.Writes (Spent [] [] 0 0) :=
  h.recorded_writes_of fun path text => Spent.recording_keeps (.write path text)

theorem recorded_runs : h.recorded.Runs (Spent [] [] 1 0) :=
  h.recorded_runs_of (Spent.recording_keeps .tests)

theorem recorded_asks : h.recorded.Asks (Spent [] [] 0 1) :=
  h.recorded_asks_of fun request => Spent.recording_keeps (.model request)

theorem recorded_tells (event : Event) :
    Keeps (Spent (Call.begun? (.told event)).toList (Call.judged? (.told event)).toList 0 0)
      (h.recorded.notify event) :=
  Spent.recording_keeps (.told event) (h.notify event)

theorem recorded_tells_rollback : h.recorded.TellsRollback (Spent [] [] 0 0) :=
  fun files => h.recorded_tells (.rollback files)

end Host

end Mender
