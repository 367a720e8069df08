import Mathlib.Logic.Function.Basic
import Mender.Host.Scripted
import Mender.Proofs.Host.Keeps
import Mender.Proofs.Patch.Effect

/-!
# Sites and crews

A site is where a repair takes place: files, a log of all that was asked of the collaborators, and
whatever else the collaborators depend on. A crew is any set of collaborators at a site. Each of
them sees the whole site and may answer anything or fail at any call; the files change only by
writes that succeed, and reads that succeed give the text that is there. A theorem about every crew
and every site is thus one about every way in which collaborators can behave over one store.
-/

namespace Mender

/-- A call of a collaborator with what came of it. -/
inductive Exchange where
  | read (path : String) (result : Except Failure String)
  | write (path text : String) (result : Except Failure Unit)
  /-- A run of the tests, with the files that they saw. -/
  | tests (files : FileStore) (reply : Reply Outcome)
  | model (request : Request) (reply : Reply String)
  | command (command : String) (result : Except Failure CommandResult)
  | told (event : Event)

namespace Exchange

/-- The run of the tests that an exchange is, if it is one. -/
def run? : Exchange → Option (FileStore × Reply Outcome)
  | .tests files reply => some (files, reply)
  | _ => none

/-- The text that an exchange writes to a path, with what came of it. -/
def writeTo? (path : String) : Exchange → Option (String × Except Failure Unit)
  | .write written text result => if written = path then some (text, result) else none
  | _ => none

end Exchange

/-- Where a repair takes place. -/
structure Site (E : Type) where
  files : FileStore
  /-- What was asked of the collaborators, the latest last. -/
  log : List Exchange
  /-- All else that the collaborators depend on. -/
  rest : E

namespace Site

variable {E : Type}

/-- The site after an exchange that leaves the files alone. -/
def note (s : Site E) (x : Exchange) (rest : E) : Site E :=
  { s with log := s.log ++ [x], rest }

/-- The runs of the tests so far: the files that they saw, and how they answered. -/
def runs (s : Site E) : List (FileStore × Reply Outcome) :=
  s.log.filterMap Exchange.run?

/-- What was written to a path so far, with what came of it. -/
def writesTo (s : Site E) (path : String) : List (String × Except Failure Unit) :=
  s.log.filterMap (Exchange.writeTo? path)

/-- The outcome of a run of the tests that accepts the files it saw. -/
def acceptance? : FileStore × Reply Outcome → Option (FileStore × Outcome)
  | (files, .value outcome) => if outcome.accepted then some (files, outcome) else none
  | _ => none

/-- The runs of the tests so far that accepted the files they saw, with their outcomes. -/
def acceptedRuns (s : Site E) : List (FileStore × Outcome) :=
  s.runs.filterMap acceptance?

@[simp] theorem note_files (s : Site E) (x : Exchange) (rest : E) :
    (s.note x rest).files = s.files :=
  rfl

@[simp] theorem note_runs (s : Site E) (x : Exchange) (rest : E) :
    (s.note x rest).runs = s.runs ++ x.run?.toList := by
  cases h : x.run? <;> simp [runs, note, h]

@[simp] theorem note_writes_to (s : Site E) (x : Exchange) (rest : E) (path : String) :
    (s.note x rest).writesTo path = s.writesTo path ++ (x.writeTo? path).toList := by
  cases h : x.writeTo? path <;> simp [writesTo, note, h]

/-- Between two states of a site no file was changed, nothing written and no test run. -/
structure Untouched (s s' : Site E) : Prop where
  files : s'.files = s.files
  runs : s'.runs = s.runs
  writes : ∀ path, s'.writesTo path = s.writesTo path

instance : IsPreorder (Site E) Untouched where
  refl _ := ⟨rfl, rfl, fun _ => rfl⟩
  trans _ _ _ h h' :=
    ⟨h'.files.trans h.files, h'.runs.trans h.runs,
      fun path => (h'.writes path).trans (h.writes path)⟩

theorem Untouched.accepted_runs {s s' : Site E} (h : Untouched s s') :
    s'.acceptedRuns = s.acceptedRuns := by
  simp only [acceptedRuns, h.runs]

/-- An exchange that neither writes nor runs the tests leaves the site untouched. -/
theorem untouched_note (s : Site E) {x : Exchange} (rest : E) (hrun : x.run? = none)
    (hwrite : ∀ path, x.writeTo? path = none) : Untouched s (s.note x rest) :=
  ⟨rfl, by simp [hrun], fun path => by simp [hwrite]⟩

/-- Between two states of a site a text was written to a path, or failed to be. -/
structure Wrote (path text : String) (result : Except Failure Unit) (s s' : Site E) : Prop where
  files : s'.files = match result with
    | .ok () => Function.update s.files path (some text)
    | .error _ => s.files
  runs : s'.runs = s.runs
  writes : s'.writesTo path = s.writesTo path ++ [(text, result)]
  others : ∀ other ≠ path, s'.writesTo other = s.writesTo other

/-- Between two states of a site nothing happened to a path. -/
structure SameAt (path : String) (s s' : Site E) : Prop where
  files : s'.files path = s.files path
  writes : s'.writesTo path = s.writesTo path

theorem SameAt.trans {path : String} {s s' s'' : Site E} (h : SameAt path s s')
    (h' : SameAt path s' s'') : SameAt path s s'' :=
  ⟨h'.files.trans h.files, h'.writes.trans h.writes⟩

/-- Between two states of a site no file was changed and nothing written. -/
def Unwritten (s s' : Site E) : Prop :=
  ∀ path, SameAt path s s'

instance : IsPreorder (Site E) Unwritten where
  refl _ _ := ⟨rfl, rfl⟩
  trans _ _ _ h h' path := (h path).trans (h' path)

theorem Unwritten.files {s s' : Site E} (h : Unwritten s s') : s'.files = s.files :=
  funext fun path => (h path).files

theorem Untouched.unwritten {s s' : Site E} (h : Untouched s s') : Unwritten s s' :=
  fun path => ⟨congrFun h.files path, h.writes path⟩

/-- Writing to a path is nothing that happens to the others. -/
theorem Wrote.same_at {path text : String} {result : Except Failure Unit} {s s' : Site E}
    (h : Wrote path text result s s') {other : String} (hne : other ≠ path) :
    SameAt other s s' := by
  refine ⟨?_, h.others other hne⟩
  rw [h.files]
  cases result with
  | ok => exact Function.update_of_ne hne _ _
  | error f => rfl

theorem Wrote.files_failed {path text : String} {result : Except Failure Unit} {s s' : Site E}
    (h : Wrote path text result s s') (hfailed : result ≠ .ok ()) : s'.files = s.files := by
  rw [h.files]
  cases result with
  | ok => exact absurd rfl hfailed
  | error f => rfl

theorem Wrote.files_ok {path text : String} {s s' : Site E} (h : Wrote path text (.ok ()) s s') :
    s'.files path = some text := by
  rw [h.files]
  exact Function.update_self _ _ _

end Site

/-- The collaborators of a repair at a site. Each call sees the whole site and may change the part
of it that is theirs. -/
structure Crew (E : Type) where
  /-- Why a file cannot be read; without a reason the text that is there is read. -/
  readFault : String → Site E → Option Failure × E
  /-- Why a file cannot be written, if it cannot. -/
  writeFault : String → String → Site E → Option Failure × E
  tests? : Option (Site E → Reply Outcome × E)
  model? : Option (Request → Site E → Reply String × E)
  command? : Option (String → Site E → Except Failure CommandResult × E)
  /-- What listeners do when they are told of an event. -/
  hear : Event → Site E → E
  stopAsked : Site E → Bool × E
  forgetStop : Site E → E
  clock : Site E → Float × E

namespace Crew

variable {E : Type} (c : Crew E)

/-- Reads a file. -/
def read (path : String) : StateM (Site E) (Except Failure String) := fun s =>
  let (fault, rest) := c.readFault path s
  let result := match fault, s.files path with
    | some f, _ => .error f
    | none, some text => .ok text
    | none, none => .error (missingKey path)
  (result, s.note (.read path result) rest)

/-- Writes a file; a write that fails changes none. -/
def write (path text : String) : StateM (Site E) (Except Failure Unit) := fun s =>
  match c.writeFault path text s with
  | (some f, rest) => (.error f, s.note (.write path text (.error f)) rest)
  | (none, rest) =>
    (.ok (), { s.note (.write path text (.ok ())) rest with
      files := Function.update s.files path (some text) })

/-- Runs tests that answer in a given way. -/
def test (answer : Site E → Reply Outcome × E) : StateM (Site E) (Reply Outcome) := fun s =>
  ((answer s).1, s.note (.tests s.files (answer s).1) (answer s).2)

/-- Asks a model that answers in a given way. -/
def ask (answer : Request → Site E → Reply String × E) (request : Request) :
    StateM (Site E) (Reply String) := fun s =>
  ((answer request s).1, s.note (.model request (answer request s).1) (answer request s).2)

/-- Runs a command that ends in a given way. -/
def perform (result : String → Site E → Except Failure CommandResult × E) (command : String) :
    StateM (Site E) (Except Failure CommandResult) := fun s =>
  ((result command s).1, s.note (.command command (result command s).1) (result command s).2)

/-- The files of the site. -/
def files : FileAccess (StateM (Site E)) :=
  ⟨c.read, c.write⟩

@[simp] theorem files_read : c.files.read = c.read :=
  rfl

@[simp] theorem files_write : c.files.write = c.write :=
  rfl

/-- The crew as the collaborators of a repair. -/
def host : Host (StateM (Site E)) where
  read? := some c.read
  write? := some c.write
  tests? := c.tests?.map test
  model? := c.model?.map ask
  command? := c.command?.map perform
  notify e s := ((), s.note (.told e) (c.hear e s))
  stopAsked s := ((c.stopAsked s).1, { s with rest := (c.stopAsked s).2 })
  forgetStop s := ((), { s with rest := c.forgetStop s })
  clock s := ((c.clock s).1, { s with rest := (c.clock s).2 })

@[simp] theorem host_files : c.host.files? = some c.files :=
  rfl

@[simp] theorem host_tests : c.host.tests? = c.tests?.map test :=
  rfl

/-- No write ever fails. -/
def WritesSucceed : Prop :=
  ∀ path text s, (c.writeFault path text s).1 = none

theorem read_keeps (path : String) : Keeps Site.Untouched (c.read path) :=
  fun s => Site.untouched_note s _ rfl fun _ => rfl

/-- What is read is the text that is there. -/
theorem read_eq_ok {path text : String} {s : Site E} (h : (c.read path s).1 = .ok text) :
    s.files path = some text := by
  unfold read at h
  cases hfault : (c.readFault path s).1 with
  | some f => simp [hfault] at h
  | none => cases hfile : s.files path <;> simp_all

theorem write_wrote (path text : String) (s : Site E) :
    Site.Wrote path text (c.write path text s).1 s (c.write path text s).2 := by
  unfold write
  rcases c.writeFault path text s with ⟨_ | f, rest⟩
  · exact ⟨rfl, by simp [Site.runs, Site.note, Exchange.run?],
      by simp [Site.writesTo, Site.note, Exchange.writeTo?],
      fun other hne => by simp [Site.writesTo, Site.note, Exchange.writeTo?, hne.symm]⟩
  · exact ⟨rfl, by simp [Exchange.run?], by simp [Exchange.writeTo?],
      fun other hne => by simp [Exchange.writeTo?, hne.symm]⟩

/-- Running the tests writes nothing, whatever comes of it. -/
theorem test_keeps (answer : Site E → Reply Outcome × E) : Keeps Site.Unwritten (test answer) :=
  fun _ _ => ⟨rfl, by simp [test, Exchange.writeTo?]⟩

theorem ask_keeps (answer : Request → Site E → Reply String × E) (request : Request) :
    Keeps Site.Untouched (ask answer request) :=
  fun s => Site.untouched_note s _ rfl fun _ => rfl

theorem host_reads : c.host.Reads Site.Untouched := by
  rintro read ⟨⟩ path
  exact c.read_keeps path

theorem host_asks : c.host.Asks Site.Untouched := by
  intro model hmodel request
  obtain ⟨answer, _, rfl⟩ := Option.map_eq_some_iff.mp hmodel
  exact ask_keeps answer request

theorem notify_keeps (e : Event) : Keeps Site.Untouched (c.host.notify e) :=
  fun s => Site.untouched_note s _ rfl fun _ => rfl

theorem stop_asked_keeps : Keeps Site.Untouched c.host.stopAsked :=
  fun _ => ⟨rfl, rfl, fun _ => rfl⟩

theorem forget_stop_keeps : Keeps Site.Untouched c.host.forgetStop :=
  fun _ => ⟨rfl, rfl, fun _ => rfl⟩

theorem clock_keeps : Keeps Site.Untouched c.host.clock :=
  fun _ => ⟨rfl, rfl, fun _ => rfl⟩

end Crew

/-! ### A site with one file -/

/-- A site with a single file. -/
def Site.single (path text : String) : Site Unit where
  files other := if other = path then some text else none
  log := []
  rest := ()

/-- A crew without a model whose reads succeed, whose writes to a path fail by the number of earlier
writes to it, and whose tests always answer alike. -/
def Crew.steady (writeFault : String → Nat → Option Failure) (reply : Reply Outcome) :
    Crew Unit where
  readFault _ _ := (none, ())
  writeFault path _ s := (writeFault path (s.writesTo path).length, ())
  tests? := some fun _ => (reply, ())
  model? := none
  command? := none
  hear _ _ := ()
  stopAsked _ := (false, ())
  forgetStop _ := ()
  clock _ := (0.0, ())

/-- A fault of no known kind on the first line of a file. -/
def Fault.ofFirstLine (file : String) : Fault where
  kind := .unknown
  severity := .medium
  message := "wrong value"
  location := .ofLine file 1
  related := []
  suspiciousness := 0.5
  stackTrace := none
  origin := .given
  spectrumScore := none

/-- A fault of no known kind on a line of a file. -/
def Fault.ofLineOf (file : String) (number : Int) : Fault :=
  { ofFirstLine file with location := .ofLine file number }

/-- The first line of a file replaced by another. -/
def Patch.ofFirstLine (file new : String) : Patch where
  changes := [⟨file, 1, 1, "", new⟩]
  strategy := "replace_line"
  source := .template
  confidence := 0.5

@[simp] theorem Patch.of_first_line_files (file new : String) :
    (ofFirstLine file new).files = [file] := by
  simp [files, ofFirstLine, List.eraseDups_cons]

end Mender
