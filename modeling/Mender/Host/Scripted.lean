import Mender.Host.Collaborators
import Mender.Text.Printable

/-!
# Scripted hosts

A host that follows a script: files in memory whose reads and writes may fail, tests that look for
texts in files or answer in turn, a model with prepared replies, and listeners that may ask the
session to stop. Everything that is asked of it is recorded.
-/

namespace Mender

/-- The failure of looking up a name that is not there. -/
def missingKey (key : String) : Failure :=
  ⟨.missingKey, Text.quoted key⟩

namespace Script

/-- A failure of the reads or writes of a path: of one of them, counted from one, or of all. -/
structure AccessFault where
  path : String
  nth : Option Nat
  failure : Failure

/-- How tests answer. -/
inductive Tests where
  /-- In turn; the last answer is repeated. -/
  | inTurn (answers : List (Reply Outcome))
  /-- By the first rule whose text occurs in its file. -/
  | byText (rules : List (String × String × Reply Outcome)) (otherwise : Reply Outcome)

/-- The state of a scripted host. -/
structure World where
  /-- The files by path. -/
  files : List (String × String) := []
  readFaults : List AccessFault := []
  writeFaults : List AccessFault := []
  /-- The paths read and written so far, the latest first. -/
  reads : List String := []
  writes : List String := []
  tests : Tests := .inTurn []
  testCalls : Nat := 0
  /-- The replies that the model has left. -/
  replies : List (Reply String) := []
  /-- The requests to the model, the latest first. -/
  requests : List Request := []
  commands : List (String × CommandResult) := []
  /-- The events told, the latest first. -/
  events : List Event := []
  /-- The event, by name and number, at which a listener stops the session. -/
  stopAt : Option (String × Nat) := none
  stopped : Bool := false

/-- Sets the text of a file. -/
def setFile (path text : String) : List (String × String) → List (String × String)
  | [] => [(path, text)]
  | f :: fs => if f.1 = path then (path, text) :: fs else f :: setFile path text fs

namespace World

/-- The text of a file. -/
def file? (w : World) (path : String) : Option String :=
  (w.files.find? (·.1 = path)).map (·.2)

/-- The failure that is due at a number of a path. -/
def due? (faults : List AccessFault) (path : String) (number : Nat) : Option Failure :=
  (faults.find? fun f => f.path = path && f.nth.all (· == number)).map (·.failure)

/-- Reads a file. -/
def read (path : String) : StateM World (Except Failure String) := do
  let w ← get
  set { w with reads := path :: w.reads }
  match due? w.readFaults path (w.reads.count path + 1) with
  | some f => return .error f
  | none =>
    match w.file? path with
    | some text => return .ok text
    | none => return .error (missingKey path)

/-- Writes a file; a write that fails changes nothing. -/
def write (path text : String) : StateM World (Except Failure Unit) := do
  let w ← get
  let recorded := { w with writes := path :: w.writes }
  match due? w.writeFaults path (w.writes.count path + 1) with
  | some f => set recorded; return .error f
  | none => set { recorded with files := setFile path text w.files }; return .ok ()

/-- What the tests answer next. -/
def answer (w : World) : Reply Outcome :=
  match w.tests with
  | .inTurn answers =>
    (answers[w.testCalls]?).getD (answers.getLastD (.value { success := false }))
  | .byText rules otherwise =>
    match rules.find? fun r => Text.occursIn r.2.1 ((w.file? r.1).getD "") with
    | some r => r.2.2
    | none => otherwise

/-- Runs the tests. -/
def runTests : StateM World (Reply Outcome) := do
  let w ← get
  set { w with testCalls := w.testCalls + 1 }
  return w.answer

/-- Asks the model; when the replies are used up it answers with nothing. -/
def ask (request : Request) : StateM World (Reply String) := do
  let w ← get
  set { w with requests := request :: w.requests, replies := w.replies.tail }
  return w.replies.head?.getD (.value "")

/-- Runs a command that the script knows. -/
def runCommand (command : String) : StateM World (Except Failure CommandResult) := do
  let w ← get
  match w.commands.find? (·.1 = command) with
  | some c => return .ok c.2
  | none => return .error (missingKey command)

/-- Tells an event, at which a listener may stop the session. -/
def notify (e : Event) : StateM World Unit := do
  let w ← get
  let events := e :: w.events
  let number := events.countP (·.name = e.name)
  set { w with events, stopped := w.stopped || w.stopAt == some (e.name, number) }

/-- What happened between two states of a host. -/
structure Happened where
  /-- The files whose text differs. -/
  files : List (String × String)
  writes : List String
  events : List Event
  requests : List Request

/-- What is in front of an earlier list, the earliest first. -/
def newer {α : Type} (now earlier : List α) : List α :=
  (now.take (now.length - earlier.length)).reverse

/-- What happened since an earlier state. -/
def since (now earlier : World) : Happened where
  files := now.files.filter fun f => earlier.file? f.1 ≠ some f.2
  writes := newer now.writes earlier.writes
  events := newer now.events earlier.events
  requests := newer now.requests earlier.requests

/-- A host with all collaborators of the script. -/
def host : Host (StateM World) where
  read? := some read
  write? := some write
  tests? := some runTests
  model? := some ask
  command? := some runCommand
  notify := notify
  stopAsked := return (← get).stopped
  forgetStop := modify fun w => { w with stopped := false }
  clock := return 0.0

end World

end Script

end Mender
