import Mender.Host.Basic
import Mender.Patch.Trial
import Mender.Repair.Event

/-!
# Collaborators

The collaborators of a repair. Those that are missing are simply not there: without tests every
patch that applies is accepted, without a model only strategies offer candidates.
-/

namespace Mender

/-- The collaborators of a repair. -/
structure Host (m : Type → Type) where
  read? : Option (Reader m)
  write? : Option (Writer m)
  /-- Runs the tests on the files as they are. -/
  tests? : Option (m (Reply Outcome))
  /-- Asks a language model. -/
  model? : Option (Request → m (Reply String))
  /-- Runs a build or lint command. -/
  command? : Option (String → m (Except Failure CommandResult))
  /-- Tells listeners of an event. -/
  notify : Event → m Unit
  /-- The session has been asked to stop. -/
  stopAsked : m Bool
  /-- Forgets that the session was asked to stop. -/
  forgetStop : m Unit
  /-- The time in seconds. -/
  clock : m Float

namespace Host

/-- Files that can be both read and written. -/
def files? {m : Type → Type} (h : Host m) : Option (FileAccess m) :=
  match h.read?, h.write? with
  | some read, some write => some ⟨read, write⟩
  | _, _ => none

/-- Reads a file if it can be read at all; failures that mean otherwise are passed on. -/
def readable {m : Type → Type} [Monad m] (h : Host m) (path : String) :
    m (Except Failure (Option String)) := do
  match h.read? with
  | none => return .ok none
  | some read =>
    match ← read path with
    | .ok text => return .ok (some text)
    | .error f => return if f.isUnreadable then .ok none else .error f

end Host

end Mender
