import Mender.Host.Basic
import Mender.Text.Cut

/-!
# Transcripts as messages

A message service takes what the system says apart from the dialogue, and expects user and assistant
to take turns. System turns are joined, and a run of turns of one speaker becomes one message.
-/

namespace Mender.Transcript

/-- A blank line. -/
def gap : String := "\n\n"

/-- Puts a turn in front of messages, joined to the first when that has the same speaker. -/
def prepend (t : Turn) : List Turn → List Turn
  | [] => [t]
  | u :: us =>
    if u.role = t.role then ⟨t.role, t.content ++ gap ++ u.content⟩ :: us else t :: u :: us

/-- Turns with runs of one speaker joined. -/
def merged : List Turn → List Turn
  | [] => []
  | t :: ts => prepend t (merged ts)

/-- The turns of a request: its history and the new message. -/
def turns (r : Request) : List Turn :=
  r.history ++ [⟨.user, r.prompt⟩]

/-- What the system says. -/
def system (r : Request) : String :=
  Text.joined gap (((turns r).filter (·.role = .system)).map (·.content))

/-- The messages of user and assistant. -/
def messages (r : Request) : List Turn :=
  merged ((turns r).filter (·.role ≠ .system))

end Mender.Transcript
