import Mender.Failure
import Mender.Number.Decimal
import Mender.Patch.Basic

/-!
# The host

What a repair asks of the world around it: files, tests, a language model, commands, a clock, and
someone to tell how it goes. The collaborators are effects of a monad, so one pipeline runs on a
real system, on a scripted one and inside a proof.
-/

namespace Mender

/-- What a call to a collaborator comes to. -/
inductive Reply (α : Type) where
  | value (a : α)
  /-- The collaborator failed. -/
  | raised (f : Failure)
  /-- The collaborator has not answered when the caller stops waiting. -/
  | silent
  deriving Repr

/-- Who speaks in a dialogue. -/
inductive Role where
  | system
  | user
  | assistant
  deriving DecidableEq, Repr

/-- The name of a role. -/
def Role.name : Role → String
  | .system => "system"
  | .user => "user"
  | .assistant => "assistant"

/-- One message of a dialogue. -/
structure Turn where
  role : Role
  content : String
  deriving DecidableEq, Repr

/-- A request to a language model: a new message, the turns before it, and how varied the answer may
be. -/
structure Request where
  prompt : String
  history : List Turn
  temperature : Option Float

/-- What came of a command. -/
structure CommandResult where
  success : Bool
  output : String := ""
  error : String := ""
  /-- The exit status; none when the command was stopped or could not be started. -/
  status : Option Int := none
  deriving DecidableEq, Repr

/-- Reads the text of a file. -/
abbrev Reader (m : Type → Type) := String → m (Except Failure String)

/-- Writes the text of a file. -/
abbrev Writer (m : Type → Type) := String → String → m (Except Failure Unit)

/-- Failures that mean that a file cannot be read, rather than that something is broken. -/
def Failure.isUnreadable (f : Failure) : Bool :=
  f.kind.isHost || f.kind = .decoding || f.kind = .missingKey

section Bounded

variable {m : Type → Type} [Monad m] {α : Type}

/-- A time limit is in force unless it is zero or below, also when it is not a number. -/
def limitInForce : Option Float → Option Float
  | some seconds => if seconds ≤ 0.0 then none else some seconds
  | none => none

/-- The failure of a collaborator that took too long. -/
def lateFailure (kind : Failure.Kind) (label : String) (seconds : Float) : Failure :=
  ⟨kind, s!"{label} after {Decimal.significantText 6 seconds}s"⟩

/-- The longest time in seconds that can be waited for. -/
def longestWait : Float := 9223372036.0

/-- The failure of a wait that would be too long. -/
def unwaitable : Failure :=
  ⟨.overflow, "timestamp out of range for platform time_t"⟩

/-- Calls a collaborator under a time limit. With a limit in force, a host's own time-out means that
the limit was reached. The caller looks whether there is an answer and waits for it if not; with a
limit that is no number it stops at once, and a wait beyond the longest one fails at once. Without a
limit the caller waits for ever, so silence is not to be told from being late. -/
def bounded (limit : Option Float) (late : Float → Failure) (call : m (Reply α)) :
    m (Except Failure α) := do
  match ← call, limitInForce limit with
  | .value a, _ => return .ok a
  | .raised f, some seconds =>
    return .error (if f.kind = .hostTimeout then late seconds else f)
  | .raised f, none => return .error f
  | .silent, some seconds =>
    return .error (if longestWait < seconds then unwaitable else late seconds)
  | .silent, none => return .error (late 0.0)

end Bounded

/-- The failure of a test run that took too long. -/
def testTimeout (seconds : Float) : Failure :=
  lateFailure .testTimeout "Test timeout" seconds

/-- The failure of a request to the model that took too long. -/
def generationTimeout (seconds : Float) : Failure :=
  lateFailure .generationTimeout "generation timeout" seconds

end Mender
