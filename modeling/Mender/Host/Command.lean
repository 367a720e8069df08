import Mender.Host.Basic
import Mender.Text.Utf8

/-!
# Results of commands

A command is run by the host, which tells how the run ended. The result has the outputs as text with
line feeds for line endings; a command that could not be started, or was stopped, has a result as
well.
-/

namespace Mender

/-- How the run of a command ended. -/
inductive Ending where
  /-- The command ended by itself, with a status and its two outputs. -/
  | exited (status : Int) (output error : Utf8.Bytes)
  /-- The command was stopped for taking too long, after it had printed something. -/
  | stopped (output : Utf8.Bytes)
  /-- The host failed to run the command. -/
  | failed (f : Failure)
  deriving DecidableEq, Repr

/-- What a result says when the command was stopped. -/
def CommandResult.timedOut : String := "Command timed out"

/-- The result of a run. A failure of the host is told as a result too, other failures are passed
on, and so is an output that is not text, unless the command was stopped. -/
def Ending.result : Ending → Except Failure CommandResult
  | .exited status output error => do
    let output ← Utf8.decode output
    let error ← Utf8.decode error
    return ⟨status = 0, Utf8.withUnixLines output, Utf8.withUnixLines error, some status⟩
  | .stopped output => .ok ⟨false, Utf8.decodeLossy output, CommandResult.timedOut, none⟩
  | .failed f => if f.kind.isHost then .ok { success := false, error := f.message } else .error f

/-- All that a command printed, its two outputs on lines of their own. -/
def CommandResult.text (r : CommandResult) : String :=
  Text.joined "\n" ([r.output, r.error].filter (!·.isEmpty))

end Mender
