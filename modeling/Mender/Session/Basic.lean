import Mender.Diagnostic.Parse
import Mender.Diagnostic.Reference
import Mender.Localization
import Mender.Repair.Loop
import Mender.Repair.Statistics

/-!
# Repair sessions

A session repairs every fault of an output in turn. A fault whose repair fails for whatever cause
gets a failed result and the session goes on. Once the session has been asked to stop, the faults
that are left get a cancelled result and nothing more is done for them.
-/

namespace Mender

/-- What a session did. -/
structure Session where
  faults : List Fault
  results : List RepairResult
  statistics : RepairStatistics
  /-- Some faults were left because the session was stopped. -/
  cancelled : Bool

namespace Session

variable {m : Type → Type} [Monad m]

/-- What the faults of a session share. -/
structure Setting (m : Type → Type) where
  config : RepairConfig
  host : Host m
  /-- More to tell the model. -/
  hint : Option String

/-- Source text around a fault: its snippet, or else lines of its file if that can be read. -/
def codeContext (s : Setting m) (f : Fault) : m (Except Failure String) := do
  match f.location.snippet.getD "" with
  | "" =>
    match ← s.host.readable f.location.file with
    | .error e => return .error e
    | .ok none => return .ok ""
    | .ok (some content) =>
      return .ok (Localization.linesAround content f.location s.config.codeContextLines)
  | snippet => return .ok snippet

/-- The strategy that fixed an error like this one before. -/
def learned? (s : Setting m) (memory : Memory) (f : Fault) : Option String :=
  if s.config.learningEnabled then memory.learning.lookup f.message else none

/-- Makes candidates for a fault and validates them. -/
def attempt (s : Setting m) (memory : Memory) (f : Fault) :
    m (Memory × Except Failure RepairResult) := do
  match ← codeContext s f with
  | .error e => return (memory, .error e)
  | .ok codeContext =>
    let task : Generate.Task :=
      { fault := f, codeContext, hint := s.hint, learned := learned? s memory f }
    match ← Generate.candidates s.config s.host memory.registry task with
    | .error e => return (memory, .error e)
    | .ok pool => Loop.run ⟨s.config, s.host, f, codeContext⟩ memory pool

/-- The result of a fault whose repair failed for a reason of its own. -/
def failedResult (f : Fault) (reason : String) : RepairResult :=
  { fault := f, reason := some reason, state := .exhausted }

/-- Repairs a fault. A failure on the way is a result too. -/
def repairFault (s : Setting m) (memory : Memory) (f : Fault) : m (Memory × RepairResult) := do
  s.host.notify (.faultStart f)
  match ← attempt s memory f with
  | (memory, .ok result) => return (memory, result)
  | (memory, .error e) =>
    let result := failedResult f e.described
    s.host.notify (.failure result)
    return (memory, result)

/-- How much of the work is done when the repair of a fault begins, by the fault's number counted
from zero. -/
def shareAt (number total : Nat) : Float :=
  0.1 + 0.8 * Float.ofNat (number + 1) / Float.ofNat total

/-- Repairs faults, of which `number` are done, until the session has been asked to stop. The faults
that are left then come after the results. -/
def repairFaults (s : Setting m) (total : Nat) :
    Nat → Memory → List Fault → m (Memory × List RepairResult × List Fault)
  | _, memory, [] => return (memory, [], [])
  | number, memory, f :: fs => do
    if ← s.host.stopAsked then
      return (memory, [], f :: fs)
    else
      s.host.notify (.progress s!"Repairing fault {number + 1}/{total}..." (shareAt number total))
      let (memory, result) ← repairFault s memory f
      let (memory, results, left) ← repairFaults s total (number + 1) memory fs
      return (memory, result :: results, left)

/-- The faults to repair: those that were localized, or else that of the first file that the output
names. -/
def faultsToRepair (output : String) (localized : List Fault) : Except Failure (List Fault) := do
  match localized with
  | [] => return (← Diagnostic.referenceOf? output).toList
  | faults => return faults

/-- Repairs every fault that an output shows. -/
def run (s : Setting m) (localization : LocalizationConfig) (memory : Memory) (output : String)
    (coverage : Option Coverage) : m (Memory × Except Failure Session) := do
  s.host.forgetStop
  s.host.notify .sessionStart
  s.host.notify (.progress "Localizing faults..." 0.1)
  match ← localize localization s.host output coverage with
  | .error e => return (memory, .error e)
  | .ok found =>
    s.host.notify (.localization found.faults)
    match faultsToRepair output found.faults with
    | .error e => return (memory, .error e)
    | .ok faults =>
      let (memory, worked, left) ← repairFaults s faults.length 0 memory faults
      let results := worked ++ left.map (failedResult · Reason.cancelled)
      let cancelled := !left.isEmpty
      s.host.notify (.sessionEnd results cancelled)
      return (memory, .ok ⟨faults, results, .ofResults worked, cancelled⟩)

end Session

end Mender
