import Mender.Config.Basic
import Mender.Host.Collaborators

/-!
# Validating a candidate

A candidate is applied, the tests are run, and unless they accept it the files are put back. Without
tests a candidate is accepted as soon as it applies.
-/

namespace Mender

namespace Validate

variable {m : Type → Type} [Monad m]

/-- Candidates are tested. -/
def runsTests (config : RepairConfig) (host : Host m) : Bool :=
  config.validateWithTests && host.tests?.isSome

/-- Runs the tests under their time limit; what keeps them from answering is itself an outcome. -/
def runTests (config : RepairConfig) (tests : m (Reply Outcome)) : m Outcome := do
  match ← bounded config.testTimeout testTimeout tests with
  | .ok outcome => return outcome
  | .error f =>
    return if f.kind = .testTimeout then .failure ["Test timeout"] false
      else .failure [f.described] true

/-- A patch that could not be applied is an outcome; any other failure is passed on. -/
def patchOutcome : Except Failure Outcome → Except Failure (Outcome × Bool)
  | .ok outcome => .ok (outcome, true)
  | .error f =>
    if f.kind = .patch then .ok (.failure [f.message] false, false) else .error f

/-- Applies a candidate, tests it, and keeps it only if it is accepted. -/
def applyAndTest (config : RepairConfig) (host : Host m) (files : FileAccess m)
    (tests : m (Reply Outcome)) (p : Patch) : m (Except Failure Outcome) := do
  let ended ← files.trial p do
    let outcome ← runTests config tests
    return (outcome.accepted, .ok outcome)
  match patchOutcome ended with
  | .error f => return .error f
  | .ok (outcome, tested) =>
    if tested && !outcome.accepted then
      host.notify (.rollback p.files)
    return .ok outcome

/-- Applies a candidate and keeps it. -/
def applyUntested (files? : Option (FileAccess m)) (p : Patch) : m (Except Failure Outcome) := do
  match files? with
  | none => return .ok { success := true }
  | some files =>
    let ended ← files.trial p (pure (true, .ok { success := true }))
    return (patchOutcome ended).map (·.1)

/-- Validates a candidate. -/
def candidate (config : RepairConfig) (host : Host m) (p : Patch) : m (Except Failure Outcome) :=
  match config.validateWithTests, host.tests?, host.files? with
  | true, some _, none => return .ok (.failure [Reason.noFileAccess] false)
  | true, some tests, some files => applyAndTest config host files tests p
  | _, _, files? => applyUntested files? p

end Validate

end Mender
