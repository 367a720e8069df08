import Mender.Host.Command
import Mender.TestRun.Output

/-!
# Tests run by a command

A test command becomes an outcome by what it prints and how it exits. Its run on the unpatched tree
is the baseline that tells what a patch breaks and what it mends.
-/

namespace Mender.TestRun

/-- What failed before any patch. -/
structure Baseline where
  failingTests : List String
  errors : List String
  deriving DecidableEq, Repr

/-- All that a command printed. -/
def printed (r : CommandResult) : List Char :=
  r.output.toList ++ '\n' :: r.error.toList

/-- The baseline that a run gives. -/
def Baseline.of (r : CommandResult) : Baseline :=
  ⟨TestOutput.failingTests (printed r), TestOutput.errors (printed r)⟩

/-- An exit status as text. -/
def statusText : Option Int → String
  | some n => toString n
  | none => "None"

/-- Failures that a run shows for the first time. Without a baseline every error of a failing run is
new. -/
def newFailures (baseline : Option Baseline) (r : CommandResult) (errors : List String) :
    List String :=
  match baseline with
  | some b => errors.filter fun e => !b.errors.contains e
  | none =>
    if r.success then []
    else if errors.isEmpty then [s!"Test command exited with {statusText r.status}"]
    else errors

/-- The outcome of a run. -/
def outcome (baseline : Option Baseline) (r : CommandResult) : Except Failure Outcome := do
  if r.error = CommandResult.timedOut then
    return .failure ["Test timeout"] false
  else
    let output := printed r
    let counts ← TestOutput.tests output
    let failing := TestOutput.failingTests output
    let errors := TestOutput.errors output
    return {
      success := r.success
      run := if counts.run = 0 && r.success then counts.passed else counts.run
      passed := counts.passed, failed := counts.failed, failingTests := failing
      newFailures := newFailures baseline r errors
      regressions :=
        match baseline with
        | some b => failing.filter fun t => !b.failingTests.contains t
        | none => []
      fixedErrors :=
        match baseline with
        | some b => (b.errors.filter fun e => !errors.contains e).mergeSort (· ≤ ·)
        | none => []
      compiled := r.success || !errors.any TestOutput.tellsOfCompilation }

end Mender.TestRun
