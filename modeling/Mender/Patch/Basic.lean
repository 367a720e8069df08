import Mender.Fault
import Mender.Text.Cut

/-!
# Patches

A patch replaces ranges of lines. It remembers which strategy made it, how much trust it has, and
once it has been validated what came of that.
-/

namespace Mender

/-- Lines `first` to `last` of a file are replaced by a new text. -/
structure Change where
  file : String
  first : Int
  last : Int
  /-- The text of the lines when the change was made, as far as known. -/
  replaced : String
  new : String
  deriving DecidableEq, Repr

/-- What came of running the tests on a patched tree. -/
structure Outcome where
  success : Bool
  run : Int := 0
  passed : Int := 0
  failed : Int := 0
  failingTests : List String := []
  /-- Failures that were not there before the patch. -/
  newFailures : List String := []
  regressions : List String := []
  fixedErrors : List String := []
  compiled : Bool := true
  deriving DecidableEq, Repr

namespace Outcome

/-- A patch is accepted when the tests pass and nothing new fails. -/
def accepted (o : Outcome) : Bool :=
  o.success && o.newFailures.isEmpty

/-- A failure with given messages. -/
def failure (messages : List String) (compiled : Bool) : Outcome :=
  { success := false, failingTests := messages, newFailures := messages, compiled }

/-- An outcome in one line. -/
def text (o : Outcome) : String :=
  let status := if o.accepted then "PASS" else "FAIL"
  s!"{status} ({o.passed}/{o.run} passed, {o.newFailures.length} new failures)"

end Outcome

/-- Where a patch comes from. -/
inductive Patch.Source where
  | template
  | model
  | refinement
  deriving DecidableEq, Repr

/-- The name of a source in reports. -/
def Patch.Source.name : Patch.Source → String
  | .template => "template"
  | .model => "llm"
  | .refinement => "refinement"

/-- A candidate patch for a fault. -/
structure Patch where
  changes : List Change
  strategy : String
  source : Patch.Source
  confidence : Float
  explanation : String := ""
  validated : Bool := false
  results : Option Outcome := none

namespace Patch

/-- The files that a patch touches, in the order of their first change. -/
def files (p : Patch) : List String :=
  (p.changes.map (·.file)).eraseDups

/-- The new texts of a patch, one after another. -/
def text (p : Patch) : String :=
  Text.joined "\n" (p.changes.map (·.new))

/-- What identifies a candidate among those already tried: its strategy and its text. -/
def key (p : Patch) : String × String :=
  (p.strategy, p.text)

/-- The patch with the outcome of its validation. -/
def withOutcome (p : Patch) (o : Outcome) : Patch :=
  { p with validated := true, results := some o }

/-- The patch has been validated without being accepted. -/
def rejected (p : Patch) : Bool :=
  p.validated && !p.results.any (·.accepted)

end Patch

end Mender
