import Mender.Patch.Basic

/-!
# Repair results

What came of the repair of one fault, with every candidate that was made for it.
-/

namespace Mender

/-- How far the repair of a fault has come. -/
inductive RepairState where
  | localized
  | candidatesGenerated
  | validating
  | success
  | exhausted
  deriving DecidableEq, Repr

/-- The name of a state in reports. -/
def RepairState.name : RepairState → String
  | .localized => "localized"
  | .candidatesGenerated => "candidates_generated"
  | .validating => "validating"
  | .success => "success"
  | .exhausted => "exhausted"

/-- All states. -/
def RepairState.all : List RepairState :=
  [.localized, .candidatesGenerated, .validating, .success, .exhausted]

/-- The result for one fault. -/
structure RepairResult where
  fault : Fault
  success : Bool := false
  /-- The number of candidates made. -/
  generated : Int := 0
  /-- The number of candidates validated. -/
  tested : Int := 0
  /-- The candidates, in the order they were made. -/
  patches : List Patch := []
  /-- The rounds of validation begun. -/
  iterations : Int := 0
  /-- The place of the applied patch among the candidates. -/
  applied : Option Nat := none
  /-- Why the repair failed. -/
  reason : Option String := none
  /-- Seconds spent. -/
  duration : Float := 0.0
  state : RepairState := .localized

/-- The patch that was applied. -/
def RepairResult.appliedPatch? (r : RepairResult) : Option Patch :=
  r.applied.bind fun i => r.patches[i]?

namespace Reason

/-- No source offered a candidate. -/
def noCandidates : String := "No repair candidates generated"

/-- Every candidate was rejected. -/
def exhausted : String := "No valid patch found after all iterations"

/-- There is no way to write patches. -/
def noFileAccess : String := "No file reader/writer configured to apply patches"

/-- The session was stopped before the fault was reached. -/
def cancelled : String := "Session cancelled before this fault was processed"

/-- The code to repair could not be found. -/
def noChatLocation : String := "Could not locate the code to repair in the file"

end Reason

end Mender
