import Mender.Repair.Result

/-!
# Events

What a repair tells of its progress.
-/

namespace Mender

/-- A step of a repair. -/
inductive Event where
  | sessionStart
  /-- The session is over, with its results and whether it was stopped. -/
  | sessionEnd (results : List RepairResult) (cancelled : Bool)
  /-- The faults that were localized. -/
  | localization (faults : List Fault)
  | progress (message : String) (share : Float)
  | faultStart (fault : Fault)
  /-- A candidate is about to be validated in a round, counted from zero. -/
  | candidate (patch : Patch) (round : Nat)
  | validation (patch : Patch) (outcome : Outcome)
  | success (result : RepairResult)
  | failure (result : RepairResult)
  /-- Files were put back as they were. -/
  | rollback (files : List String)
  | chatStart (file : String)
  /-- A patch of a dialogue was tested, on a turn counted from one. -/
  | chatAttempt (turn : Nat) (success : Bool)

/-- The name under which listeners subscribe to an event. -/
def Event.name : Event → String
  | .sessionStart => "session:start"
  | .sessionEnd _ _ => "session:end"
  | .localization _ => "localization"
  | .progress _ _ => "progress"
  | .faultStart _ => "fault:start"
  | .candidate _ _ => "candidate"
  | .validation _ _ => "validation"
  | .success _ => "success"
  | .failure _ => "failure"
  | .rollback _ => "rollback"
  | .chatStart _ => "chat:start"
  | .chatAttempt _ _ => "chat:attempt"

end Mender
