import Mender.Config.Basic
import Mender.Dialogue.FixReply
import Mender.Dialogue.Prompt
import Mender.Host.Collaborators
import Mender.Repair.Template
import Mender.Text.Lines
import Mender.Window

/-!
# Making candidates

Candidates come from strategies first and then from a language model, which is asked as often as the
budget has room, each time for a more varied answer. After a round in which every candidate failed
the model is asked once more, and told of the failures.
-/

namespace Mender.Generate

variable {m : Type → Type} [Monad m]

/-- The model that candidates may be asked of. -/
def model? (config : RepairConfig) (host : Host m) : Option (Request → m (Reply String)) :=
  if config.useModel then host.model? else none

/-- Asks the model under its time limit; nothing comes of a request that fails. -/
def ask (config : RepairConfig) (model : Request → m (Reply String)) (prompt : String)
    (history : List Turn) (temperature : Option Float) : m (Option String) := do
  return (← bounded config.generationTimeout generationTimeout
    (model ⟨prompt, history, temperature⟩)).toOption

/-- Fills in the text that a change replaces, from the lines of its file. -/
def fillReplaced (host : Host m) (c : Change) : m (Except Failure Change) := do
  if !c.replaced.isEmpty then
    return .ok c
  else
    match ← host.readable c.file with
    | .error f => return .error f
    | .ok none => return .ok c
    | .ok (some content) =>
      let lines := window (c.first - 1) c.last (Text.lines content.toList)
      return .ok { c with replaced := String.ofList (Text.joinText ['\n'] lines) }

/-- Fills in the texts that changes replace, one after another. -/
def fillReplaceds (host : Host m) : List Change → m (Except Failure (List Change))
  | [] => return .ok []
  | c :: cs => do
    match ← fillReplaced host c with
    | .error f => return .error f
    | .ok c => return (← fillReplaceds host cs).map (c :: ·)

/-- The candidate of a reply, with the text it replaces. -/
def ofReply (host : Host m) (f : Fault) (strategy reply : String) :
    m (Except Failure (Option Patch)) := do
  match FixReply.parse f strategy reply with
  | .error e => return .error e
  | .ok none => return .ok none
  | .ok (some p) =>
    return (← fillReplaceds host p.changes).map fun changes => some { p with changes }

/-- How varied an answer may be, by the number of the request counted from zero. -/
def temperature (number : Nat) : Float :=
  0.3 + Float.ofNat number * 0.2

/-- The history of a repair request. -/
def repairHistory : List Turn :=
  [⟨.system, Prompt.repairSystem⟩]

/-- The candidates of `count` requests to the model, numbered from `number` on. -/
def ofRequests (config : RepairConfig) (host : Host m) (model : Request → m (Reply String))
    (f : Fault) (prompt : String) : Nat → Nat → m (Except Failure (List Patch))
  | _, 0 => return .ok []
  | number, count + 1 => do
    match ← ask config model prompt repairHistory (some (temperature number)) with
    | none => ofRequests config host model f prompt (number + 1) count
    | some reply =>
      match ← ofReply host f FixReply.modelStrategy reply with
      | .error e => return .error e
      | .ok p =>
        return (← ofRequests config host model f prompt (number + 1) count).map
          (p.toList ++ ·)

/-- What to make candidates for. -/
structure Task where
  fault : Fault
  /-- Source text around the fault. -/
  codeContext : String := ""
  /-- The number of candidates; that of the configuration when missing. -/
  budget : Option Int := none
  /-- More to tell the model. -/
  hint : Option String := none
  /-- A strategy to try before all others. -/
  learned : Option String := none
  /-- Candidates that were tried before, by strategy and text. -/
  tried : List (String × String) := []

/-- The template candidates for a task. -/
def templates (host : Host m) (registry : Registry) (task : Task) (budget : Int) :
    m (Except Failure (List Patch)) := do
  if budget ≤ 0 then
    return .ok []
  else
    match ← host.readable task.fault.location.file with
    | .error f => return .error f
    | .ok content =>
      match content.bind (Template.lineAt? · task.fault.location.line) with
      | none => return .ok []
      | some line =>
        return Template.candidates registry task.fault task.codeContext line budget task.learned
          task.tried

/-- The candidates for a task: templates first, half of the budget when there is a model, and then
those of the model. -/
def candidates (config : RepairConfig) (host : Host m) (registry : Registry) (task : Task) :
    m (Except Failure (List Patch)) := do
  let budget := task.budget.getD config.maxCandidates
  let share := if (model? config host).isSome then budget / 2 else budget
  let made ← if config.useTemplates then templates host registry task share else pure (.ok [])
  match made, model? config host with
  | .ok made, some model =>
    let prompt := Prompt.repair task.fault task.codeContext task.hint
    let room := (budget - made.length).toNat
    return (← ofRequests config host model task.fault prompt 0 room).map (made ++ ·)
  | made, _ => return made

/-- The strategy of candidates that learn from failed ones. -/
def refinedStrategy : String := "llm_refined"

/-- One candidate that is told of the failed ones, if there are any. -/
def refine (config : RepairConfig) (host : Host m) (f : Fault) (codeContext : String)
    (failed : List Patch) : m (Except Failure (List Patch)) := do
  match model? config host, failed with
  | none, _ => return .ok []
  | _, [] => return .ok []
  | some model, failed =>
    let prompt := Prompt.refinement f codeContext failed
    match ← ask config model prompt repairHistory (some 0.5) with
    | none => return .ok []
    | some reply =>
      return (← ofReply host f refinedStrategy reply).map fun p =>
        p.toList.map fun p => { p with source := .refinement }

end Mender.Generate
