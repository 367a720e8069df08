import Mender.Json.Basic
import Mender.Number.Decimal
import Mender.Session.Engine

/-!
# Reports

A result as text for people and as data for programs.
-/

namespace Mender.Report

/-- A thick rule. -/
def rule : String := String.ofList (List.replicate 60 '=')

/-- A thin rule. -/
def thinRule : String := String.ofList (List.replicate 40 '-')

/-- The length to which a message is cut. -/
def messageLimit : Nat := 80

/-- A message, cut and marked when it is too long. -/
def shortMessage (message : String) : String :=
  if message.length ≤ messageLimit then message
  else String.ofList (message.toList.take messageLimit) ++ "..."

/-- A text behind a mark, which is repeated on every line. -/
def marked (mark text : String) : String :=
  mark ++ Text.replaced "\n" ("\n" ++ mark) text

/-- The lines that show a change. -/
def changeLines (c : Change) : List String :=
  [s!"  {c.file}:{c.first}-{c.last}", marked "  - " c.replaced, marked "  + " c.new]

/-- The lines that show an applied patch. -/
def patchLines (p : Patch) : List String :=
  ["", thinRule, "Applied Fix:", thinRule, s!"Strategy: {p.strategy}",
    s!"Explanation: {p.explanation}", "", "Changes:"] ++ p.changes.flatMap changeLines

/-- The lines that tell how a repair ended. -/
def endLines (r : RepairResult) : List String :=
  match r.appliedPatch? with
  | some p => patchLines p
  | none =>
    match r.reason.getD "" with
    | "" => []
    | reason => ["", s!"Reason: {reason}"]

/-- A result for people. -/
def ofResult (r : RepairResult) : String :=
  let status := if r.success then "Fixed" else "Not Fixed"
  let duration := Decimal.fixedText 2 r.duration
  Text.joined "\n" ([rule, "AUTOMATED PROGRAM REPAIR RESULT", rule, "", s!"Status: {status}",
    s!"Fault: {shortMessage r.fault.message}", s!"Location: {r.fault.location.text}",
    s!"Candidates: {r.generated} generated, {r.tested} tested", s!"Iterations: {r.iterations}",
    s!"Duration: {duration}s"] ++ endLines r ++ ["", rule])

/-- A fault as data. -/
def faultData (f : Fault) : Json :=
  .object [("type", .string f.kind.name), ("severity", .string f.severity.name),
    ("message", .string f.message), ("location", .string f.location.text),
    ("suspiciousness", .number (Decimal.roundTo 4 f.suspiciousness))]

/-- A change as data. -/
def changeData (c : Change) : Json :=
  .object [("file", .string c.file), ("start_line", .int c.first), ("end_line", .int c.last),
    ("original", .string c.replaced), ("fixed", .string c.new)]

/-- An applied patch as data. -/
def patchData (p : Patch) : Json :=
  .object [("strategy", .string p.strategy), ("generated_by", .string p.source.name),
    ("confidence", .number p.confidence), ("explanation", .string p.explanation),
    ("changes", .array (p.changes.map changeData))]

/-- A result as data. -/
def data (r : RepairResult) : Json :=
  .object ([("fault", faultData r.fault), ("success", .bool r.success),
    ("state", .string r.state.name), ("iterations", .int r.iterations),
    ("candidates_generated", .int r.generated), ("candidates_tested", .int r.tested),
    ("duration", .number (Decimal.roundTo 3 r.duration)),
    ("reason", match r.reason with | some reason => .string reason | none => .null)] ++
    match r.appliedPatch? with
    | some p => [("patch", patchData p)]
    | none => [])

/-- The statistics of a run as data. -/
def statisticsData (s : RepairStatistics) : Json :=
  .object [("total_faults", .int s.total), ("repaired_faults", .int s.repaired),
    ("failed_faults", .int s.failed), ("success_rate", .number s.successRate),
    ("strategy_successes", .object (s.strategySuccesses.map fun c => (c.1, .int c.2)))]

/-- Every fault was repaired, and there was at least one. -/
def allRepaired (results : List RepairResult) : Bool :=
  !results.isEmpty && results.all (·.success)

/-- A whole run as data, with the tokens that the model read and wrote if there was one. -/
def ofRun (results : List RepairResult) (s : RepairStatistics) (tokens : Option (Nat × Nat)) :
    Json :=
  .object ([("success", .bool (allRepaired results)), ("statistics", statisticsData s),
    ("results", .array (results.map data))] ++
    match tokens with
    | some (input, output) =>
      [("tokens", .object [("input", .int input), ("output", .int output)])]
    | none => [])

end Mender.Report
