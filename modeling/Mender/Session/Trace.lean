import Mender.Json.Basic
import Mender.Repair.Chat
import Mender.Session.Engine

/-!
# Traces

Everything that a session works with, written out in full as data: for logs, for other tools, and to
compare two runs.
-/

namespace Mender.Trace

/-- A value that may be missing. -/
def optional {α : Type} (f : α → Json) : Option α → Json
  | some a => f a
  | none => .null

/-- A list of texts. -/
def texts (xs : List String) : Json :=
  .array (xs.map .string)

/-- A location. -/
def location (l : Location) : Json :=
  .object [("file", .string l.file), ("start_line", .int l.line), ("end_line", .int l.endLine),
    ("start_column", optional .int l.column), ("end_column", optional .int l.endColumn),
    ("snippet", optional .string l.snippet)]

/-- Where a fault comes from. -/
def origin (f : Fault) : Json :=
  let source := match f.origin with
    | .given => []
    | .pattern name => [("pattern", .string name)]
    | .stack => [("from_stack", .bool true)]
    | .spectrum metric => [("from_spectrum", .bool true), ("metric", .string metric)]
    | .generic => [("generic", .bool true)]
  .object (source ++ (f.spectrumScore.map fun x => ("spectrum_score", Json.number x)).toList)

/-- A fault. -/
def fault (f : Fault) : Json :=
  .object [("type", .string f.kind.name), ("severity", .string f.severity.name),
    ("message", .string f.message), ("location", location f.location),
    ("related", .array (f.related.map location)), ("suspiciousness", .number f.suspiciousness),
    ("stack_trace", optional .string f.stackTrace), ("metadata", origin f)]

/-- The outcome of a validation. -/
def outcome (o : Outcome) : Json :=
  .object [("success", .bool o.success), ("accepted", .bool o.accepted), ("run", .int o.run),
    ("passed", .int o.passed), ("failed", .int o.failed), ("failing_tests", texts o.failingTests),
    ("new_failures", texts o.newFailures), ("regressions", texts o.regressions),
    ("fixed_errors", texts o.fixedErrors), ("compiled", .bool o.compiled)]

/-- A change. -/
def change (c : Change) : Json :=
  .object [("file", .string c.file), ("kind", .string "replace"), ("start", .int c.first),
    ("end", .int c.last), ("original", .string c.replaced), ("new", .string c.new)]

/-- A candidate. -/
def patch (p : Patch) : Json :=
  .object [("changes", .array (p.changes.map change)), ("strategy", .string p.strategy),
    ("generated_by", .string p.source.name), ("confidence", .number p.confidence),
    ("explanation", .string p.explanation), ("validated", .bool p.validated),
    ("results", optional outcome p.results)]

/-- The result for a fault. -/
def result (r : RepairResult) : Json :=
  .object [("fault", .string r.fault.location.text), ("type", .string r.fault.kind.name),
    ("message", .string r.fault.message), ("suspiciousness", .number r.fault.suspiciousness),
    ("success", .bool r.success), ("state", .string r.state.name),
    ("iterations", .int r.iterations),
    ("generated", .int r.generated), ("tested", .int r.tested),
    ("reason", optional .string r.reason), ("patches", .array (r.patches.map patch)),
    ("applied", optional (fun (i : Nat) => .int i) r.applied)]

/-- The fields of statistics. -/
def statisticsFields (s : RepairStatistics) : List (String × Json) :=
  [("total_faults", .int s.total), ("repaired_faults", .int s.repaired),
    ("failed_faults", .int s.failed), ("average_iterations", .number s.averageIterations),
    ("average_candidates", .number s.averageCandidates),
    ("strategy_successes", .object (s.strategySuccesses.map fun c => (c.1, .int c.2))),
    ("template_success_rates", .object (s.successRates.map fun c => (c.1, .number c.2))),
    ("success_rate", .number s.successRate)]

/-- Statistics. -/
def statistics (s : RepairStatistics) : Json :=
  .object (statisticsFields s)

/-- How often a strategy was tried, and with what success. -/
def tally (r : Registry) (s : Strategy) : Json :=
  .array [.string s.id, .object [("description", .string s.description),
    ("attempts", .int (r.tally s.id).attempts), ("successes", .int (r.tally s.id).successes),
    ("success_rate", .number (r.successRate s.id))]]

/-- A session. -/
def session (s : Session) : Json :=
  .array [texts (s.faults.map (·.location.text)), .array (s.results.map fun r => .bool r.success),
    .bool s.cancelled, statistics s.statistics]

/-- Statements by file and line. -/
def places (ps : List Place) : Json :=
  let sorted := ps.mergeSort fun p q => if p.file = q.file then p.line ≤ q.line else p.file ≤ q.file
  .array (sorted.map fun p => .array [.string p.file, .int p.line])

/-- Tests by name, with what they execute. -/
def matrix (m : CoverageMatrix) : Json :=
  .array ((m.tests.mergeSort fun t u => t.name ≤ u.name).map fun t =>
    .array [.string t.name, .bool t.passed, places t.statements])

/-- Lines in order: those that stand for integers by what they count, all others as texts. -/
def lineBefore (v w : Json) : Bool :=
  match v, w with
  | .string s, .string t => s ≤ t
  | v, w => v.integer?.getD 0 ≤ w.integer?.getD 0

/-- The covered lines of a file. -/
def lines (c : Coverage) (file : String) (lines : List Int) : Json :=
  let marks := ((c.marks.find? (·.1 = file)).map (·.2)).getD []
  .array ((lines.map Json.int ++ marks).mergeSort lineBefore)

/-- Coverage. -/
def coverage (c : Coverage) : Json :=
  .object [("statement_coverage", .object (c.files.map fun f => (f.1, lines c f.1 f.2))),
    ("failing_tests", .int c.failing), ("passing_tests", .int c.passing),
    ("total_tests", .int c.total), ("matrix", optional matrix c.matrix)]

/-- The four counts of a spectrum. -/
def counts (c : Counts) : List Json :=
  [.int c.ef, .int c.ep, .int c.nf, .int c.np]

/-- A suspicious statement. -/
def statement (s : SuspiciousStatement) : Json :=
  .array
    ([.string s.place.text, .number s.suspiciousness, .string s.metric.name] ++ counts s.counts)

/-- A turn of a dialogue. -/
def turn (t : Turn) : Json :=
  .array [.string t.role.name, .string t.content]

/-- A patch that was tested in a dialogue. -/
def attempt (a : Chat.Attempt) : Json :=
  .array [.int a.turn, patch a.patch, .string a.outcome.text]

/-- A dialogue. -/
def dialogue (c : Chat.Ended) : Json :=
  .object [("success", .bool c.success), ("reason", optional .string c.reason),
    ("lessons", texts c.lessons), ("final_patch", optional (fun p => .string p.text) c.applied),
    ("conversation", .array (c.conversation.map turn)),
    ("attempts", .array (c.attempts.map attempt))]

/-- The fields of a learning store. -/
def storeFields (s : LearningStore) : List (String × Json) :=
  let known : Json := .int s.strategies.length
  let strategies := s.perStrategy.map fun c =>
    (c.1, Json.object [("successes", .int c.2.1), ("failures", .int c.2.2)])
  [("patterns", .array (s.strategies.map fun e => texts [e.1, e.2])),
    ("stats", .object [("learned_patterns", known), ("records", .int s.records.length),
      ("failures", .int s.failures.length), ("strategies", .object strategies)]),
    ("len", known)]

/-- What an event tells besides its name. -/
def eventBody : Event → List Json
  | .sessionStart => []
  | .sessionEnd results cancelled => [.int results.length, .bool cancelled]
  | .localization faults => [.int faults.length]
  | .progress message share => [.string message, .number share]
  | .faultStart f => [.string f.location.text]
  | .candidate p round => [.string p.strategy, .int round]
  | .validation p o => [.string p.strategy, .bool o.accepted]
  | .success r => [.string r.fault.location.text, .string r.state.name]
  | .failure r =>
    [.string r.fault.location.text, .string r.state.name, optional .string r.reason]
  | .rollback files => [texts files]
  | .chatStart file => [.string file]
  | .chatAttempt turn success => [.int turn, .bool success]

/-- An event. -/
def event (e : Event) : Json :=
  .array (.string e.name :: eventBody e)

end Mender.Trace
