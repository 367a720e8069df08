import Mender.Json.Basic
import Mender.Number.Integer
import Mender.Spectrum.Coverage
import Mender.Text.Cut

/-!
# Coverage reports

A coverage report lists, file by file, the lines that were executed and, if the run recorded them,
the tests that executed each line. With the outcomes of the tests it becomes a `Coverage`: test by
test when some label of the report names a test with an outcome, and by lines otherwise.
-/

namespace Mender

/-- What a report says of a file. -/
structure CoverageReport.Entry where
  file : String
  /-- The lines that were executed, each once, as the report tells them. -/
  executed : List Json
  /-- The labels recorded under each line. -/
  labels : List (Int × List String)

/-- A coverage report, as it was read. Its parts are looked at only when they are needed, in the
order in which the report has them. -/
structure CoverageReport where
  data : Json

/-- The outcomes of tests by name: passed or not. -/
abbrev Outcomes := List (String × Bool)

namespace CoverageReport

/-- The test that a label names: the part before the first bar, trimmed. Code that ran outside any
test has a label that names none. -/
def testOf? (label : String) : Option String :=
  match Text.trim (label.toList.takeWhile (· ≠ '|')) with
  | [] => none
  | name => some (String.ofList name)

/-- The failure of a value that does not have a part it should have. -/
def lacks (v : Json) (part : String) : Failure :=
  ⟨.missingAttribute, s!"'{v.sort}' object has no attribute '{part}'"⟩

/-- The fields of an object; `part` is what anything else lacks. -/
def fieldsOf (part : String) : Json → Except Failure (List (String × Json))
  | .object fields => .ok fields
  | v => .error (lacks v part)

/-- A field of an object, or a value in its place. -/
def fieldOr (name : String) (absent : Json) (v : Json) : Except Failure Json :=
  match v with
  | .object _ => .ok ((v.field? name).getD absent)
  | _ => .error (lacks v "get")

/-- The items of an array. -/
def itemsOf : Json → Except Failure (List Json)
  | .array items => .ok items
  | .object fields => .ok (fields.map fun f => .string f.1)
  | .string s => .ok (s.toList.map fun c => .string (String.singleton c))
  | v => .error ⟨.wrongType, s!"'{v.sort}' object is not iterable"⟩

/-- A line, which may be told by any value without parts. -/
def lineOf : Json → Except Failure Json
  | .array _ => .error ⟨.wrongType, "unhashable type: 'list'"⟩
  | .object _ => .error ⟨.wrongType, "unhashable type: 'dict'"⟩
  | v => .ok v

/-- A label. -/
def labelOf : Json → Except Failure String
  | .string s => .ok s
  | v => .error (lacks v "split")

/-- Labels. -/
def labelsOf (v : Json) : Except Failure (List String) := do
  (← itemsOf v).mapM labelOf

/-- What a report says of a file, from its data. -/
def entryOf (field : String × Json) : Except Failure Entry := do
  let executed ← (← itemsOf (← fieldOr "executed_lines" (.array []) field.2)).mapM lineOf
  let contexts ← fieldsOf "items" (← fieldOr "contexts" (.object []) field.2)
  let labels ← contexts.mapM fun c => do
    let line ← Integer.read c.1
    return (line, ← labelsOf c.2)
  return ⟨field.1, Json.eachOnce executed, labels⟩

/-- What a report says of its files. -/
def entries (r : CoverageReport) : Except Failure (List Entry) := do
  (← fieldsOf "items" (← fieldOr "files" (.object []) r.data)).mapM entryOf

/-- Every label of a report. -/
def labels (r : CoverageReport) : Except Failure (List String) := do
  let perFile ← (← fieldsOf "values" (← fieldOr "files" (.object []) r.data)).mapM fun f => do
    let lines ← fieldsOf "values" (← fieldOr "contexts" (.object []) f.2)
    return (← lines.mapM fun c => labelsOf c.2).flatten
  return perFile.flatten

/-- Every test that some label names, each once. -/
def tests (r : CoverageReport) : Except Failure (List String) := do
  return ((← r.labels).filterMap testOf?).eraseDups

/-- Outcomes when only the tests of a list fail. -/
def outcomesOfFailing (r : CoverageReport) (failing : List String) : Except Failure Outcomes := do
  return ((← r.tests) ++ failing).eraseDups.map fun t => (t, !failing.contains t)

/-- The outcome of a test. -/
def outcome? (outcomes : Outcomes) (test : String) : Option Bool :=
  (outcomes.find? (·.1 = test)).map (·.2)

/-- Every label with the statement it is filed under. -/
def filed (entries : List Entry) : List (Place × String) :=
  entries.flatMap fun e => e.labels.flatMap fun l =>
    l.2.map fun label => ((⟨e.file, l.1⟩ : Place), label)

/-- Records that a test executed a statement. -/
def execute (m : CoverageMatrix) (test : String) (passed : Bool) (s : Place) : CoverageMatrix :=
  let known := ((m.find? test).map (·.statements)).getD []
  m.add ⟨test, passed, if known.contains s then known else known ++ [s]⟩

/-- The tests with an outcome and the statements filed under their labels. -/
def matrixOf (outcomes : Outcomes) (filed : List (Place × String)) : CoverageMatrix :=
  filed.foldl
    (fun m entry =>
      match testOf? entry.2 with
      | none => m
      | some test =>
        match outcome? outcomes test with
        | none => m
        | some passed => execute m test passed entry.1)
    .empty

/-- Adds the tests that ran without executing anything recorded. -/
def withIdleTests (outcomes : Outcomes) (m : CoverageMatrix) : CoverageMatrix :=
  outcomes.foldl
    (fun m o => if (m.find? o.1).isSome then m else m.add ⟨o.1, o.2, []⟩) m

/-- A line that is told by an integer. -/
def plainLine? : Json → Option Int
  | .int n => some n
  | _ => none

/-- Coverage by the lines that a report lists. -/
def byLines (entries : List Entry) (failing passing : Int) : Coverage :=
  let files := entries.map fun e => (e.file, e.executed.filterMap plainLine?)
  let marks := entries.map fun e => (e.file, e.executed.filter fun v => (plainLine? v).isNone)
  { Coverage.ofLines files failing passing none with marks }

/-- The coverage that the entries of a report and the outcomes of the tests describe. Without
outcomes the numbers of failing and passing tests are those given. -/
def coverageOf (entries : List Entry) (outcomes : Outcomes) (failing passing : Int) : Coverage :=
  let matrix := matrixOf outcomes (filed entries)
  if !matrix.tests.isEmpty then .ofMatrix (withIdleTests outcomes matrix)
  else if outcomes.isEmpty then byLines entries failing passing
  else byLines entries (outcomes.countP (!·.2) : Nat) (outcomes.countP (·.2) : Nat)

/-- The coverage that a report and the outcomes of the tests describe. -/
def coverage (r : CoverageReport) (outcomes : Outcomes) (failing passing : Int) :
    Except Failure Coverage := do
  return coverageOf (← r.entries) outcomes failing passing

/-- The coverage of a report whose failing tests may be listed by name instead of outcomes; a list
without names says nothing. -/
def load (r : CoverageReport) (outcomes : Option Outcomes) (failing passing : Int)
    (failingNames : Option (List String)) : Except Failure Coverage :=
  match outcomes, failingNames with
  | none, some (name :: names) => do
    r.coverage (← r.outcomesOfFailing (name :: names)) failing passing
  | none, _ => r.coverage [] failing passing
  | some outcomes, _ => r.coverage outcomes failing passing

end CoverageReport

end Mender
