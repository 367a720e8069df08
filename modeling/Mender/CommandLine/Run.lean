import Mender.CommandLine.Desk
import Mender.CommandLine.Options
import Mender.Json.Reader
import Mender.Session.Report
import Mender.Spectrum.Report

/-!
# Calls of the command line

A call reads the output of a tool from a file or runs a command for it, repairs what the output
shows, prints a report for every fault and may write one for programs. It ends with status zero when
every fault was repaired, one when some were not, and two when it could not be carried out.
-/

namespace Mender.CommandLine

/-- How a call ends. -/
inductive Exit where
  | status (n : Nat)
  /-- The arguments could not be used. -/
  | misuse (m : Misuse)
  | failed (f : Failure)
  deriving Repr

/-- A path without double dots, which take back the component before them. -/
def withoutDots (parts : List String) : List String :=
  parts.foldl (fun kept part => if part = ".." then kept.dropLast else kept ++ [part]) []

/-- The root of the project as a path from the top. -/
def rootOf (d : Desk) (directory : String) : Path :=
  let path := d.absolute (.ofText directory)
  ⟨"/", withoutDots path.parts⟩

/-- A text that is there and not empty. -/
def given? (s : Option String) : Option String :=
  s.filter (!·.isEmpty)

/-- A value that may be missing, as data. -/
def orEmpty {α : Type} (f : α → Json) : Option α → Json
  | some a => f a
  | none => .array []

/-- The options of a repair that arguments ask for. -/
def configOf (a : Arguments) : Except Failure GivenConfig :=
  GivenConfig.build [("use_templates", .bool (!a.noTemplates)), ("use_llm", .bool (!a.noModel)),
    ("max_candidates", orEmpty .int a.maxCandidates),
    ("max_iterations", orEmpty .int a.maxIterations),
    ("validate_with_tests", .bool (given? a.testCommand).isSome),
    ("test_timeout", .number (a.testTimeout.getD 0.0)),
    ("fault_localization", .object [("metric", orEmpty .string a.metric)])]

/-- The options of the service that arguments ask for. -/
def serviceOptions (a : Arguments) : Service.Options :=
  match a.model with
  | none => {}
  | some model => { model := orEmpty .string model }

/-- A fault at a path as a failure. -/
def atPath {α : Type} (path : Path) (x : Except PathFault α) : Except Failure α :=
  ProjectFiles.failing path x

/-- Makes the file that logs go to, unless it is there. -/
def openLog (name : String) : StateM Desk (Except Failure Unit) := do
  let d ← get
  let path : Path := ⟨"/", withoutDots (d.absolute (.ofText name)).parts⟩
  match ProjectFiles.checkName name >>= fun _ => atPath path (d.tree.target d.here path) with
  | .error f => return .error f
  | .ok place =>
    if (d.tree.entry? place).isNone then
      set { d with tree := d.tree.put place (.file []) }
    return .ok ()

/-- The text of the output to repair when it is in a file; none when there is no such file. -/
def readOutput (path : Path) : StateM Desk (Except Failure (Option String)) := do
  let d ← get
  match ProjectFiles.checkName path.text >>= fun _ => atPath path (d.tree.read d.here path) with
  | .ok bs => return .ok (some (Utf8.withUnixLines (Utf8.decodeLossy bs)))
  | .error f =>
    let absent := f.kind = .notFound || f.kind = .notDirectory || f.kind = .value
    return if absent then .ok none else .error f

/-- The coverage that a report in a file describes. -/
def readCoverage (d : Desk) (name : String) (failingTests : List String) :
    Except Failure Coverage := do
  let path := Path.ofText (← ProjectFiles.checkName name)
  let bs ← atPath path (d.tree.read d.here path)
  let report : CoverageReport := ⟨← Json.read (Utf8.withUnixLines (← Utf8.decode bs))⟩
  report.load none 0 0 (some failingTests)

/-- What a call has settled before it repairs. -/
structure Job where
  arguments : Arguments
  config : GivenConfig
  root : Path
  host : Host (StateM Desk)
  /-- A message service can be asked. -/
  asks : Bool

/-- The collaborators of a call. -/
def hostOf (a : Arguments) (root : Path) (here : TreePlace) (asks : Bool)
    (baseline : Option TestRun.Baseline) : Host (StateM Desk) :=
  let files : ProjectFiles := ⟨root, here⟩
  { read? := some (Desk.read files)
    write? := some (Desk.write files)
    tests? := (given? a.testCommand).map (Desk.runTests root a.testTimeout baseline)
    model? := if asks then some (Desk.ask (serviceOptions a)) else none
    command? := some fun command => Desk.runCommand root a.testTimeout (some command)
    notify := fun _ => pure ()
    stopAsked := pure false
    forgetStop := pure ()
    clock := pure 0.0 }

/-- The failure of a command for which no time limit is known. -/
def untimed : Failure :=
  ⟨.wrongType, "unsupported operand type(s) for +: 'float' and 'list'"⟩

/-- Runs the tests once before anything is changed. -/
def takeBaseline (a : Arguments) (root : Path) :
    StateM Desk (Except Failure (Option TestRun.Baseline)) := do
  match given? a.testCommand, a.testTimeout with
  | none, _ => return .ok none
  | some _, none => return .error untimed
  | some command, limit =>
    return (← Desk.runCommand root limit (some command)).map fun r => some (TestRun.Baseline.of r)

/-- Prints that a call cannot be carried out. -/
def refuse (message : String) : StateM Desk Exit := do
  Desk.print s!"Error: {message}"
  return .status 2

/-- Writes the report for programs. -/
def writeReport (job : Job) (results : List RepairResult) (statistics : RepairStatistics)
    (name : String) : StateM Desk (Except Failure Unit) := do
  let d ← get
  let tokens := if job.asks then some (d.usage.input.toNat, d.usage.output.toNat) else none
  let text := (Report.ofRun results statistics tokens).render 0
  let path := Path.ofText name
  match ProjectFiles.checkName name >>= fun _ =>
      atPath path (d.tree.write d.here path (Utf8.encode text)) with
  | .error f => return .error f
  | .ok tree =>
    set { d with tree }
    Desk.print s!"Report saved to {name}"
    return .ok ()

/-- Prints what came of a repair. -/
def report (job : Job) (e : Engine) (results : List RepairResult) : StateM Desk Exit := do
  if results.isEmpty then
    Desk.print "No faults could be localized from the error output."
  for r in results do
    Desk.print (Report.ofResult r)
  let statistics := e.statistics
  Desk.print s!"Repaired {statistics.repaired}/{statistics.total} fault(s)"
  let status := Exit.status (if Report.allRepaired results then 0 else 1)
  match given? job.arguments.output with
  | none => return status
  | some name =>
    match ← writeReport job results statistics name with
    | .error f => return .failed f
    | .ok () => return status

/-- Repairs what an output shows. -/
def repairOutput (job : Job) (output : String) : StateM Desk Exit := do
  if Text.isBlankText output then
    Desk.print "No diagnostics to repair."
    return .status 0
  else
    let d ← get
    let prepared := do
      let coverage ← (given? job.arguments.coverage).mapM fun name => do
        let some tests := job.arguments.failingTests.mapM id
          | .error ⟨.wrongType, "unhashable type: 'list'"⟩
        readCoverage d name tests
      let _ ← job.config.snapshot
      return (coverage, ← job.config.config)
    match prepared with
    | .error f => return .failed f
    | .ok (coverage, config) =>
      let engine := Engine.create config none none
      match ← engine.repair job.host output job.arguments.hint coverage with
      | (_, .error f) => return .failed f
      | (engine, .ok results) => report job engine results

/-- What a command prints, or nothing run as a command. -/
def Job.collect (job : Job) : Option String → StateM Desk (Except Failure String)
  | some command => Engine.collect job.host command
  | none => return (← Desk.runCommand job.root job.arguments.testTimeout none).map (·.text)

/-- The output to repair: the content of a file or what a command prints. -/
def outputOf (job : Job) : StateM Desk (Except Exit String) := do
  match given? job.arguments.errorFile, job.arguments.command with
  | some name, _ =>
    let path := Path.ofText name
    match ← readOutput path with
    | .error f => return .error (.failed f)
    | .ok none => return .error (← refuse s!"--error-file does not exist: {path.text}")
    | .ok (some text) => return .ok text
  | none, some command? =>
    if job.arguments.testTimeout.isNone then return .error (.failed untimed)
    else
      match ← job.collect command? with
      | .error f => return .error (.failed f)
      | .ok text => return .ok text
  | none, none => return .error (.failed ⟨.wrongType, "'NoneType' object is not iterable"⟩)

/-- Carries out a call in a project whose root is a directory. -/
def runIn (a : Arguments) (root : Path) : StateM Desk Exit := do
  match configOf a with
  | .error f => if f.kind = .value then refuse f.message else return .failed f
  | .ok config =>
    match ← takeBaseline a root with
    | .error f => return .failed f
    | .ok baseline =>
      let d ← get
      let asks := !a.noModel && d.service.isSome
      let job : Job := ⟨a, config, root, hostOf a root d.here asks baseline, asks⟩
      match ← outputOf job with
      | .error ended => return ended
      | .ok output => repairOutput job output

/-- The root of the project that arguments name. -/
def projectRoot (d : Desk) (a : Arguments) : Except Failure Path :=
  match a.directory with
  | none => .error ⟨.wrongType, "expected str, bytes or os.PathLike object, not list"⟩
  | some name => return rootOf d (← ProjectFiles.checkName name)

/-- Carries out a call with given arguments. -/
def runWith (a : Arguments) : StateM Desk Exit := do
  let opened ← match given? a.logFile with
    | none => pure (.ok ())
    | some name => openLog name
  let d ← get
  match opened, projectRoot d a with
  | .error f, _ | .ok (), .error f => return .failed f
  | .ok (), .ok root =>
    if d.tree.isDirectory d.here root then runIn a root
    else refuse s!"--cwd is not a directory: {root.text}"

/-- Carries out a call. -/
def run (arguments : List String) : StateM Desk Exit := do
  match read arguments with
  | .error m => return .misuse m
  | .ok .help => do
    Desk.print help
    return .status 0
  | .ok (.call a) => runWith a

end Mender.CommandLine
