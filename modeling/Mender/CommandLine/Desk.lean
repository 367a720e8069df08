import Mender.Dialogue.Service
import Mender.Files.Project
import Mender.Host.Command
import Mender.TestRun

/-!
# The desk of a call

What a call of the command line works with: the files, the directory it was called from, what runs
commands, a message service if there is one, and what has been printed.
-/

namespace Mender.CommandLine

/-- What runs commands: from files and the place they are seen from, the directory to run in, the
command, none when there is none to run, and a time limit in seconds, it makes the files afterwards
and tells how the run ended. -/
abbrev Commands :=
  FileTree → TreePlace → Path → Option String → Option Float → FileTree × Ending

/-- What a call works with. -/
structure Desk where
  tree : FileTree
  here : TreePlace
  commands : Commands
  /-- The answers that a message service still gives; none without a service. -/
  service : Option (List Service.Answer)
  /-- What the service was asked, the latest first. -/
  asked : List Service.Message := []
  usage : Service.Usage := {}
  /-- The lines printed, the latest first. -/
  printed : List String := []

namespace Desk

/-- Prints a line. -/
def print (line : String) : StateM Desk Unit :=
  modify fun d => { d with printed := line :: d.printed }

/-- All that was printed. -/
def output (d : Desk) : String :=
  String.join (d.printed.reverse.map (· ++ "\n"))

/-- A path as seen from the directory of the call. -/
def absolute (d : Desk) (path : Path) : Path :=
  Path.join ⟨"/", d.here⟩ path

/-- Reads a file of a project. -/
def read (files : ProjectFiles) : Reader (StateM Desk) := fun file =>
  return files.read (← get).tree file

/-- Writes a file of a project. -/
def write (files : ProjectFiles) : Writer (StateM Desk) := fun file text => do
  match files.write (← get).tree file text with
  | .ok tree =>
    modify fun d => { d with tree }
    return .ok ()
  | .error f => return .error f

/-- Runs a command in a directory, or nothing as a command. -/
def runCommand (directory : Path) (limit : Option Float) (command : Option String) :
    StateM Desk (Except Failure CommandResult) := do
  let d ← get
  let (tree, ending) := d.commands d.tree d.here directory command limit
  set { d with tree }
  return ending.result

/-- Runs the tests by a command. -/
def runTests (directory : Path) (limit : Option Float) (baseline : Option TestRun.Baseline)
    (command : String) : StateM Desk (Reply Outcome) := do
  match ← runCommand directory limit (some command) with
  | .error f => return .raised f
  | .ok r =>
    match TestRun.outcome baseline r with
    | .error f => return .raised f
    | .ok o => return .value o

/-- An answer of a service that has nothing left to say. -/
def silence : Service.Answer := ⟨[], 0, 0⟩

/-- Asks the service. -/
def ask (options : Service.Options) (r : Request) : StateM Desk (Reply String) := do
  let d ← get
  let answers := d.service.getD []
  let answer := answers.headD silence
  set { d with
    service := some answers.tail, asked := Service.messageOf options r :: d.asked
    usage := d.usage.add answer }
  return .value answer.text

end Desk

end Mender.CommandLine
