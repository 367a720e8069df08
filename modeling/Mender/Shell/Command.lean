import Mender.Host.Command
import Mender.Shell.Evaluation

/-!
# Running a command line

A command line is run in a directory of a file tree, for as long as it may take. `Shell.commands`
stands in for the shell of a system, so that a program has something to run commands on a tree.
-/

namespace Mender.Shell

/-- How deep commands may be nested when they run. -/
def maxDepth : Nat := 4000

/-- The variables that a shell is started with. -/
def initialVariables : List (Octets × Variable) :=
  [("PATH", ⟨some "/usr/local/bin:/usr/local/sbin:/usr/sbin:/usr/bin:/sbin:/bin", true, false⟩),
    ("HOME", ⟨some "/root", true, false⟩)]

/-- The handles of the outputs. -/
def outputHandles : List (Nat × Handle) :=
  [(0, .device .sink), (1, .pipe [] []), (2, .pipe [] [])]

/-- A shell that has not started. -/
def initialProcess (tree : FileTree) (here : TreePlace) (limit : Option Float) : Process :=
  let machine : Machine :=
    { tree, programs := systemPrograms, handles := outputHandles, limit, nextProcess := 1000 }
  let process : Process :=
    { toMachine := machine, here, view := "", bindings := initialVariables
      files := [(0, 0), (1, 1), (2, 2)] }
  freshShell process "/bin/sh"

/-- Runs a command line as the whole work of a shell, and the jobs that it leaves. -/
def runWhole (command : Octets) : Act Unit := do
  let run := runnerOf maxDepth
  let r ← Act.caught (do Act.setStatus (← runText run {} command))
  let r ← endShell run r
  settleAll run
  let isLate : JobState → Bool
    | .late => true
    | _ => false
  if (← get).jobs.any fun j => isLate j.2.state then throw .late
  match r with
  | .ok () => return
  | .error e => throw e

/-- What a shell printed to an output. -/
def printedTo (p : Process) (handle : Nat) : Utf8.Bytes :=
  Octets.toBytes (String.ofList (p.toMachine.unread handle))

/-- The end of a shell by itself, or by a signal. -/
def endedWith (p : Process) (status : Int) : Ending :=
  .exited status (printedTo p 1) (printedTo p 2)

/-- How a shell ended. -/
def endingOf (p : Process) : Except Leave Unit → Ending
  | .error .late | .error .endless => .stopped (printedTo p 1)
  | .error (.killed n) => endedWith p (-n)
  | _ => endedWith p (p.status % 256 : Nat)

/-- What a shell says that is to run a command and is given none. -/
def withoutCommand : Ending :=
  .exited 2 [] (Utf8.encode "/bin/sh: 0: -c requires an argument\n")

/-- The most milliseconds that a wait may take. -/
def longestWait : Int := 2147483647

/-- Milliseconds from here on cannot be counted in nanoseconds. -/
def countableWait : Int := 9223372036854

/-- A time limit has to be a time that can be waited for. -/
def checkLimit (seconds : Float) : Except Failure Unit :=
  if seconds ≤ 0.0 then .ok ()
  else do
    let whole ← liftNumber (Arithmetic.floor (seconds * 1000.0))
    if countableWait < whole then
      .error ⟨.overflow, "timestamp too large to convert to C _PyTime_t"⟩
    else if longestWait < whole then .error ⟨.overflow, "timeout is too large"⟩
    else .ok ()

/-- Runs a command in a directory; also returns the files afterwards. -/
def runIn (tree : FileTree) (here : TreePlace) (command : Option String) (limit : Option Float) :
    FileTree × Ending :=
  match command with
  | none => (tree, withoutCommand)
  | some command =>
    if command.toList.contains '\x00' then (tree, .failed ⟨.value, "embedded null byte"⟩)
    else
      match (limit.mapM checkLimit : Except Failure (Option Unit)) with
      | .error f => (tree, .failed f)
      | .ok _ =>
        if limit.any (· ≤ 0.0) then (tree, .stopped [])
        else
          let (ended, p) := (runWhole (Octets.ofText command)).run (initialProcess tree here limit)
          (p.tree, endingOf p ended)

/-- Runs a command in the directory of a path. -/
def commands (tree : FileTree) (here : TreePlace) (directory : Path) (command : Option String)
    (limit : Option Float) : FileTree × Ending :=
  match tree.resolve here directory with
  | .error f => (tree, .failed (f.failure directory))
  | .ok place =>
    match ({ tree } : Machine).node? place with
    | some .directory => runIn tree place command limit
    | some _ => (tree, .failed (PathFault.failure .notDirectory directory))
    | none => (tree, .failed (PathFault.failure .notFound directory))

end Mender.Shell
