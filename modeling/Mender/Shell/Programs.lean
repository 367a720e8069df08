import Mender.Shell.Builtin
import Mender.Shell.Expansion
import Mender.Shell.Grammar
import Mender.Tool.Basic
import Mender.Tool.Calendar
import Mender.Tool.Characters
import Mender.Tool.Checksum
import Mender.Tool.Difference
import Mender.Tool.Dump
import Mender.Tool.Editing.Run
import Mender.Tool.Showing
import Mender.Tool.FileChanges
import Mender.Tool.Formula
import Mender.Tool.Ordered
import Mender.Tool.Pieces
import Mender.Tool.Saying
import Mender.Tool.Search
import Mender.Tool.Sorting
import Mender.Tool.System

/-!
# Programs and parts of a shell

Finds what the name of a command leads to, and runs what a shell runs apart from itself.
-/

namespace Mender.Shell

open Act

/-!
## All tools

The tools by name.
-/

/-- The tools by name. -/
def tools : List (Octets × Tool) :=
  [("true", fun _ _ => {}), ("false", fun _ _ => .ended 1),
   ("cat", Showing.cat), ("tac", tac), ("rev", rev), ("nl", Numbering.nl),
   ("head", Ends.head), ("tail", Ends.tail),
   ("wc", WordCount.wc), ("seq", Sequence.seq),
   ("tr", Mapping.tr), ("fold", Folding.fold),
   ("expand", Folding.expand), ("unexpand", Folding.unexpand),
   ("cut", Cutting.cut), ("paste", Pasting.paste), ("join", Joining.join),
   ("sort", Sorting.sort), ("uniq", Repeats.uniq), ("comm", Common.comm),
   ("mkdir", FileChanges.mkdir), ("touch", FileChanges.touch), ("rm", FileChanges.rm),
   ("rmdir", FileChanges.rmdir), ("cp", FileChanges.cp), ("mv", FileChanges.mv),
   ("chmod", FileChanges.chmod), ("tee", FileChanges.tee), ("truncate", FileChanges.truncate),
   ("ln", FileChanges.ln), ("unlink", FileChanges.unlink),
   ("mktemp", FileChanges.mktemp), ("ls", Listing.ls), ("dir", Listing.ls),
   ("basename", FileName.basename), ("dirname", FileName.dirname),
   ("realpath", FileName.realpath), ("readlink", FileName.readlink), ("pwd", FileName.pwd),
   ("stat", FileStatus.stat),
   ("grep", Searching.grep), ("egrep", Searching.egrep), ("fgrep", Searching.fgrep),
   ("diff", Difference.diff), ("cmp", Difference.cmp),
   ("sed", Editing.sed), ("expr", Formula.expr),
   ("echo", Saying.echo), ("printf", Saying.printf), ("test", Saying.test), ("[", Saying.bracket),
   ("uname", Facts.uname), ("arch", Facts.arch), ("whoami", Facts.whoami), ("id", Facts.id),
   ("nproc", Facts.nproc), ("hostname", Facts.hostname), ("logname", Facts.logname),
   ("sync", Facts.sync), ("users", fun _ _ => {}), ("who", fun _ _ => {}),
   ("groups", Facts.groups), ("tty", Facts.tty), ("printenv", Facts.printenv),
   ("factor", Facts.factor), ("od", Dump.od), ("cksum", Checksum.cksum),
   ("md5sum", Checksum.md5sum), ("sha1sum", Checksum.sha1sum), ("sha256sum", Checksum.sha256sum),
   ("base64", Checksum.base64),
   ("date", Calendar.date), ("split", Pieces.split), ("dd", Pieces.dd),
   ("tsort", Order.tsort), ("shuf", Order.shuf), ("install", FileChanges.install),
   ("chown", FileChanges.chown), ("chgrp", FileChanges.chgrp), ("sleep", sleep), ("yes", yes)]

/-!
## Programs

Finds the program that the name of a command leads to, and says what a program sees. Everything that
runs commands is defined from a `Runner`, which runs commands that are nested less deeply.
-/

/-- Where a command stands. -/
structure Standing where
  /-- Nothing follows it in its shell. -/
  isLast : Bool := false
  /-- Its status is looked at, so that a failure does not end the shell. -/
  tested : Bool := false

/-- A program that a name leads to. -/
inductive Program where
  | tool (name path : Octets)
  | file (place : TreePlace) (path : Octets)
  /-- There is something, but no program. -/
  | refused
  | missing
  deriving DecidableEq, Repr

/-- What runs commands. -/
structure Runner where
  evaluate : Standing → Command → Act Nat
  /-- Runs a program with the name that it is called by and its arguments. -/
  execute : Program → List Octets → Act Outcome

/-! ### Programs -/

/-- The names of the shell as a program. -/
def shellNames : List Octets :=
  ["sh", "dash", "bash"]

/-- The programs that run other programs. -/
def launcherNames : List Octets :=
  shellNames ++
    ["env", "xargs", "timeout", "find", "awk", "mawk", "which", "nohup", "nice", "setsid", "stdbuf"]

/-- The names of the programs of the system. -/
def systemPrograms : List String :=
  (launcherNames ++ tools.map (·.1)).map Octets.toText

/-- The program that a path leads to. -/
def programAt (p : Process) (path : Octets) : Program :=
  match p.toMachine.find p.here path with
  | .error _ => .missing
  | .ok (place, node) =>
    match node with
    | .file _ => .file place path
    | .program => .tool (Octets.ofText (place.getLast?.getD "")) path
    | _ => .refused

/-- The directories that programs are looked for in. -/
def searchPath (p : Process) : List Octets :=
  ((p.valueOf? "PATH").map fun s => (Text.splitText [':'] s.toList).map String.ofList).getD
    ["/usr/bin", "/bin"]

/-- The program of a name. -/
def findProgram (p : Process) (directories : List Octets) (name : Octets) : Program :=
  if name.toList.contains '/' then programAt p name
  else if name ∈ ["", ".", ".."] then .refused
  else
    directories.foldl
      (fun found d =>
        match found with
        | .tool _ _ => found
        | .file _ _ => found
        | other =>
          match programAt p (if d.isEmpty then name else d ++ "/" ++ name) with
          | .missing => other
          | found => found)
      .missing

/-- What a tool sees. -/
def sceneOf (p : Process) : Scene :=
  let input := Process.lookup 0 p.files
  { machine := p.toMachine, here := p.here
    input := (input.map p.toMachine.unread).getD []
    seekable := (input.map p.toMachine.isFile).getD false
    hasInput := input.isSome, environment := p.environment, umask := p.umask
    outputPlace := (Process.lookup 1 p.files).bind fun h =>
      match p.toMachine.handle? h with
      | some (.file place _ _) => some place
      | _ => none }

/-!
## Parts of a shell

Runs texts, what is to be done on signals, jobs, and parts of a shell: commands in parentheses, the
stages of pipelines, and commands whose output is substituted. A part starts with the state of its
shell and leaves nothing of its own but what all shells share.
-/

/-- A shell becomes a part of itself: what it does on signals is as usual again. -/
def becomePart (p : Process) : Process :=
  { p with isPart := true, traps := p.traps.filter (·.2.isEmpty), jobs := [], pending := []
           builtin := none }

/-- Acts on the signals that a shell has got. -/
def receiveSignals : Act Unit := do
  let p ← get
  if !p.isPart then
    let (own, others) := p.signals.partition (·.1 = p.number)
    if !own.isEmpty then
      machine fun m => { m with signals := others }
      for (_, signal) in own do receive signal

/-- Reads and runs a text line by line. The last command is the last one of the shell when `isLast`
is set. Returns the status of the last command. -/
def runText (run : Runner) (st : Standing) (text : Octets) : Act Nat := do
  let reader : Reader := { rest := text.toList, nextDocument := (← get).nextDocument }
  iterate
    (fun (state : Reader × Nat) => do
      let (r, status) := state
      match Command.read? { r with aliases := (← get).aliases, documents := [] } with
      | .error e =>
        modify fun p => { p with line := e.line }
        Act.fail e.message
      | .ok (none, _) => return .inr status
      | .ok (some c, r) =>
        modify fun p => { p with
          documents := r.documents ++ p.documents, nextDocument := r.nextDocument }
        let isLast : Bool := st.isLast && r.again && r.token == .endOfFile
        let status ← match c with
          | .nothing => pure status
          | c => run.evaluate { st with isLast } c
        if (← get).skip ≠ .none then return .inr status
        else return .inl (r, status))
    (return 0) (text.length + 2) (reader, 0)

/-- Does what is to be done on signals that have come. -/
def runTraps (run : Runner) : Act Unit := do
  for signal in (← get).pending do
    let p ← get
    if p.skip = .none then
      modify fun p => { p with pending := p.pending.erase signal }
      match Process.lookup signal p.traps with
      | some action =>
        let status := p.status
        let _ ← runText run {} action
        if (← get).skip ≠ .return_ then setStatus status
      | none => pure ()

/-- Ends a shell: what is to be done at its end is done. -/
def endShell (run : Runner) (ended : Except Leave Unit) : Act (Except Leave Unit) := do
  let inOrder : Bool := match ended with
    | .ok () | .error .failed | .error .exited => true
    | _ => false
  let p ← get
  match Process.lookup 0 p.traps with
  | some action =>
    if inOrder then
      modify fun p => { p with traps := Process.unassign 0 p.traps, skip := .none, builtin := none }
      let status := p.status
      match ← caught (runText run {} action) with
      | .ok _ => setStatus status; return .ok ()
      | .error .failed => return .ok ()
      | .error .exited => return .ok ()
      | .error e => return .error e
    else return ended
  | none => return ended

/-- The outcome of an ended shell. -/
def outcomeOf (p : Process) : Except Leave Unit → Act Outcome
  | .error (.killed n) => return .killed n
  | .error .late => throw .late
  | .error .endless => throw .endless
  | _ => return .status (p.status % 256)

/-! ### Jobs -/

/-- Runs a job that waits, and returns how it ended. Time does not pass for the shell. -/
def runJob (run : Runner) (setting : Setting) (body : Command) (start : Float) : Act JobState := do
  let before ← get
  set ({ before with toSetting := setting, clock := start, jobs := [] } : Process)
  let r ← caught (do let _ ← run.evaluate { isLast := true } body)
  let r ← endShell run r
  let p ← get
  set { before.after p with clock := before.clock }
  match r with
  | .error .late => return .late
  | .error .endless => return .late
  | .error (.killed n) => return .ended (.killed n) p.clock
  | _ => return .ended (.status (p.status % 256)) p.clock

/-- Runs a job if it waits. -/
def settleJob (run : Runner) (number : Nat) : Act Unit := do
  match (← get).jobState? number with
  | some (.waiting setting body start) =>
    let state ← runJob run setting body start
    modify fun p => p.setJob number state
  | _ => return

/-- Runs the jobs that end within some seconds. -/
def settleWithin (run : Runner) (seconds : Float) : Act Unit := do
  for (number, _) in (← get).jobs do
    let before ← get
    settleJob run number
    match (← get).jobState? number with
    | some (.ended _ clock) => if before.clock + seconds < clock then set before
    | some .late => set before
    | _ => pure ()

/-- The status of an outcome. A shell says when a program was killed. -/
def statusOf : Outcome → Act Nat
  | .status n => return n
  | .killed n => do
    let notice := Signal.noticeOf n
    if !notice.isEmpty then tell (notice ++ "\n")
    return 128 + n

/-- Waits for a job. -/
def waitFor (run : Runner) (number : Nat) : Act Nat := do
  settleJob run number
  modify fun p => p.changeJob number fun j => { j with waited := true }
  match (← get).jobState? number with
  | some (.ended outcome clock) =>
    modify fun p => p.setJob number (.noticed outcome clock)
    let now := (← get).clock
    if now < clock then pass (clock - now)
    statusOf outcome
  | some (.noticed outcome clock) =>
    let now := (← get).clock
    if now < clock then pass (clock - now)
    match outcome with
    | .status n => return n
    | .killed n => return 128 + n
  | some .late => throw .late
  | _ => return 127

/-- The shell notices the jobs that have ended. -/
def noticeJobs : Act Unit :=
  modify fun p => { p with jobs := p.jobs.map fun j =>
    match j.2.state with
    | .ended outcome clock =>
      if p.clock < clock then j else (j.1, { j.2 with state := .noticed outcome clock })
    | _ => j }

/-- The shell starts something that it waits for at once: the number of a job that is over may be
given away for it. -/
def takeSlot : Act Unit :=
  modify fun p => p.freeSlot.2

/-- Waits for jobs. -/
def waitCommand (run : Runner) : Builtin := fun args => do
  let (_, args) ← readOptions "" args
  if args.isEmpty then
    for (number, _) in (← get).jobs do settleJob run number
    modify fun p => { p with jobs := p.jobs.map fun j =>
      match j.2.state with
      | .ended outcome clock => (j.1, { j.2 with state := .noticed outcome clock })
      | _ => j }
    for (number, _) in (← get).jobs do let _ ← waitFor run number
    receiveSignals
    return 0
  else
    let mut status := 0
    for a in args do
      let number ← if a.startsWith "%" then jobNamed false a else numberOf a
      status ← waitFor run number
    receiveSignals
    return status

/-- The state of a job in words. -/
def stateText (now : Float) (j : Job) : Octets :=
  let told (outcome : Outcome) (clock : Float) : Octets :=
    if now < clock then "Running"
    else match outcome with
      | .status 0 => "Done"
      | .status n => s!"Done({n})"
      | .killed n => Signal.descriptionOf n
  match j.state with
  | .ended outcome clock => told outcome clock
  | .noticed outcome clock => told outcome clock
  | _ => "Running"

/-- The line that tells of a job. Newer jobs that have ended are forgotten by then. -/
def jobLine (p : Process) (withNumber : Bool) (number : Nat) (j : Job) : Octets :=
  let newer := p.jobs.reverse.takeWhile fun e => e.1 ≠ number
  let rank := newer.countP fun e => stateText p.clock e.2 = "Running"
  let mark := if rank = 0 then "+" else if rank = 1 then "-" else " "
  let head := s!"[{j.slot}] {mark} " ++ (if withNumber then s!"{number} " else "") ++
    stateText p.clock j
  let gap := String.ofList (List.replicate (max 1 (33 - head.length)) ' ')
  head ++ gap ++ String.join (List.replicate (j.size - 1) " | ") ++ "\n"

/-- Tells of jobs. What has ended is forgotten after that. -/
def jobsCommand (run : Runner) : Builtin := fun args => do
  let (options, args) ← readOptions "lp" args
  let started := (← get).clock
  if (← get).jobs.any fun j => match j.2.state with
      | .waiting _ _ start => start < started
      | _ => false then settleWithin run 0.0
  noticeJobs
  let numbers ← if args.isEmpty then pure ((← get).jobs.reverse.map (·.1))
    else args.mapM (jobNamed false)
  let p ← get
  let chosen := numbers.filterMap fun n => (Process.lookup n p.jobs).map fun j => (n, j)
  let lines := chosen.map fun (n, j) =>
    match options.getLast? with
    | some ('p', _) => s!"{n}\n"
    | some _ => jobLine p true n j
    | none => jobLine p false n j
  let gone := chosen.filter fun (_, j) => stateText p.clock j != "Running"
  if options.all (·.1 != 'p') then
    modify fun p => { p with jobs := p.jobs.filter fun j => gone.all (·.1 ≠ j.1) }
  printFor (String.join lines)

/-- Jobs that nobody waits for run to their end after a shell. -/
def settleAll (run : Runner) : Act Unit := do
  for (number, _) in (← get).jobs do settleJob run number

/-- Runs an action in a part of the shell, under a changed state. -/
def inPart (run : Runner) (change : Process → Process) (act : Act Unit) : Act Outcome := do
  let before ← get
  modify fun p => change (becomePart p)
  let r ← endShell run (← caught act)
  settleAll run
  let p ← get
  set (before.after p)
  let outcome ← outcomeOf p r
  noticeJobs
  receiveSignals
  return outcome

/-- What a command prints, when it is substituted. -/
def substituteBy (run : Runner) : Substitute := fun body => do
  match body with
  | .nothing => return ""
  | body =>
    takeSlot
    let (handle, m) := (← get).toMachine.opened (.pipe [] [])
    modify (·.withMachine m)
    let outcome ← inPart run
      (fun p => { p with files := Process.assign 1 handle p.files })
      (do let _ ← run.evaluate { isLast := true } body)
    let status ← statusOf outcome
    let text := String.ofList ((← get).toMachine.unread handle)
    modify fun p => { p.withMachine (p.toMachine.forget handle p.inUse) with substituted := status }
    return text

end Mender.Shell
