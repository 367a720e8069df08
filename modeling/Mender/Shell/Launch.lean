import Mender.Shell.Programs
import Mender.Tool.Basic
import Mender.Tool.Finding
import Mender.Tool.Records.Run

/-!
# Running programs

Runs what the name of a command leads to: a tool, a script, or a program that runs other programs.
-/

namespace Mender.Shell

open Act

/-!
## Running tools, scripts and shells

Takes over what a tool did, and runs scripts and new shells.
-/

/-- A line in which a tool names itself, with the name that it was called by. -/
def asCalled (tool called line : Octets) : Octets :=
  let renamed (before after : Octets) : Option Octets :=
    if line.startsWith (before ++ tool ++ after) then
      some (before ++ called ++ String.ofList (line.toList.drop (before.length + tool.length)))
    else none
  let hint := if tool = "grep" then none
    else (renamed "Try '" " ").orElse fun _ => renamed "Usage: " " "
  ((renamed "" ": ").orElse fun _ => hint).getD line

/-- What a tool did when it was called by a name; a path stands in all its complaints. -/
def calledAs (r : Ran) (tool called : Octets) : Ran :=
  if called.toList.contains '/' && tool != "rev" then
    { r with printed := r.printed.map fun (descriptor, s) =>
        if descriptor = 2 then (2, Text.joined "\n" ((s.splitOn "\n").map (asCalled tool called)))
        else (descriptor, s) }
  else r

/-- The status and the complaint of a tool whose output takes nothing. -/
def unwritten (tool called reason : Octets) : Nat × Octets :=
  let status := if ["ls", "dir", "grep", "sort", "diff", "printenv"].contains tool then 2
    else if tool = "expr" then 3
    else if tool = "sed" then 4
    else 1
  let what := if tool = "sed" then "couldn't flush stdout"
    else if tool = "tee" then "'standard output'"
    else if tool = "diff" || tool = "yes" then "standard output"
    else "write error"
  (status, s!"{called}: {what}: {reason}\n")

/-- Takes over what a tool did. -/
def takeRan (run : Runner) (r : Ran) : Act Outcome := do
  match r.tree with
  | some tree => machine fun m => { m with tree }
  | none => pure ()
  match r.unread with
  | some cs => leaveUnread cs
  | none => pure ()
  let mut written : Bool := true
  for (descriptor, s) in r.printed do
    let done ← write descriptor s
    if !done && descriptor = 1 then written := false
  if 0.0 < r.seconds then
    settleWithin run r.seconds
    pass r.seconds
  if r.endless && written then throw .endless
  return .status r.status

/-- Runs a tool by a name that it is called by. -/
def executeTool (run : Runner) (name : Octets) (tool : Tool) (args : List Octets) :
    Act Outcome := do
  let called := args.headD name
  let p ← get
  let r := calledAs (tool args.tail (sceneOf p)) name called
  let outcome ← takeRan run r
  let open_ := Process.lookup 1 p.files
  let fault := match open_ with
    | some h => if p.toMachine.isFull h then some "No space left on device" else none
    | none => some "Bad file descriptor"
  match fault with
  | some reason =>
    if r.printed.any fun (descriptor, s) => descriptor = 1 && !s.isEmpty then
      let (status, complaint) := unwritten name called reason
      tell complaint
      return .status (max status r.status)
    else return outcome
  | none => return outcome

/-- How a new shell is called. -/
structure ShellCall where
  options : List Char := []
  /-- The command line to be run. -/
  command : Option Octets := none
  operands : List Octets := []

/-- Reads the arguments of a shell. -/
def readShellCall : Nat → ShellCall → List Octets → Except Octets ShellCall
  | _, call, [] => .ok call
  | skip + 1, call, _ :: rest => readShellCall skip call rest
  | 0, call, a :: rest =>
    let letters (on : Bool) (cs : List Char) : Except Octets ShellCall := do
      let named := cs.contains 'o'
      let call ← cs.foldlM
        (fun (call : ShellCall) c =>
          if c = 'c' then .ok { call with command := some "" }
          else
            let option := if c = 'o' then Process.lookup (rest.headD "") optionNames else some c
            match option with
            | some o =>
              if c = 'l' then .ok call
              else if !(optionNames.map (·.2)).contains o then .error s!"Illegal option -{c}"
              else
                let others := call.options.filter (· != o)
                .ok { call with options := if on then o :: others else others }
            | none => .error ("Illegal option -o " ++ rest.headD ""))
        call
      readShellCall (if named then 1 else 0) call rest
    match a.toList with
    | ['-'] => .ok { call with operands := rest }
    | ['-', '-'] => .ok { call with operands := rest }
    | '-' :: cs => letters true cs
    | '+' :: cs => letters false cs
    | _ => .ok { call with operands := a :: rest }

/-- The path of a shell that starts: the one that it is told, when that leads where it is. -/
def viewOf (p : Process) : Octets :=
  match Process.lookup "PWD" p.bindings with
  | some { value := some told, exported := true, .. } =>
    if told.startsWith "/" && (p.toMachine.locate p.here told).toOption = some p.here then told
    else p.directory
  | _ => p.directory

/-- A new shell with the variables that were exported. -/
def freshShell (p : Process) (name : Octets) : Process :=
  let exported := p.bindings.filter fun v => v.2.exported && v.2.value.isSome
  let usual : List (Octets × Variable) :=
    [("PATH", { value := some "/usr/local/sbin:/usr/local/bin:/usr/sbin:/usr/bin:/sbin:/bin" }),
      ("IFS", { value := some " \t\n" }), ("OPTIND", { value := some "1" }),
      ("PS1", { value := some "# " }), ("PS2", { value := some "> " }),
      ("PS4", { value := some "+ " }), ("PPID", { value := some (toString p.number) })]
  let bindings := exported.foldl
    (fun vs (name, v) => Process.assign name { v with fixed := false } vs) usual
  let bindings := Process.assign "PWD" { value := some (viewOf p), exported := true } bindings
  { toMachine := { p.toMachine with nextProcess := p.nextProcess + 1 }
    here := p.here, view := viewOf p, name, files := p.files, umask := p.umask, bindings
    number := p.nextProcess, traps := p.traps.filter (·.2.isEmpty) }

/-- Runs a new shell on a text. -/
def runShell (run : Runner) (name : Octets) (options : List Char) (parameters : List Octets)
    (text : Act Octets) : Act Outcome := do
  let before ← get
  modify fun p => { freshShell p name with options, parameters }
  let r ← caught (do
    let status ← runText run {} (← text)
    setStatus status)
  let r ← endShell run r
  settleAll run
  let p ← get
  set (before.after p)
  let outcome ← outcomeOf p r
  receiveSignals
  return outcome

/-- Complains in the name of a shell that has not started. -/
def refuseShell (name message : Octets) : Act Outcome := do
  tell s!"{name}: 0: {message}\n"
  return .status 2

/-- Runs the shell as a program. -/
def executeShell (run : Runner) (name : Octets) (args : List Octets) : Act Outcome := do
  match readShellCall 0 {} args with
  | .error message => refuseShell name message
  | .ok call =>
    match call.command, call.operands with
    | some _, [] => refuseShell name "-c requires an argument"
    | some _, text :: rest =>
      runShell run (rest.headD name) call.options rest.tail (return text)
    | none, file :: rest =>
      if call.options.contains 's' then
        runShell run name call.options (file :: rest) fromInput
      else
        let p ← get
        match p.toMachine.content p.here file with
        | .ok text => runShell run file call.options rest (return text)
        | .error f => refuseShell name s!"cannot open {file}: {openFault false f}"
    | none, [] => runShell run name ('s' :: call.options) [] fromInput
where
  /-- The input as a text. -/
  fromInput : Act Octets := do
    let cs ← unread
    leaveUnread []
    return String.ofList cs

/-- The interpreter and its argument that the first line of a script names. -/
def interpreterOf? (text : Octets) : Option (Octets × Option Octets) :=
  match text.toList with
  | '#' :: '!' :: cs =>
    let line := (cs.takeWhile (· != '\n')).dropWhile fun c => c == ' ' || c == '\t'
    let name := line.takeWhile fun c => c != ' ' && c != '\t'
    let rest := (line.drop name.length).dropWhile fun c => c == ' ' || c == '\t'
    let argument := (rest.reverse.dropWhile fun c => c == ' ' || c == '\t').reverse
    some (String.ofList name,
      if argument.isEmpty then none else some (String.ofList argument))
  | _ => none

/-- A program cannot be run. -/
def refuseProgram (status : Nat) (name message : Octets) : Act Outcome := do
  warn s!"{name}: {message}"
  return .status status

/-- Runs a file as a script. -/
def executeFile (run : Runner) (place : TreePlace) (path : Octets) (args : List Octets) :
    Act Outcome := do
  let p ← get
  let name := args.headD ""
  match p.toMachine.node? place with
  | some (.file content) =>
    if !p.toMachine.isExecutable place then refuseProgram 126 name "Permission denied"
    else
      let text := Octets.ofBytes content
      match interpreterOf? text with
      | none => runShell run path [] args.tail (return text)
      | some (interpreter, argument) =>
        match programAt p interpreter with
        | .missing => refuseProgram 127 name "not found"
        | .refused => refuseProgram 126 name "Permission denied"
        | found => run.execute found (interpreter :: argument.toList ++ path :: args.tail)
  | _ => refuseProgram 126 name "Permission denied"

/-- Runs a program by its name for another program; `status` is returned when there is none. -/
def executeNamed (run : Runner) (args : List Octets) (missing : Octets → Octets) : Act Outcome := do
  let p ← get
  let name := args.headD ""
  match findProgram p (searchPath p) name with
  | .missing =>
    tell (missing "No such file or directory")
    return .status 127
  | .refused =>
    tell (missing "Permission denied")
    return .status 126
  | .file place path =>
    if p.toMachine.isExecutable place then run.execute (.file place path) args
    else
      tell (missing "Permission denied")
      return .status 126
  | found => run.execute found args

/-!
## Programs over records as programs of the system

Reads how a program over records is called, and runs the command lines that it asks for.
-/

/-- How a program over records is called. -/
structure RecordCall where
  /-- What separates fields. -/
  separator : Option Octets := none
  assignments : List (Octets × Octets) := []
  /-- The files that hold the program. -/
  files : List Octets := []
  operands : List Octets := []

/-- Reads the arguments of a call. -/
def readRecordCall : Nat → RecordCall → List Octets → Except Octets RecordCall
  | 0, call, args => .ok { call with operands := args }
  | _, call, [] => .ok call
  | fuel + 1, call, a :: rest =>
    let valued (letter : Char) (given : List Char)
        (use : Octets → Except Octets RecordCall) (rest : List Octets) : Except Octets RecordCall :=
      if !given.isEmpty then do readRecordCall fuel (← use (String.ofList given)) rest
      else
        match rest with
        | v :: rest => do readRecordCall fuel (← use v) rest
        | [] => .error s!"option -{letter} lacks argument"
    match a.toList with
    | ['-', '-'] => .ok { call with operands := rest }
    | '-' :: 'F' :: given =>
      valued 'F' given (fun v => .ok { call with separator := some v }) rest
    | '-' :: 'f' :: given =>
      valued 'f' given (fun v => .ok { call with files := call.files ++ [v] }) rest
    | '-' :: 'v' :: given =>
      valued 'v' given
        (fun v =>
          match Records.Eval.assignment? v with
          | some x => .ok { call with assignments := call.assignments ++ [x] }
          | none => .error s!"improper assignment: -v {v}")
        rest
    | ['-'] => .ok { call with operands := a :: rest }
    | '-' :: _ => .error s!"not an option: {a}"
    | _ => .ok { call with operands := a :: rest }

/-- The name by which command lines are run. -/
def commandShell : Octets := "/bin/sh"

/-- Runs a command line, perhaps on an input; returns how it ended. -/
def runLine (run : Runner) (line : Octets) (input : Option Octets) : Act Outcome := do
  let before ← get
  match input with
  | some text =>
    let (handle, m) := before.toMachine.opened (.pipe text.toList [])
    modify fun p => { p.withMachine m with files := Process.assign 0 handle p.files }
  | none => pure ()
  let outcome ← runShell run commandShell [] [] (return line)
  modify fun p => { p with files := before.files }
  return outcome

/-- The number that a program gets for an outcome. -/
def outcomeNumber : Outcome → Nat
  | .status n => n
  | .killed n => 256 + n

/-- The commands that a program over records may run. -/
def recordCommands (run : Runner) : Records.Commands where
  run line input := do return outcomeNumber (← runLine run line input)
  capture line := do
    let before ← get
    let (handle, m) := before.toMachine.opened (.pipe [] [])
    modify fun p => { p.withMachine m with files := Process.assign 1 handle p.files }
    let outcome ← runLine run line none
    let text := String.ofList ((← get).toMachine.unread handle)
    modify fun p => { p with files := before.files }
    return (text, outcomeNumber outcome)

/-- The text of a program and the arguments that are left for it. -/
def recordProgram (p : Process) (call : RecordCall) :
    Except Octets (Option (Octets × List Octets)) := do
  match call.files, call.operands with
  | [], [] => return none
  | [], text :: operands => return some (text, operands)
  | files, operands =>
    let texts ← files.mapM fun name =>
      if Scene.isInput name then Except.ok (String.ofList (sceneOf p).input)
      else
        match p.toMachine.content p.here name with
        | .ok text => .ok text
        | .error f => .error s!"cannot open \"{name}\" ({f.text})"
    return some (Text.joined "\n" texts, operands)

/-- How a program over records is called, in words. -/
def recordUsage : Octets :=
  "Usage: mawk [Options] [Program] [file ...]\n"

/-- Runs a program over records. -/
def executeRecords (run : Runner) (name : Octets) (args : List Octets) : Act Outcome := do
  let complain (message : Octets) : Act Outcome := do
    tell s!"{name}: {message}\n"
    return .status 2
  match readRecordCall (args.length + 1) {} args with
  | .error message => complain message
  | .ok call =>
    let p ← get
    match recordProgram p call with
    | .error message => complain message
    | .ok none =>
      tell recordUsage
      return .status 2
    | .ok (some (text, operands)) =>
      match Records.Program.read text with
      | .error f =>
        tell (Octets.lines (f.texts.map fun s => s!"{name}: {s}"))
        return .status 2
      | .ok program =>
        let set (e : Records.Engine) (n v : Octets) : Records.Engine :=
          { e with bindings := e.bindings.insert n (.given (Records.Eval.unescaped v)) }
        let e := Records.Engine.initial name operands p.environment
        let e := call.assignments.foldl (fun e (n, v) => set e n v) e
        let e := match call.separator with
          | some s => set e "FS" s
          | none => e
        return .status (← Records.runProgram (recordCommands run) program e)

/-!
## Searches

Visits what is below some places and does what a condition asks for with each file. Directories are
visited in the order of their names.
-/

section

open Finding

/-- How far a search has come. -/
structure Visit where
  status : Nat := 0
  /-- The directory that was just looked at is not entered. -/
  pruned : Bool := false
  /-- The search is over. -/
  stopped : Bool := false
  /-- Files that commands are still to be run on, by the number of the action, in reverse. -/
  pending : List (Nat × List Octets) := []

/-- A step of a search. -/
abbrev Visiting := StateT Visit Act

namespace Visiting

/-- Says that something cannot be done. -/
def complain (message : Octets) : Visiting Unit := do
  tell s!"find: {message}\n"
  modify fun v => { v with status := 1 }

/-- Runs a command; tells whether it succeeded. -/
def runCommand (run : Runner) (command : List Octets) : Visiting Bool := do
  let name := command.headD ""
  let outcome ← executeNamed run command fun reason => s!"find: {Naming.quoted name}: {reason}\n"
  return outcome == .status 0

/-- Runs a command in a directory. -/
def runThere (run : Runner) (there : TreePlace) (command : List Octets) : Visiting Bool := do
  let here := (← (get : Act Process)).here
  (modify fun p => { p with here := there } : Act Unit)
  let result ← runCommand run command
  (modify fun p => { p with here } : Act Unit)
  return result

/-- Removes a file. -/
def delete (e : Entry) : Visiting Bool := do
  let p ← (get : Act Process)
  if e.path = "." then return true
  else if e.node = .directory && !(p.toMachine.names e.place).isEmpty then
    complain s!"cannot delete {Naming.quoted e.path}: Directory not empty"
    return false
  else
    machine fun m => { m with tree := m.tree.remove e.place }
    return true

/-- Does what an action asks for. -/
def perform (run : Runner) (e : Entry) : Action → Visiting Bool
  | .print stop => do
    let _ ← write 1 (e.path ++ stop)
    return true
  | .printBy format => do
    let m := (← (get : Act Process)).toMachine
    let _ ← write 1 (String.ofList (formatted m e (format.length + 1) format.toList))
    return true
  | .delete => delete e
  | .prune => do
    modify fun v => { v with pruned := true }
    return true
  | .quit => do
    modify fun v => { v with stopped := true }
    return true
  | .execute command there => do
    if there then
      let name := "./" ++ e.base
      runThere run e.place.dropLast (command.map (Text.replaced "{}" name))
    else runCommand run (command.map (Text.replaced "{}" e.path))
  | .executeAll _ number => do
    modify fun v =>
      let paths := (Process.lookup number v.pending).getD []
      { v with pending := Process.assign number (e.path :: paths) v.pending }
    return true

/-- Evaluates a condition on a file. -/
def evaluate (run : Runner) (e : Entry) : Condition → Visiting Bool
  | .test t => do
    let m := (← (get : Act Process)).toMachine
    return t.holds m e
  | .act a => perform run e a
  | .not c => do
    return !(← evaluate run e c)
  | .and c d => do
    if ← evaluate run e c then
      if (← get).stopped then return true else evaluate run e d
    else return false
  | .or c d => do
    if ← evaluate run e c then return true
    else if (← get).stopped then return true
    else evaluate run e d
  | .both c d => do
    let _ ← evaluate run e c
    if (← get).stopped then return true else evaluate run e d

/-- Visits a file and, with `depth` levels left, what is below it. -/
def visit (run : Runner) (plan : Plan) : Nat → Entry → Visiting Unit
  | 0, _ => return
  | depth + 1, e => do
    let look : Visiting Unit := do
      if plan.least ≤ e.depth && !(← get).stopped then
        let _ ← evaluate run e plan.condition
    modify fun v => { v with pruned := false }
    if !plan.deepFirst then look
    let pruned := (← get).pruned
    if e.node = .directory && !pruned && plan.most.all (e.depth < ·) then
      let p ← (get : Act Process)
      for name in p.toMachine.names e.place do
        if !(← get).stopped then
          let p ← (get : Act Process)
          let place := e.place ++ [Octets.toText name]
          match p.toMachine.node? place with
          | some node =>
            visit run plan depth
              { e with path := FileName.join e.path name, place, node, depth := e.depth + 1 }
          | none => pure ()
    if plan.deepFirst then look

/-- Runs the commands that are left. -/
def finish (run : Runner) (plan : Plan) : Visiting Unit := do
  for a in plan.condition.actions do
    match a with
    | .executeAll command number =>
      match Process.lookup number (← get).pending with
      | some paths =>
        if !(← runCommand run (command ++ paths.reverse)) then
          modify fun v => { v with status := 1 }
      | none => pure ()
    | _ => pure ()

/-- Searches from all places. -/
def all (run : Runner) (plan : Plan) : Visiting Unit := do
  for start in plan.starts do
    if !(← get).stopped then
      let p ← (get : Act Process)
      match p.toMachine.findItself p.here start with
      | .ok (place, node) =>
        let depth := p.tree.entries.length + 2
        visit run plan depth { path := start, start, place, node, depth := 0 }
      | .error f => complain s!"{Naming.quoted start}: {f.text}"
  finish run plan

end Visiting

/-- Searches for files. -/
def executeFind (run : Runner) (args : List Octets) : Act Outcome := do
  match Finding.read (sceneOf (← get)) args with
  | .error f =>
    tell (f.text ++ "\n")
    return .status 1
  | .ok plan =>
    let (_, v) ← (Visiting.all run plan).run {}
    return .status v.status

end

/-!
## Programs around others

Programs that run another one with other variables or for a limited time.
-/

/-- The options of the program that changes variables. -/
def environmentTable : OptionTable :=
  { flags := "i0v", valued := "uCS", inOrder := true
    long := [⟨"ignore-environment", 'i', .never⟩, ⟨"null", '0', .never⟩, ⟨"debug", 'v', .never⟩,
      ⟨"unset", 'u', .always⟩, ⟨"chdir", 'C', .always⟩, ⟨"split-string", 'S', .always⟩] }

/-- The variables that are given in front of a command, and the command. -/
def splitGiven (operands : List Octets) : List Octets × List Octets :=
  operands.span fun a => a.toList.contains '='

/-- Prints the variables, or runs a command with them. -/
def executeUnder (run : Runner) (null : Bool) : List Octets → Act Outcome
  | [] => do
    let stop := if null then "\x00" else "\n"
    let _ ← write 1 (String.join ((← get).environment.map fun (n, v) => s!"{n}={v}" ++ stop))
    return .status 0
  | command => do
    let name := command.headD ""
    executeNamed run command fun reason => s!"env: '{name}': {reason}\n" ++
      if name.toList.contains ' ' then "env: use -[v]S to pass options in shebang lines\n" else ""

/-- Runs a program under changed variables. -/
def executeEnv (run : Runner) (args : List Octets) : Act Outcome := do
  let refuse (message : Octets) : Act Outcome := takeRan run (.complaint 125 s!"env: {message}")
  let usage : Octets := "\nTry 'env --help' for more information."
  match environmentTable.read args with
  | .error m => takeRan run (m.run "env" 125)
  | .ok call =>
    let split := (call.values 'S').flatMap fun s => (s.splitOn " ").filter (· != "")
    let operands := split ++ call.operands
    let clear := call.has 'i' || operands.head? = some "-"
    let (given, command) :=
      splitGiven (if operands.head? = some "-" then operands.tail else operands)
    let before ← get
    if call.has '0' && !command.isEmpty then
      refuse ("cannot specify --null (-0) with command" ++ usage)
    else if call.has 'C' && command.isEmpty then
      refuse ("must specify command with --chdir (-C)" ++ usage)
    else
      modify fun p =>
        { p with bindings := p.bindings.filterMap fun (n, v) =>
            if (call.values 'u').contains n then none
            else some (n, { v with exported := v.exported && !clear }) }
      for a in given do
        let (name, value) := splitAssignment a
        let v : Variable := { value := value, exported := true }
        modify fun p => { p with bindings := Process.assign name v p.bindings }
      let there := (call.value? 'C').map fun d => (d, before.toMachine.find before.here d)
      let outcome ← match there with
        | none => executeUnder run (call.has '0') command
        | some (_, .ok (place, .directory)) => do
          modify fun p => { p with here := place }
          executeUnder run (call.has '0') command
        | some (d, .ok _) =>
          refuse s!"cannot change directory to {Naming.quoted d}: Not a directory"
        | some (d, .error fault) =>
          refuse s!"cannot change directory to {Naming.quoted d}: {fault.text}"
      modify fun p => before.after p
      return outcome

/-- Runs a program for some time at most. -/
def executeTimeout (run : Runner) (args : List Octets) : Act Outcome := do
  let table : OptionTable :=
    { flags := "fv", valued := "ks", inOrder := true
      long := [⟨"signal", 's', .always⟩, ⟨"kill-after", 'k', .always⟩,
        ⟨"preserve-status", 'p', .never⟩, ⟨"foreground", 'f', .never⟩] }
  match table.read args with
  | .error m => takeRan run (m.run "timeout" 125)
  | .ok call =>
    match call.operands with
    | duration :: command =>
      match Duration.read? duration with
      | none => takeRan run (.complaint 125
          (s!"timeout: invalid time interval '{duration}'\n" ++
            "Try 'timeout --help' for more information."))
      | some seconds =>
        let before ← get
        let signal := (call.value? 's').bind Signal.ofText? |>.getD Signal.terminate
        let stop := before.clock + seconds
        let inner : Option Float := if seconds == 0.0 then before.limit
          else match before.limit with
            | some l => some (if l < stop then l else stop)
            | none => some stop
        machine fun m => { m with limit := inner }
        let name := command.headD ""
        let r ← caught (executeNamed run command fun reason =>
          s!"timeout: failed to run command '{name}': {reason}\n")
        machine fun m => { m with limit := before.limit }
        let isOwn : Bool := seconds != 0.0 && (before.limit.elim true fun l => stop < l)
        match r with
        | .ok outcome => return outcome
        | .error .late =>
          if isOwn then ended before stop call signal else throw .late
        | .error .endless =>
          if isOwn then ended before stop call signal else throw .endless
        | .error e => throw e
    | [] => takeRan run (.complaint 125 "Try 'timeout --help' for more information.")
where
  /-- The program was stopped. -/
  ended (before : Process) (stop : Float) (call : Call) (signal : Nat) : Act Outcome := do
    modify fun p => { before.after p with clock := stop, limit := before.limit }
    if signal = 9 then return if call.has 'f' then .status 137 else .killed 9
    else return .status (if call.has 'p' then 128 + signal else 124)

/-- The options of a program that runs another one in some way. -/
def throughTable (name : Octets) : OptionTable :=
  if name = "nice" then
    { valued := "n", long := [⟨"adjustment", 'n', .always⟩], inOrder := true }
  else if name = "stdbuf" then
    { valued := "ioe", inOrder := true
      long := [⟨"input", 'i', .always⟩, ⟨"output", 'o', .always⟩, ⟨"error", 'e', .always⟩] }
  else if name = "setsid" then
    { flags := "cfw", inOrder := true
      long := [⟨"ctty", 'c', .never⟩, ⟨"fork", 'f', .never⟩, ⟨"wait", 'w', .never⟩] }
  else { inOrder := true }

/-- An adjustment of the kind `-5` as an option with a value. -/
def withAdjustment : List Octets → List Octets
  | a :: rest =>
    match a.toList with
    | '-' :: cs => if Octets.isNumber (String.ofList cs) then "-n" :: String.ofList cs :: rest
      else a :: rest
    | _ => a :: rest
  | [] => []

/-- Runs a program in some way that cannot be seen from outside. -/
def executeThrough (run : Runner) (name : Octets) (args : List Octets) : Act Outcome := do
  let hint := s!"Try '{name} --help' for more information."
  let refuse (message : Octets) : Act Outcome :=
    takeRan run (.complaint 125 s!"{name}: {message}\n{hint}")
  match (throughTable name).read (if name = "nice" then withAdjustment args else args) with
  | .error m => takeRan run (m.run name (if name = "setsid" then 1 else 125))
  | .ok call =>
    let wrong := (call.values 'n').filter fun v => (Numeral.whole? v).isNone
    match wrong, call.operands with
    | v :: _, _ =>
      takeRan run (.complaint 125 s!"nice: invalid adjustment {Naming.quoted v}")
    | [], [] =>
      if name = "nice" then
        if call.options.isEmpty then takeRan run (.output "0\n")
        else refuse "a command must be given with an adjustment"
      else if name = "setsid" then
        takeRan run (.complaint 1 s!"setsid: no command specified\n{hint}")
      else refuse "missing operand"
    | [], command =>
      if name = "stdbuf" && call.options.isEmpty then
        refuse "you must specify a buffering mode option"
      else
        let target := command.headD ""
        let what := if name = "nice" then Naming.quoted target
          else if name = "setsid" then s!"failed to execute {target}"
          else s!"failed to run command {Naming.quoted target}"
        executeNamed run command fun reason => s!"{name}: {what}: {reason}\n"

/-!
## Running programs

Runs what the name of a command leads to: a tool, a script or a program that runs other programs.
-/

/-! ### Arguments from the input

Runs a program with arguments that are read from the input.
-/

/-- The words of the input, as `xargs` reads them: quotes and backslashes keep blanks. The flags are
the quote that is open and whether a word has begun. -/
def inputWords : Option Char → Option (List Char) → List Char → List Octets
  | _, word, [] => word.toList.map fun cs => String.ofList cs.reverse
  | some q, word, c :: cs =>
    if c = q then inputWords none word cs
    else inputWords (some q) (some (c :: word.getD [])) cs
  | none, word, '\\' :: c :: cs => inputWords none (some (c :: word.getD [])) cs
  | none, word, c :: cs =>
    if c = '"' || c = '\'' then inputWords (some c) (some (word.getD [])) cs
    else if c = ' ' || c = '\t' || c = '\n' then
      (word.toList.map fun cs => String.ofList cs.reverse) ++ inputWords none none cs
    else inputWords none (some (c :: word.getD [])) cs

/-- Groups of at most some items. -/
def groupsOf (size : Nat) : Nat → List Octets → List (List Octets)
  | 0, _ => []
  | _, [] => []
  | fuel + 1, xs => xs.take (max size 1) :: groupsOf size fuel (xs.drop (max size 1))

/-- Runs a program with arguments from the input. -/
def executeXargs (run : Runner) (args : List Octets) : Act Outcome := do
  let table : OptionTable :=
    { flags := "0rtx", valued := "nILPdasE", inOrder := true
      long := [⟨"null", '0', .never⟩, ⟨"no-run-if-empty", 'r', .never⟩,
        ⟨"max-args", 'n', .always⟩, ⟨"verbose", 't', .never⟩, ⟨"delimiter", 'd', .always⟩,
        ⟨"max-lines", 'L', .always⟩, ⟨"max-procs", 'P', .always⟩, ⟨"replace", 'I', .maybe⟩] }
  match table.read args with
  | .error m => takeRan run (m.run "xargs" 1)
  | .ok call =>
    let input ← unread
    leaveUnread []
    let command := if call.operands.isEmpty then ["echo"] else call.operands
    let split (d : Char) : List Octets :=
      let pieces := (Text.splitText [d] input).map String.ofList
      if pieces.getLast? = some "" then pieces.dropLast else pieces
    let delimiter : Option Char :=
      if call.has '0' then some '\x00'
      else (call.value? 'd').map fun d => (readEscape' d.toList)
    let items : List Octets := match delimiter with
      | some d => split d
      | none =>
        if call.has 'I' then
          ((Octets.toLines (String.ofList input)).map fun l =>
            String.ofList (l.toList.dropWhile fun c => c == ' ' || c == '\t')).filter (· != "")
        else if call.has 'L' then
          ((Octets.toLines (String.ofList input)).filter (· != ""))
        else inputWords none none input
    let count (c : Char) : Nat := ((call.value? c).map fun v => Octets.value v.toList).getD 0
    let calls : List (List Octets) :=
      match call.value? 'I' with
      | some mark => items.map fun item => command.map fun a => Text.replaced mark item a
      | none =>
        if call.has 'L' then
          (groupsOf (count 'L') items.length items).map fun g =>
            command ++ g.flatMap fun l => inputWords none none l.toList
        else
          let size := if call.has 'n' then count 'n' else items.length
          let groups := groupsOf size (items.length + 1) items
          let groups := if groups.isEmpty && !call.has 'r' then [[]] else groups
          groups.map (command ++ ·)
    let mut status := 0
    for c in calls do
      if call.has 't' then tell (Text.joined " " c ++ "\n")
      let name := c.headD ""
      match ← executeNamed run c fun reason => s!"xargs: {name}: {reason}\n" with
      | .status 0 => pure ()
      | .status 255 => return .status 124
      | .status n => if n = 126 || n = 127 then return .status n else status := 123
      | .killed _ => return .status 125
    return .status status
where
  /-- The character that a delimiter stands for. -/
  readEscape' : List Char → Char
    | '\\' :: cs => (readEscape cs).1
    | cs => cs.headD '\n'

/-- Prints the paths of programs. -/
def executeWhich (args : List Octets) : Act Outcome := do
  let all : Bool := args.contains "-a"
  let names := args.filter (!·.startsWith "-")
  let p ← get
  let mut status := if names.isEmpty then 1 else 0
  for name in names do
    let directories := if all then searchPath p else []
    let found (directories : List Octets) : Option Octets :=
      match findProgram p directories name with
      | .tool _ path => some path
      | .file place path => if p.toMachine.isExecutable place then some path else none
      | _ => none
    let paths := if all then directories.filterMap fun d => found [d]
      else (found (searchPath p)).toList
    if paths.isEmpty then status := 1
    let _ ← write 1 (Octets.lines paths)
  return .status status

/-- Runs a program that runs other programs. -/
def executeLauncher (run : Runner) (name : Octets) (args : List Octets) : Act Outcome := do
  if shellNames.contains name then executeShell run (args.headD name) args.tail
  else if name = "env" then executeEnv run args.tail
  else if name = "timeout" then executeTimeout run args.tail
  else if name = "xargs" then executeXargs run args.tail
  else if name = "find" then executeFind run args.tail
  else if name = "which" then executeWhich args.tail
  else if name = "awk" || name = "mawk" then executeRecords run name args.tail
  else executeThrough run name args.tail

/-- Runs a program. -/
def executeWith (run : Runner) (program : Program) (args : List Octets) : Act Outcome := do
  match program with
  | .missing => refuseProgram 127 (args.headD "") "not found"
  | .refused => refuseProgram 126 (args.headD "") "Permission denied"
  | .file place path => executeFile run place path args
  | .tool name _ =>
    if launcherNames.contains name then executeLauncher run name args
    else
      match Process.lookup name tools with
      | some tool => executeTool run name tool args
      | none => refuseProgram 127 name "not found"

/-- The shell becomes a program. -/
def becomeProgram (run : Runner) (program : Program) (args : List Octets) : Act Nat := do
  match ← run.execute program args with
  | .status n =>
    setStatus n
    modify fun p => { p with traps := Process.unassign 0 p.traps }
    throw .exited
  | .killed n => throw (.killed n)

end Mender.Shell
