import Mender.Shell.Machine
import Mender.Shell.Numeral
import Mender.Shell.Syntax

/-!
# The state of a shell

What a shell keeps while it runs commands, and how commands act on it. A command may end its shell
early; what it did until then stays done.
-/

namespace Mender.Shell

/-!
## Signals

The signals by name and number, and what a shell says of a program that one of them killed.
-/

/-- A signal. -/
structure Signal where
  number : Nat
  name : Octets
  /-- What a shell says of a program that the signal killed. -/
  notice : Octets
  deriving DecidableEq, Repr

namespace Signal

/-- The signals by number. -/
def all : List Signal :=
  [⟨1, "HUP", "Hangup"⟩, ⟨2, "INT", ""⟩, ⟨3, "QUIT", "Quit"⟩, ⟨4, "ILL", "Illegal instruction"⟩,
    ⟨5, "TRAP", "Trace/breakpoint trap"⟩, ⟨6, "ABRT", "Aborted"⟩, ⟨7, "BUS", "Bus error"⟩,
    ⟨8, "FPE", "Floating point exception"⟩, ⟨9, "KILL", "Killed"⟩,
    ⟨10, "USR1", "User defined signal 1"⟩, ⟨11, "SEGV", "Segmentation fault"⟩,
    ⟨12, "USR2", "User defined signal 2"⟩, ⟨13, "PIPE", ""⟩, ⟨14, "ALRM", "Alarm clock"⟩,
    ⟨15, "TERM", "Terminated"⟩, ⟨16, "16", "Stack fault"⟩, ⟨17, "CHLD", "Child exited"⟩,
    ⟨18, "CONT", "Continued"⟩, ⟨19, "STOP", "Stopped (signal)"⟩, ⟨20, "TSTP", "Stopped"⟩,
    ⟨21, "TTIN", "Stopped (tty input)"⟩, ⟨22, "TTOU", "Stopped (tty output)"⟩,
    ⟨23, "URG", "Urgent I/O condition"⟩, ⟨24, "XCPU", "CPU time limit exceeded"⟩,
    ⟨25, "XFSZ", "File size limit exceeded"⟩, ⟨26, "VTALRM", "Virtual timer expired"⟩,
    ⟨27, "PROF", "Profiling timer expired"⟩, ⟨28, "WINCH", "Window changed"⟩,
    ⟨29, "IO", "I/O possible"⟩, ⟨30, "PWR", "Power failure"⟩, ⟨31, "SYS", "Bad system call"⟩]

/-- The number of the signal that a reader has stopped reading what is written. -/
def brokenPipe : Nat := 13

/-- The number of the signal that ends a program in order. -/
def terminate : Nat := 15

/-- What a shell says of a program that a signal killed. -/
def noticeOf (number : Nat) : Octets :=
  ((all.find? (·.number = number)).map (·.notice)).getD ""

/-- What a signal is called in sentences. -/
def descriptionOf (number : Nat) : Octets :=
  if number = 2 then "Interrupt"
  else if number = 13 then "Broken pipe"
  else noticeOf number

/-- A process goes on when it gets the signal. -/
def isHarmless (number : Nat) : Bool :=
  number ∈ [17, 18, 23, 28]

/-- The number of a signal by its name or number. The end of a shell counts as number zero. -/
def ofText? (s : Octets) : Option Nat :=
  if Octets.isNumber s then
    let n := Octets.value s.toList
    if n ≤ 64 then some n else none
  else
    let name := String.ofList (s.toList.map Char.toUpper)
    if name = "EXIT" then some 0
    else
      let name := if name.startsWith "SIG" then String.ofList (name.toList.drop 3) else name
      (all.find? (·.name = name)).map (·.number)

/-- The name of a signal. -/
def nameOf (number : Nat) : Octets :=
  if number = 0 then "EXIT"
  else ((all.find? (·.number = number)).map (·.name)).getD (toString number)

end Signal

/-! ## What a shell keeps -/

/-- A variable of a shell. It may be exported or fixed without having a value. -/
structure Variable where
  value : Option Octets := none
  exported : Bool := false
  fixed : Bool := false
  deriving Repr

/-- What commands are left out until a loop, a function or a script has ended. -/
inductive Skip where
  | none
  | break_
  | continue_
  | return_
  deriving DecidableEq, Repr

/-- What a shell keeps for itself. -/
structure Setting where
  here : TreePlace
  /-- The path that the shell has come here by, where links keep their names. -/
  view : Octets
  /-- What the shell was called. -/
  name : Octets := "/bin/sh"
  /-- The builtin that is running. -/
  builtin : Option Octets := none
  /-- The line of the command that is running. -/
  line : Nat := 1
  /-- The number of functions that are running. -/
  calls : Nat := 0
  parameters : List Octets := []
  /-- The argument that options are read from next, and the place in it. -/
  optionAt : Nat × Option Nat := (1, none)
  bindings : List (Octets × Variable) := []
  /-- The variables that the functions which are running have hidden. -/
  scopes : List (List (Octets × Option Variable)) := []
  functions : List (Octets × Nat × Command) := []
  aliases : List (Octets × Octets) := []
  /-- What is done on signals. -/
  traps : List (Nat × Octets) := []
  /-- Signals that are to be acted on. -/
  pending : List Nat := []
  options : List Char := []
  status : Nat := 0
  /-- The status of the last command that was substituted. -/
  substituted : Nat := 0
  skip : Skip := .none
  /-- The number of loops that are left. -/
  skipCount : Nat := 0
  /-- The number of loops around the command. -/
  loops : Nat := 0
  /-- The handles of descriptors. -/
  files : List (Nat × Nat) := []
  documents : List (Nat × Word) := []
  /-- The number of the next document. -/
  nextDocument : Nat := 0
  /-- The number of the process, as its commands see it. -/
  number : Nat := 1000
  /-- The number of the job started last. -/
  lastJob : Option Nat := none
  /-- The shell is a part of another one. -/
  isPart : Bool := false
  /-- What new files do not allow. -/
  umask : Nat := 0o022
  /-- Programs that have been looked up, the latest first. -/
  known : List Octets := []
  /-- What programs may use, by letters, where that is not as usual. -/
  limits : List (Char × Octets) := []

/-- How a process ended. -/
inductive Outcome where
  | status (n : Nat)
  | killed (signal : Nat)
  deriving DecidableEq, Repr

/-- The state of a job: it waits to be run, or it has ended. -/
inductive JobState where
  | waiting (setting : Setting) (body : Command) (start : Float)
  | ended (outcome : Outcome) (clock : Float)
  /-- It has ended, and the shell has noticed while it waited for something else. -/
  | noticed (outcome : Outcome) (clock : Float)
  /-- It would end only after all has been stopped. -/
  | late

/-- A job of a shell. -/
structure Job where
  /-- The number by which the shell knows it. -/
  slot : Nat
  state : JobState
  /-- How many processes it has. -/
  size : Nat := 1
  /-- It has been waited for, so that its number may be given away. -/
  waited : Bool := false

/-- The state of a shell. -/
structure Process extends Machine, Setting where
  /-- The jobs that were started, by process. -/
  jobs : List (Nat × Job) := []

/-- How a command ends its shell. -/
inductive Leave where
  /-- After an error that was told. -/
  | failed
  | exited
  | killed (signal : Nat)
  /-- The time is over. -/
  | late
  /-- The command would go on without end. -/
  | endless
  deriving DecidableEq, Repr

/-- An action on a shell. -/
abbrev Act := ExceptT Leave (StateM Process)

namespace Process

/-- The value under a key. -/
def lookup {α β : Type} [DecidableEq α] (key : α) (table : List (α × β)) : Option β :=
  (table.find? (·.1 = key)).map (·.2)

/-- Sets the value under a key. -/
def assign {α β : Type} [DecidableEq α] (key : α) (value : β) : List (α × β) → List (α × β)
  | [] => [(key, value)]
  | x :: xs => if x.1 = key then (key, value) :: xs else x :: assign key value xs

/-- Removes a key. -/
def unassign {α β : Type} [DecidableEq α] (key : α) (table : List (α × β)) : List (α × β) :=
  table.filter (·.1 ≠ key)

/-- Sets the shared state. -/
def withMachine (p : Process) (m : Machine) : Process :=
  { p with toMachine := m }

/-- The handles that the shell and its jobs have. -/
def inUse (p : Process) : List Nat :=
  p.files.map (·.2) ++ p.jobs.flatMap fun j =>
    match j.2.state with
    | .waiting setting _ _ => setting.files.map (·.2)
    | _ => []

/-- The state of the job of a process. -/
def jobState? (p : Process) (number : Nat) : Option JobState :=
  (lookup number p.jobs).map (·.state)

/-- Changes the job of a process. -/
def changeJob (p : Process) (number : Nat) (f : Job → Job) : Process :=
  { p with jobs := p.jobs.map fun j => if j.1 = number then (number, f j.2) else j }

/-- Changes the state of the job of a process. -/
def setJob (p : Process) (number : Nat) (state : JobState) : Process :=
  p.changeJob number fun j => { j with state }

/-- The first number for a job that is free or can be given away, and the shell without the job that
had it. -/
def freeSlot (p : Process) : Nat × Process :=
  let isTaken (slot : Nat) : Bool := p.jobs.any fun j =>
    j.2.slot = slot &&
      match j.2.state with
      | .noticed _ _ => !j.2.waited
      | _ => true
  let count := p.jobs.length
  let slot := ((List.range (count + 1)).find? fun i => !isTaken (i + 1)).getD count + 1
  (slot, { p with jobs := p.jobs.filter (·.2.slot ≠ slot) })

/-- What a part of a shell leaves when it ends: the shared state. -/
def after (before : Process) (p : Process) : Process :=
  before.withMachine (p.toMachine.forget before.nextHandle before.inUse)

/-- An option of the shell is on. -/
def has (p : Process) (option : Char) : Bool :=
  p.options.contains option

/-- The value of a variable. -/
def valueOf? (p : Process) (name : Octets) : Option Octets :=
  (lookup name p.bindings).bind (·.value)

/-- Where the shell is, without links on the way. -/
def directory (p : Process) : Octets :=
  Octets.ofText ("/" ++ Text.joined "/" p.here)

/-- The group that a variable is kept in, by a sum over its name. -/
def groupOf (name : Octets) : Nat :=
  let codes := name.toList.map (·.toNat)
  codes.foldl (· + ·) (codes.headD 0 * 16) % 39

/-- The variables that programs see, group by group. -/
def environment (p : Process) : List (Octets × Octets) :=
  let exported := p.bindings.filterMap fun (name, v) =>
    match v.value with
    | some value => if v.exported then some (name, value) else none
    | none => none
  exported.mergeSort fun a b => groupOf a.1 ≤ groupOf b.1

end Process

namespace Act

/-- Changes the shared state. -/
def machine (f : Machine → Machine) : Act Unit :=
  modify fun p => p.withMachine (f p.toMachine)

/-- Writes to a descriptor; tells whether it is open and takes what is written. -/
def write (descriptor : Nat) (s : Octets) : Act Bool := do
  let p ← get
  match Process.lookup descriptor p.files with
  | some h =>
    machine (·.write h s)
    return s.isEmpty || !p.toMachine.isFull h
  | none => return s.isEmpty

/-- Writes to the output for errors. -/
def tell (s : Octets) : Act Unit := do
  let _ ← write 2 s

/-- Complains in the name of the shell. -/
def warn (message : Octets) : Act Unit := do
  let p ← get
  let builtin := match p.builtin with
    | some b => b ++ ": "
    | none => ""
  tell s!"{p.name}: {p.line}: {builtin}{message}\n"

/-- Ends the shell or the builtin after a complaint. -/
def fail {α : Type} (message : Octets) : Act α := do
  warn message
  modify fun p => { p with status := 2 }
  throw .failed

/-- Sets the status. -/
def setStatus (status : Nat) : Act Unit :=
  modify fun p => { p with status }

/-- Lets time pass. -/
def pass (seconds : Float) : Act Unit := do
  modify fun p => { p with clock := p.clock + seconds }
  let p ← get
  match p.limit with
  | some limit => if limit < p.clock then throw .late
  | none => return

/-- The result of an action that a leave may end, which is returned instead. -/
def caught {α : Type} (act : Act α) : Act (Except Leave α) :=
  fun p => let (r, p) := act p; (.ok r, p)

/-- Does something after an action, however it ends. -/
def ensuring {α : Type} (act : Act α) (last : Process → Process) : Act α :=
  fun p => let (r, p) := act p; (r, last p)

/-- What is read from the input. -/
def unread : Act (List Char) := do
  let p ← get
  match Process.lookup 0 p.files with
  | some h => return p.toMachine.unread h
  | none => return []

/-- Leaves characters of the input unread. -/
def leaveUnread (cs : List Char) : Act Unit := do
  match Process.lookup 0 (← get).files with
  | some h => machine (·.leave h cs)
  | none => return

/-! ## Variables -/

/-- A variable has a value that may not be changed. -/
def checkNotFixed (name : Octets) : Act Unit := do
  if ((Process.lookup name (← get).bindings).map (·.fixed)).getD false then
    fail s!"{name}: is read only"

/-- Sets a variable. -/
def setVariableAs (exported : Bool) (name value : Octets) : Act Unit := do
  checkNotFixed name
  modify fun p =>
    let old := (Process.lookup name p.bindings).getD {}
    let exported := old.exported || exported || p.has 'a'
    let v : Variable := { old with value := some value, exported }
    let p := { p with bindings := Process.assign name v p.bindings }
    if name = "OPTIND" then { p with optionAt := (Octets.value value.toList, none) }
    else if name = "PATH" then { p with known := [] }
    else p

/-- Sets a variable. -/
def setVariable (name value : Octets) : Act Unit :=
  setVariableAs false name value

/-- Removes a variable. -/
def unsetVariable (name : Octets) : Act Unit := do
  checkNotFixed name
  modify fun p => { p with bindings := Process.unassign name p.bindings }

/-- Changes the marks of a variable. -/
def markVariable (name : Octets) (exported fixed : Bool) : Act Unit :=
  modify fun p =>
    let old := (Process.lookup name p.bindings).getD {}
    let v : Variable :=
      { old with exported := old.exported || exported, fixed := old.fixed || fixed }
    { p with bindings := Process.assign name v p.bindings }

/-- Opens a scope for variables. -/
def openScope : Act Unit :=
  modify fun p => { p with scopes := [] :: p.scopes }

/-- Remembers a variable in the innermost scope. -/
def hide (name : Octets) : Act Unit :=
  modify fun p =>
    match p.scopes with
    | scope :: scopes =>
      if scope.any (·.1 = name) then p
      else { p with scopes := ((name, Process.lookup name p.bindings) :: scope) :: scopes }
    | [] => p

/-- Brings back the variables of a scope. -/
def restored (scope : List (Octets × Option Variable)) (p : Process) : Process :=
  let bindings := scope.foldl
    (fun vs e =>
      match e.2 with
      | some v => Process.assign e.1 v vs
      | none => Process.unassign e.1 vs)
    p.bindings
  { p with bindings }

/-- Closes scopes until as many as told are left. -/
def closeScopes (left : Nat) (p : Process) : Process :=
  let closing := p.scopes.take (p.scopes.length - left)
  let p := closing.foldl (fun p scope => restored scope p) p
  { p with scopes := p.scopes.drop (p.scopes.length - left) }

end Act

end Mender.Shell
