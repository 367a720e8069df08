import Mender.Shell.Launch

/-!
# Evaluation of commands

Runs commands: the builtins that run others, simple commands, and commands of all kinds.
-/

namespace Mender.Shell

open Act

/-!
## Builtins that run commands

Builtins that run texts, scripts and programs, and that say what a name stands for.
-/

/-- The builtins that run commands or know of what is run. -/
def furtherBuiltins : List Octets :=
  ["eval", ".", "exec", "command", "type", "wait", "jobs", "hash"]

/-- Runs its arguments as a command line. -/
def evalCommand (run : Runner) (st : Standing) : Builtin := fun args => do
  if args.isEmpty then return 0
  else runText run { tested := st.tested } (Text.joined " " args)

/-- The place of a script that is to be run by the shell itself. -/
def scriptPath (p : Process) (name : Octets) : Option Octets :=
  if name.toList.contains '/' then some name
  else
    ((searchPath p).map fun d => if d.isEmpty then name else d ++ "/" ++ name).find? fun path =>
      match p.toMachine.look? p.here path with
      | some (.file _) => true
      | _ => false

/-- Runs a script in the shell itself. -/
def dotCommand (run : Runner) : Builtin := fun args => do
  let (_, args) ← readOptions "" args
  match args with
  | [] => return (← get).status
  | name :: _ =>
    let p ← get
    match scriptPath p name with
    | none => Act.fail s!"{name}: not found"
    | some path =>
      match p.toMachine.content p.here path with
      | .error f => Act.fail s!"cannot open {path}: {openFault false f}"
      | .ok text =>
        modify fun p => { p with builtin := some path }
        let status ← runText run {} text
        modify fun p => { p with skip := if p.skip = .return_ then .none else p.skip }
        return status

/-- Becomes another program. -/
def execCommand (run : Runner) : Builtin := fun args => do
  let (_, args) ← readOptions "" args
  match args with
  | [] => return 0
  | name :: _ =>
    let p ← get
    let gone (status : Nat) (message : Octets) : Act Nat := do
      warn s!"{name}: {message}"
      setStatus status
      throw .exited
    match findProgram p (searchPath p) name with
    | .missing => gone 127 "not found"
    | .refused => gone 126 "Permission denied"
    | .file place path =>
      if p.toMachine.isExecutable place then becomeProgram run (.file place path) args
      else gone 126 "Permission denied"
    | found => becomeProgram run found args

/-! ### What has been looked up -/

/-- The group that the path of a program is kept in, by a sum over its name. -/
def pathGroupOf (name : Octets) : Nat :=
  let codes := name.toList.map (·.toNat)
  codes.foldl (· + ·) (codes.headD 0 * 16) % 32768 % 31

/-- The path of a program that is found by its name. -/
def pathOf? (p : Process) (name : Octets) : Option Octets :=
  match findProgram p (searchPath p) name with
  | .tool _ path => some path
  | .file _ path => some path
  | _ => none

/-- Remembers where programs are, or tells of what is remembered, group by group. -/
def hashCommand : Builtin := fun args => do
  let (options, names) ← readOptions "r" args
  if !options.isEmpty then
    modify fun p => { p with known := [] }
    return 0
  else
    let p ← get
    match names with
    | [] =>
      let kept := p.known.reverse.eraseDups.filter fun n =>
        !n.toList.contains '/' && (Process.lookup n p.functions).isNone && !isPlainBuiltin n
      let sorted := kept.mergeSort fun a b => pathGroupOf a ≤ pathGroupOf b
      printFor (Octets.lines (sorted.filterMap (pathOf? p)))
    | names =>
      let mut status := 0
      for name in names do
        if isPlainBuiltin name || (Process.lookup name p.functions).isSome then pure ()
        else if (pathOf? p name).isSome then
          modify fun p => { p with known := name :: p.known.filter (· != name) }
        else
          warn s!"{name}: not found"
          status := 1
      return status
where
  /-- A builtin of this name is there. -/
  isPlainBuiltin (name : Octets) : Bool :=
    plainBuiltins.any (·.1 = name) || furtherBuiltins.contains name

/-- The names of all builtins. -/
def isBuiltin (name : Octets) : Bool :=
  plainBuiltins.any (·.1 = name) || furtherBuiltins.contains name

/-- What a name stands for as a command, in full sentences or in one word. -/
def describe (p : Process) (inFull : Bool) (name : Octets) : Octets × Nat :=
  let told (full short : Octets) : Octets × Nat :=
    ((if inFull then name ++ full else short) ++ "\n", 0)
  if keywords.contains name then told " is a shell keyword" name
  else
    match Process.lookup name p.aliases with
    | some value => told s!" is an alias for {value}" s!"alias {name}={singleQuoted value}"
    | none =>
      if (Process.lookup name p.functions).isSome then told " is a shell function" name
      else if isBuiltin name then
        told (if specialBuiltins.contains name then " is a special shell builtin"
          else " is a shell builtin") name
      else
        let tracked := if p.known.contains name then " a tracked alias for" else ""
        match findProgram p (searchPath p) name with
        | .tool _ path => told s!" is{tracked} {path}" path
        | .file _ path => told s!" is{tracked} {path}" path
        | _ => (if inFull then name ++ ": not found\n" else "", 127)

/-- Says what names stand for as commands. -/
def describeAll (inFull : Bool) : Builtin := fun names => do
  let statuses ← names.mapM fun name => do
    let (text, status) := describe (← get) inFull name
    modify fun p => { p with known := name :: p.known }
    let _ ← printFor text
    return status
  return statuses.foldl max 0

/-- Says what a name stands for as a command. -/
def commandCommand : Builtin := fun args => do
  let (options, names) ← readOptions "pvV" args
  match options.reverse.find? fun o => o.1 = 'v' || o.1 = 'V' with
  | some (c, _) => describeAll (c = 'V') (names.take 1)
  | none => return 0

/-- Runs a builtin. -/
def runBuiltin (run : Runner) (st : Standing) (name : Octets) (args : List Octets) : Act Nat := do
  let before := (← get).builtin
  modify fun p => { p with builtin := some name }
  let act : Act Nat := match name with
    | "eval" => evalCommand run st args
    | "." => dotCommand run args
    | "exec" => execCommand run args
    | "command" => commandCommand args
    | "type" => describeAll true args
    | "wait" => waitCommand run args
    | "jobs" => jobsCommand run args
    | "hash" => hashCommand args
    | name =>
      match Process.lookup name plainBuiltins with
      | some b => b args
      | none => return 0
  let status ← ensuring act fun p => { p with builtin := before }
  setStatus status
  return status

/-!
## Simple commands

Runs simple commands: the words are expanded first, then the redirections are made, then the
assignments; what the first word stands for decides what runs.
-/

/-- What a simple command runs. -/
inductive Kind where
  /-- Only assignments and redirections. -/
  | nothing
  | function (line : Nat) (body : Command)
  | builtin (name : Octets)
  | program
  deriving Inhabited

/-- What a name stands for. -/
def kindOf (p : Process) (functions : Bool) (name : Octets) : Kind :=
  match (if functions then Process.lookup name p.functions else none) with
  | some (line, body) => .function line body
  | none => if isBuiltin name then .builtin name else .program

/-- A simple command whose first words have been expanded. -/
structure Opening where
  kind : Kind := .nothing
  /-- The words of the command that runs. -/
  words : List Octets := []
  /-- All words so far. -/
  all : List Octets := []
  /-- The words that are still to be expanded. -/
  rest : List Word := []
  /-- The first word is a special builtin. -/
  special : Bool := false
  /-- Programs are looked for in the usual directories only. -/
  usualPath : Bool := false

/-- Expands words until there is one. -/
def expandSome (substitute : Substitute) : List Word → Act (List Octets × List Word)
  | [] => return ([], [])
  | w :: rest => do
    let fields ← expandWords substitute [w]
    if fields.isEmpty then expandSome substitute rest else return (fields, rest)

/-- Skips `command` and its options: what is left, and whether the usual directories are asked for.
There is nothing when `command` itself is to answer. -/
def skipCommand (substitute : Substitute) : Nat → Opening → Act (Option Opening)
  | 0, _ => return none
  | fuel + 1, o => do
    let o ← match o.words with
      | [_] => do
        let (more, rest) ← expandSome substitute o.rest
        pure { o with words := o.words ++ more, all := o.all ++ more, rest }
      | _ => pure o
    match o.words.tail with
    | [] => return none
    | a :: rest =>
      match a.toList with
      | '-' :: '-' :: [] =>
        if rest.isEmpty then
          let (more, left) ← expandSome substitute o.rest
          if more.isEmpty then return none
          else return some { o with words := more, all := o.all ++ more, rest := left }
        else return some { o with words := rest }
      | '-' :: c :: cs =>
        if (c :: cs).all (· == 'p') then
          skipCommand substitute fuel { o with words := a :: rest, usualPath := true }
        else return none
      | _ => return some { o with words := a :: rest }

/-- Finds out what a simple command runs. -/
def resolve (substitute : Substitute) : Nat → Bool → Bool → Opening → Act Opening
  | 0, _, _, o => return o
  | fuel + 1, isFirst, functions, o => do
    match o.words with
    | [] => return o
    | name :: _ =>
      let kind := kindOf (← get) functions name
      let o := { o with kind }
      match kind with
      | .builtin b =>
        let o := if isFirst then { o with special := specialBuiltins.contains b } else o
        if b = "command" then
          match ← skipCommand substitute (o.rest.length + o.words.length + 1) o with
          | some next => resolve substitute fuel false false next
          | none => return o
        else return o
      | _ => return o

/-- Expands a word after the name of a command. An assignment to a builtin that declares variables
becomes one field. -/
def expandArgument (substitute : Substitute) (declares : Bool) (w : Word) : Act (List Octets) := do
  if declares && Word.isAssignment w then
    return [← expandText substitute { assignment := true } w]
  else expandWords substitute [w]

/-- Shows a command before it runs. -/
def trace (before : Process) (words : List Octets) : Act Unit := do
  let p ← get
  if p.has 'x' then
    let lead := (p.valueOf? "PS4").getD ""
    let line := lead ++ Text.joined " " words ++ "\n"
    match Process.lookup 2 before.files with
    | some h => machine (·.write h line)
    | none => pure ()

/-- The most functions that may run within each other. -/
def maxCalls : Nat := 1000

/-- Runs a function. -/
def callFunction (run : Runner) (st : Standing) (body : Command) (args : List Octets) :
    Act Nat := do
  let before ← get
  if maxCalls ≤ before.calls then
    Act.fail s!"Maximum function recursion depth ({maxCalls}) reached"
  modify fun p =>
    { p with parameters := args, optionAt := (1, none), loops := 0, calls := p.calls + 1 }
  let status ← ensuring (run.evaluate { tested := st.tested } body) fun p =>
    { p with parameters := before.parameters, optionAt := before.optionAt
             loops := before.loops, calls := before.calls }
  modify fun p => { p with skip := if p.skip = .return_ then .none else p.skip }
  return status

/-- Sets the variables that stand before a command; `isLocal` says that they are set for it only. -/
def assignBefore (substitute : Substitute) (isLocal exported : Bool) (w : Word) : Act Octets := do
  let text ← expandText substitute { assignment := true } w
  let (name, value) := splitAssignment text
  if isLocal then hide name
  setVariableAs (isLocal || exported) name (value.getD "")
  return text

/-- A program is not found. -/
def reportMissing (found : Program) (name : Octets) : Act Nat := do
  warn (name ++ if found = .refused then ": Permission denied" else ": not found")
  return 127

/-- Runs what a simple command stands for. -/
def runKind (run : Runner) (st : Standing) (o : Opening) (words : List Octets) : Act Nat := do
  match o.kind with
  | .nothing => return (← get).substituted
  | .function _ body => callFunction run st body words.tail
  | .builtin name =>
    if o.special then runBuiltin run st name words.tail
    else
      match ← caught (runBuiltin run st name words.tail) with
      | .ok status => return status
      | .error .failed => return (← get).status
      | .error e => throw e
  | .program =>
    let p ← get
    let name := words.headD ""
    let directories := if o.usualPath then ["/usr/bin", "/bin"] else searchPath p
    let found := findProgram p directories name
    let isPath := name.toList.contains '/'
    modify fun p => { p with known := name :: p.known }
    if !isPath && (found = .missing || found = .refused) then
      let status ← reportMissing found name
      setStatus status
      return status
    else if st.isLast && p.traps.isEmpty then becomeProgram run found words
    else
      takeSlot
      let outcome ← run.execute found words
      noticeJobs
      statusOf outcome

/-- Runs a simple command. -/
def evaluateSimple (run : Runner) (st : Standing) (line : Nat) (assignments words : List Word)
    (redirections : List Redirection) : Act Nat := do
  let substitute := substituteBy run
  let scopes := (← get).scopes.length
  modify fun p => { p with line, substituted := 0 }
  ensuring
    (do
      let (first, rest) ← expandSome substitute words
      let o ← resolve substitute (words.length + first.length + 2) true true
        { words := first, all := first, rest }
      let declares : Bool := match o.kind with
        | .builtin b => b ∈ ["export", "readonly", "local"]
        | _ => false
      let more ← o.rest.mapM (expandArgument substitute declares)
      let words := o.words ++ more.flatten
      let isLocal : Bool := !o.special && !words.isEmpty
      let isExec : Bool := match o.kind with
        | .builtin "exec" => true
        | _ => false
      if isLocal then openScope
      let before ← get
      let rs ← expandRedirections substitute redirections
      let body : Act Nat := do
        let texts ← assignments.mapM
          (assignBefore substitute isLocal (isExec && 1 < words.length))
        trace before (texts ++ o.all ++ more.flatten)
        runKind run st o words
      match ← caught (redirect rs) with
      | .ok () =>
        if isExec then body else ensuring body (restoreFiles before rs)
      | .error .failed =>
        modify (restoreFiles before rs)
        if o.special then throw .failed else return 2
      | .error e => throw e)
    (closeScopes scopes)

/-!
## Evaluation of commands

Runs commands of all kinds. The rounds of a loop have a bound, and a command that needs more counts
as one that does not end.
-/

/-- What is skipped after a round of a loop: none of it is left when the loop was meant. -/
def afterRound : Act Skip := do
  let p ← get
  match p.skip with
  | .none => return .none
  | .return_ => return .return_
  | skip =>
    let n := p.skipCount - 1
    if n = 0 then
      set { p with skip := .none, skipCount := 0 }
      return skip
    else
      set { p with skipCount := n }
      return .break_

/-- The most rounds of a loop. -/
def maxRounds : Nat := 150000

/-- Runs a loop. -/
def evaluateLoop (run : Runner) (st : Standing) (untilTrue : Bool) (test body : Command) :
    Act Nat := do
  modify fun p => { p with loops := p.loops + 1 }
  ensuring
    (iterate
      (fun (status : Nat) => do
        let tested ← run.evaluate { tested := true } test
        let skip ← afterRound
        match skip with
        | .return_ => return .inr tested
        | .break_ => return .inr status
        | .continue_ => return .inl status
        | .none =>
          if (tested = 0) = untilTrue then return .inr status
          else
            let status ← run.evaluate { tested := st.tested } body
            match ← afterRound with
            | .none => return .inl status
            | .continue_ => return .inl status
            | _ => return .inr status)
      (throw .endless) maxRounds 0)
    (fun p => { p with loops := p.loops - 1 })

/-- Runs a loop over words. -/
def evaluateEach (run : Runner) (st : Standing) (line : Nat) (name : Octets) (words : List Word)
    (body : Command) : Act Nat := do
  modify fun p => { p with line }
  let values ← expandWords (substituteBy run) words
  modify fun p => { p with loops := p.loops + 1 }
  ensuring
    (iterate
      (fun (state : List Octets × Nat) => do
        match state with
        | ([], status) => return .inr status
        | (v :: vs, _) =>
          setVariable name v
          let status ← run.evaluate { tested := st.tested } body
          match ← afterRound with
          | .none => return .inl (vs, status)
          | .continue_ => return .inl (vs, status)
          | _ => return .inr status)
      (throw .endless) (values.length + 1) (values, 0))
    (fun p => { p with loops := p.loops - 1 })

/-- The first case that a text matches. -/
def findCase (substitute : Substitute) (text : List Char) :
    List (List Word × Command) → Act (Option Command)
  | [] => return none
  | (patterns, body) :: cases => do
    let matched ← patterns.foldlM
      (fun found w => do
        if found then return true
        else
          let e ← expand substitute { tilde := true } w
          return Wildcard.matchesAll (Cell.pattern e.cells) text)
      false
    if matched then return some body else findCase substitute text cases

/-- Runs a selection. -/
def evaluateSelection (run : Runner) (st : Standing) (line : Nat) (word : Word)
    (cases : List (List Word × Command)) : Act Nat := do
  modify fun p => { p with line }
  let substitute := substituteBy run
  let text ← expandText substitute { tilde := true } word
  match ← findCase substitute text.toList cases with
  | some .nothing => return 0
  | some body => run.evaluate st body
  | none => return 0

/-- Runs a command in a part of the shell. -/
def evaluatePart (run : Runner) (st : Standing) (line : Nat) (body : Command)
    (redirections : List Redirection) : Act Nat := do
  modify fun p => { p with line }
  let rs ← expandRedirections (substituteBy run) redirections
  let act : Act Unit := do
    redirect rs
    let _ ← run.evaluate { isLast := true, tested := st.tested } body
  if st.isLast && (← get).traps.isEmpty then
    act
    throw .exited
  else
    takeSlot
    statusOf (← inPart run id act)

/-- Runs the stages of a pipeline, each reading what the one before it printed. -/
def runStages (run : Runner) (st : Standing) (start : Float) :
    List Command → Option Nat → Float → Option Leave → Act (Outcome × Float × Option Leave)
  | [], _, clock, trouble => return (.status 0, clock, trouble)
  | stage :: rest, input, clock, trouble => do
    machine fun m => { m with clock := start }
    let output ← if rest.isEmpty then pure none
      else do
        let (handle, m) := (← get).toMachine.opened (.pipe [] [])
        modify (·.withMachine m)
        pure (some handle)
    let change (p : Process) : Process :=
      let files := match input with
        | some h => Process.assign 0 h p.files
        | none => p.files
      { p with files := match output with
          | some h => Process.assign 1 h files
          | none => files }
    let before ← get
    let r ← caught (inPart run change
      (do let _ ← run.evaluate { isLast := true, tested := st.tested } stage))
    let now := (← get).clock
    let clock := if clock < now then now else clock
    let goOn (outcome : Outcome) (trouble : Option Leave) :
        Act (Outcome × Float × Option Leave) := do
      if rest.isEmpty then return (outcome, clock, trouble)
      else
        match outcome with
        | .killed n => do
          let _ ← statusOf (.killed n)
        | _ => pure ()
        runStages run st start rest output clock trouble
    match r with
    | .ok outcome => goOn outcome trouble
    | .error .late => do
      modify fun p => before.after p
      goOn (.status 0) (some .late)
    | .error .endless => do
      modify fun p => before.after p
      if rest.isEmpty then return (.status 0, clock, some .endless)
      else goOn (.killed Signal.brokenPipe) trouble
    | .error e => throw e

/-- How many processes run a command. -/
def sizeOf : Command → Nat
  | .pipeline _ stages => stages.length
  | _ => 1

/-- Starts a job. -/
def startJob (body : Command) : Act Nat := do
  let (slot, p) := (← get).freeSlot
  let number := p.nextProcess
  let (sink, m) := p.toMachine.opened (.device .sink)
  let part := becomePart { p with files := Process.assign 0 sink p.files }
  let job : JobState := .waiting part.toSetting body p.clock
  set { p.withMachine { m with nextProcess := number + 1 } with
    lastJob := some number
    jobs := p.jobs ++ [(number, ({ slot, state := job, size := sizeOf body } : Job))] }
  return 0

/-- Runs a pipeline. -/
def evaluatePipeline (run : Runner) (st : Standing) (stages : List Command) : Act Nat := do
  takeSlot
  let before ← get
  let (outcome, clock, trouble) ← runStages run st before.clock stages none before.clock none
  machine fun m => { m with clock }
  modify fun p => p.withMachine (p.toMachine.forget before.nextHandle p.inUse)
  match trouble with
  | some e => throw e
  | none => statusOf outcome

/-- Runs commands in their order. -/
def evaluateSequence (run : Runner) (st : Standing) : List Command → Act Nat
  | [] => return (← get).status
  | [c] => run.evaluate st c
  | c :: rest => do
    let status ← run.evaluate { tested := st.tested } c
    if (← get).skip ≠ .none then return status else evaluateSequence run st rest

/-- Runs a command. The flag says whether its failure may end the shell. -/
def evaluateBody (run : Runner) (st : Standing) : Command → Act (Nat × Bool)
  | .nothing => return ((← get).status, false)
  | .negated body => do
    let status ← run.evaluate { tested := true } body
    if (← get).skip ≠ .none then return (status, false)
    else return (if status = 0 then 1 else 0, false)
  | .redirected line body redirections => do
    modify fun p => { p with line }
    let rs ← expandRedirections (substituteBy run) redirections
    let status ← withRedirections rs (return 2) (run.evaluate { tested := st.tested } body)
    return (status, false)
  | .simple line assignments words redirections => do
    return (← evaluateSimple run st line assignments words redirections, true)
  | .each line name words body => do
    return (← evaluateEach run st line name words body, false)
  | .loop untilTrue test body => do
    return (← evaluateLoop run st untilTrue test body, false)
  | .subshell line body redirections => do
    return (← evaluatePart run st line body redirections, true)
  | .background line body redirections => do
    return (← startJob (.subshell line body redirections), true)
  | .pipeline background stages => do
    if background then return (← startJob (.pipeline false stages), true)
    else return (← evaluatePipeline run st stages, true)
  | .selection line word cases => do
    return (← evaluateSelection run st line word cases, false)
  | .both first second => do
    let status ← run.evaluate { tested := true } first
    if status ≠ 0 || (← get).skip ≠ .none then return (status, false)
    else return (← run.evaluate st second, false)
  | .either first second => do
    let status ← run.evaluate { tested := true } first
    if status = 0 || (← get).skip ≠ .none then return (status, false)
    else return (← run.evaluate st second, false)
  | .sequence commands => do
    return (← evaluateSequence run st commands, false)
  | .choice test whenTrue whenFalse => do
    let status ← run.evaluate { tested := true } test
    if (← get).skip ≠ .none then return (status, false)
    else if status = 0 then return (← run.evaluate st whenTrue, false)
    else
      match whenFalse with
      | .nothing => return (0, false)
      | c => return (← run.evaluate st c, false)
  | .definition line name body => do
    modify fun p => { p with functions := Process.assign name (line, body) p.functions }
    return (0, false)

/-- Runs a command; a failure that nothing looks at may end the shell. -/
def evaluateWith (run : Runner) (st : Standing) (c : Command) : Act Nat := do
  let finish : Act Nat := do
    runTraps run
    if st.isLast then throw .exited
    return (← get).status
  match c with
  | .nothing => finish
  | c =>
    if (← get).has 'n' then finish
    else
      runTraps run
      let (status, counts) ← evaluateBody run st c
      setStatus status
      if counts && !st.tested && status ≠ 0 && (← get).has 'e' then throw .exited
      finish

/-- What runs commands that are nested no deeper than told. -/
def runnerOf : Nat → Runner
  | 0 => ⟨fun _ _ => throw (.killed 11), fun _ _ => throw (.killed 11)⟩
  | n + 1 =>
    { evaluate := fun st c p => evaluateWith (runnerOf n) st c p
      execute := fun program args p => executeWith (runnerOf n) program args p }

end Mender.Shell
