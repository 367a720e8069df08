import Mender.Shell.Token

/-!
# Commands of a command line

Reads commands from tokens. `Command.read?` reads the commands of one line with all lines that
belong to them, so that a shell can run them before it reads on.
-/

namespace Mender.Shell

open Reading

/-- Reads a list of redirections and words: the words of a loop. -/
def readWords (rules : Rules) : Reading (List Word) := do
  iterate
    (fun (words : List Word) => do
      if (← readToken rules) = .word then return .inl ((← get).word :: words)
      else return .inr words.reverse)
    (return []) ((← get).rest.length + 2) []

/-- Reads the word behind a redirection. -/
def readTarget (rules : Rules) : Reading Redirection := do
  let (descriptor, kind) := (← get).redirection
  let isDocument := kind == "<<" || kind == "<<-"
  if isDocument then expecting { mark := true }
  if (← readToken rules) ≠ .word then unexpected none
  let r ← get
  if isDocument then
    let number := r.nextDocument
    let awaited : Awaited := ⟨number, Word.bare r.word, !r.quoted, kind == "<<-"⟩
    set { r with awaited := r.awaited ++ [awaited], nextDocument := number + 1 }
    return .of descriptor (.document number (!r.quoted))
  else if kind == ">&" || kind == "<&" then return .of descriptor (.copy r.word)
  else
    let access : Access :=
      if kind == ">" then .write
      else if kind == ">>" then .append
      else if kind == ">|" then .overwrite
      else if kind == "<" then .read
      else .both
    return .of descriptor (.file access r.word)

/-- Reads the redirections behind a command. -/
def readRedirections (rules : Rules) : Reading (List Redirection) := do
  expecting .commandHere
  iterate
    (fun (rs : List Redirection) => do
      if (← readToken rules) = .redirection then return .inl ((← readTarget rules) :: rs)
      else
        again
        return .inr rs.reverse)
    (return []) ((← get).rest.length + 2) []

/-- The builtins that no function may replace. -/
def specialBuiltins : List Octets :=
  [".", ":", "break", "continue", "eval", "exec", "exit", "export", "readonly", "return", "set",
    "shift", "times", "trap", "unset", "local"]

/-- A simple command that is being read. -/
structure Draft where
  assignments : List Word := []
  words : List Word := []
  redirections : List Redirection := []
  /-- Only assignments have been read. -/
  opening : Bool := true

/-- Reads a simple command, or the definition of a function. -/
def readSimple (rules : Rules) : Reading Command := do
  let line := (← get).line
  iterate
    (fun (d : Draft) => do
      expecting { aliases := d.opening }
      match ← readToken rules with
      | .word =>
        let w := (← get).word
        if d.opening && Word.isAssignment w then
          return .inl { d with assignments := w :: d.assignments }
        else return .inl { d with words := w :: d.words, opening := false }
      | .redirection =>
        return .inl { d with redirections := (← readTarget rules) :: d.redirections }
      | t =>
        match t, d with
        | .opening, ⟨[], [name], [], _⟩ =>
          if (← readToken rules) ≠ .closing then unexpected (some .closing)
          match Word.plain? name with
          | some text =>
            if Octets.isName text.toList && !specialBuiltins.contains text then
              expecting .command
              let line := (← get).line
              return .inr (.definition line text (← rules.command))
            else refuse "Bad function name"
          | none => refuse "Bad function name"
        | _, _ =>
          again
          return .inr (.simple line d.assignments.reverse d.words.reverse d.redirections.reverse))
    (return .nothing) ((← get).rest.length + 3) {}

/-- Reads the branches of a condition up to its end. -/
def readChoice (rules : Rules) : Reading Command := do
  let branch : Reading (Command × Command) := do
    let test ← rules.someCommands
    if (← readToken rules) ≠ .keyword "then" then unexpected (some (.keyword "then"))
    return (test, ← rules.someCommands)
  let first ← branch
  let (branches, last) ← iterate
    (fun (bs : List (Command × Command)) => do
      match ← readToken rules with
      | .keyword "elif" => return .inl ((← branch) :: bs)
      | .keyword "else" => return .inr (bs, ← rules.someCommands)
      | _ =>
        again
        return .inr (bs, .nothing))
    (return ([], .nothing)) ((← get).rest.length + 2) [first]
  return branches.foldl (fun c b => .choice b.1 b.2 c) last

/-- Reads a loop over words up to its body. -/
def readEach (rules : Rules) (line : Nat) : Reading Command := do
  let t ← readToken rules
  let r ← get
  let name := ((Word.plain? r.word).filter fun s => Octets.isName s.toList)
  match t, name with
  | .word, some name =>
    if r.quoted then refuse "Bad for loop variable"
    expecting .command
    let words ← (do
      if (← readToken rules) = .keyword "in" then
        let words ← readWords rules
        let t := (← get).token
        if t ≠ .newline && t ≠ .semicolon then unexpected none
        return words
      else
        if (← get).token ≠ .semicolon then again
        return [[.edge, .parameter "@" .value false [], .edge]])
    expecting .command
    if (← readToken rules) ≠ .keyword "do" then unexpected (some (.keyword "do"))
    return .each line name words (← rules.someCommands)
  | _, _ => refuse "Bad for loop variable"

/-- Reads the patterns of a case up to the closing parenthesis. -/
def readPatterns (rules : Rules) : Reading (List Word) := do
  if (← get).token = .opening then let _ ← readToken rules
  iterate
    (fun (patterns : List Word) => do
      let patterns := (← get).word :: patterns
      if (← readToken rules) = .pipe then
        let _ ← readToken rules
        return .inl patterns
      else return .inr patterns.reverse)
    (return []) ((← get).rest.length + 2) []

/-- Reads a selection by patterns to its end. -/
def readSelection (rules : Rules) (line : Nat) : Reading Command := do
  if (← readToken rules) ≠ .word then unexpected (some .word)
  let word := (← get).word
  expecting .command
  if (← readToken rules) ≠ .keyword "in" then unexpected (some (.keyword "in"))
  let start : Expecting := { newlines := true, keywords := true }
  expecting start
  let first ← readToken rules
  iterate
    (fun (state : Token × List (List Word × Command)) => do
      let (t, cases) := state
      if t = .keyword "esac" then return .inr (.selection line word cases.reverse)
      else
        let patterns ← readPatterns rules
        if (← get).token ≠ .closing then unexpected (some .closing)
        let cases := (patterns, ← rules.commands) :: cases
        expecting start
        match ← readToken rules with
        | .keyword "esac" => return .inl (.keyword "esac", cases)
        | .endOfCase =>
          expecting start
          return .inl (← readToken rules, cases)
        | _ => unexpected (some .endOfCase))
    (return .nothing) ((← get).rest.length + 2) (first, [])

/-- The redirections of a command, if it has some. -/
def Command.withRedirections (line : Nat) : Command → List Redirection → Command
  | c, [] => c
  | .subshell l body _, rs => .subshell l body rs
  | c, rs => .redirected line c rs

/-- Reads a command. -/
def readCommand (rules : Rules) : Reading Command := do
  let line := (← get).line
  let until_ (t : Token) (c : Command) : Reading Command := do
    if (← readToken rules) ≠ t then unexpected (some t)
    return c
  let compound (c : Reading Command) : Reading Command := do
    let c ← c
    return c.withRedirections line (← readRedirections rules)
  let loop (untilTrue : Bool) : Reading Command := do
    let test ← rules.someCommands
    if (← readToken rules) ≠ .keyword "do" then unexpected (some (.keyword "do"))
    until_ (.keyword "done") (.loop untilTrue test (← rules.someCommands))
  match ← readToken rules with
  | .keyword "if" => compound (do until_ (.keyword "fi") (← readChoice rules))
  | .keyword "while" => compound (loop false)
  | .keyword "until" => compound (loop true)
  | .keyword "for" => compound (do until_ (.keyword "done") (← readEach rules line))
  | .keyword "case" => compound (readSelection rules line)
  | .opening => compound (do until_ .closing (.subshell line (← rules.someCommands) []))
  | .keyword "\x7b" => compound (do until_ (.keyword "\x7d") (← rules.someCommands))
  | .word | .redirection =>
    again
    readSimple rules
  | _ => unexpected none

/-- Reads a pipeline. -/
def readPipeline (rules : Rules) : Reading Command := do
  let negated ← (do
    if (← readToken rules) = .keyword "!" then
      expecting .commandHere
      return true
    else
      again
      return false)
  let first ← readCommand rules
  let stages ← iterate
    (fun (stages : List Command) => do
      if (← readToken rules) = .pipe then
        expecting .command
        return .inl ((← readCommand rules) :: stages)
      else
        again
        return .inr stages.reverse)
    (return []) ((← get).rest.length + 2) [first]
  let command := match stages with
    | [c] => c
    | stages => .pipeline false stages
  return if negated then .negated command else command

/-- Reads pipelines that are joined by their outcome. -/
def readConditional (rules : Rules) : Reading Command := do
  let first ← readPipeline rules
  iterate
    (fun (c : Command) => do
      match ← readToken rules with
      | .both =>
        expecting .command
        return .inl (.both c (← readPipeline rules))
      | .either =>
        expecting .command
        return .inl (.either c (← readPipeline rules))
      | _ =>
        again
        return .inr c)
    (return .nothing) ((← get).rest.length + 2) first

/-- A command that runs beside the shell. -/
def Command.inBackground : Command → Command
  | .pipeline _ stages => .pipeline true stages
  | .redirected line body rs => .background line body rs
  | c => .background 0 c []

/-- A list of commands in their order. -/
def Command.ofList : List Command → Command
  | [] => .nothing
  | [c] => c
  | cs => .sequence cs

/-- How a list of commands ends. -/
inductive ListEnd where
  /-- At the end of the line. -/
  | line
  /-- At a token that ends it; the list is not empty. -/
  | tokenAfterSome
  /-- At a token that ends it. -/
  | token
  deriving DecidableEq, Repr

/-- Reads a list of commands. Nothing at all is read at the end of the text. -/
def readList (rules : Rules) (ending : ListEnd) : Reading (Option Command) := do
  let start : Expecting :=
    { newlines := ending != .line, keywords := true, aliases := true }
  iterate
    (fun (state : List Command × Bool) => do
      let (commands, mayEnd) := state
      let done : Option Command := some (.ofList commands.reverse)
      expecting start
      match ← readToken rules with
      | .newline =>
        readAwaited rules
        return .inr done
      | .endOfFile =>
        readAwaited rules
        modify fun r => { r with again := true, token := .endOfFile }
        return .inr (if commands.isEmpty && ending = .line then none else done)
      | t =>
        again
        if ending ≠ .line && mayEnd && t.endsList then return .inr done
        else
          let command ← readConditional rules
          let t ← readToken rules
          let commands := (if t = .ampersand then command.inBackground else command) :: commands
          let done : Option Command := some (.ofList commands.reverse)
          match t with
          | .endOfFile =>
            readAwaited rules
            modify fun r => { r with again := true, token := .endOfFile }
            return .inr done
          | .newline =>
            again
            return .inl (commands, true)
          | .ampersand | .semicolon => return .inl (commands, true)
          | _ =>
            if ending = .line then unexpected none
            again
            return .inr done)
    (return none) ((← get).rest.length + 3) ([], ending = .token)

/-- Reads commands up to a closing parenthesis. -/
def readEnclosed (rules : Rules) : Reading Command := do
  let awaited := (← get).awaited
  modify fun r => { r with awaited := [] }
  let c ← readList rules .token
  if (← readToken rules) ≠ .closing then unexpected (some .closing)
  readAwaited rules
  modify fun r => { r with awaited }
  return c.getD .nothing

/-- The rules for a number of levels of nesting. -/
def rulesOf : Nat → Rules
  | 0 => ⟨refuse "nesting", refuse "nesting", refuse "nesting", refuse "nesting"⟩
  | n + 1 =>
    { commands := fun r => (do return (← readList (rulesOf n) .token).getD .nothing : Reading _) r
      someCommands := fun r =>
        (do return (← readList (rulesOf n) .tokenAfterSome).getD .nothing : Reading _) r
      command := fun r => readCommand (rulesOf n) r
      enclosed := fun r => readEnclosed (rulesOf n) r }

/-- How deep commands may be nested. -/
def maxNesting : Nat := 300

/-- Reads the commands of the next line; none at the end of the text. -/
def Command.read? (r : Reader) : Except SyntaxFault (Option Command × Reader) :=
  (readList (rulesOf maxNesting) .line).run
    { r with again := false, expecting := {}, awaited := [] }

end Mender.Shell
