import Mender.Tool.Regex

/-!
# Scripts that edit streams

What a script is made of, and how it is read.
-/

namespace Mender.Editing

/-!
## Scripts that edit streams

A script is a list of commands; each is run on the lines that its addresses select. Blocks and jumps
lead to commands by their numbers.
-/

/-- An expression of a script; without one of its own it is the expression that was used last. -/
abbrev Expression := Option Regex

/-- What selects a line, or the first line of a range. -/
inductive Address where
  | line (number : Nat)
  /-- Every so many lines from a first one on. -/
  | every (first step : Nat)
  | last
  | expression (e : Expression)

/-- What ends a range. -/
inductive Ending where
  | line (number : Nat)
  | last
  | expression (e : Expression)
  /-- So many lines after the first. -/
  | after (count : Nat)
  /-- The next line whose number is a multiple. -/
  | multiple (n : Nat)

/-- The lines that a command is for. -/
structure Selection where
  first : Option Address := none
  ending : Option Ending := none
  /-- All other lines. -/
  negated : Bool := false

/-- The case of what is put in. -/
inductive Case where
  | asIs
  | upper
  | lower
  deriving DecidableEq, Repr

/-- A part of what is put in the place of a stretch. -/
inductive Piece where
  | text (cs : List Char)
  | group (number : Nat)
  /-- The case of all that follows. -/
  | setCase (c : Case)
  /-- The case of the next character. -/
  | nextCase (c : Case)
  deriving Repr

/-- A substitution. -/
structure Substitution where
  expression : Expression
  replacement : List Piece
  /-- The first stretch that is replaced, by its number. -/
  number : Nat := 1
  /-- All that follow are replaced, too. -/
  all : Bool := false
  prints : Bool := false
  /-- The file that changed lines are written to. -/
  target : Option Octets := none

/-- When a jump is made. -/
inductive JumpRule where
  | always
  | substituted
  | notSubstituted
  deriving DecidableEq, Repr

/-- What a command does. -/
inductive Action where
  /-- The commands up to a number are for the selected lines only. -/
  | block (stop : Nat)
  | nothing
  | append (text : Octets)
  | insert (text : Octets)
  | change (text : Octets)
  | jump (rule : JumpRule) (label : Octets) (target : Option Nat)
  | delete
  | deleteLine
  | print
  | printLine
  | exchange
  | get
  | getMore
  | hold
  | holdMore
  | next
  | nextMore
  | number
  | fileName
  | list (width : Option Nat)
  | quit (prints : Bool) (status : Nat)
  | readFile (name : Octets)
  | readLine (name : Octets)
  | write (name : Octets)
  | writeLine (name : Octets)
  | substitute (s : Substitution)
  | mapped (table : List (Char × Char))
  | clear

/-- A command with the lines that it is for. -/
structure Command where
  selection : Selection := {}
  action : Action

/-- A script. -/
structure Script where
  commands : Array Command := #[]
  /-- Lines are printed only on demand. -/
  quiet : Bool := false

/-!
## How scripts are written

Reads scripts from left to right. A fault is told with the number of characters that had been read.
-/

/-- What is left of a script, and how much was read. -/
structure Source where
  rest : List Char
  position : Nat := 0

/-- A fault in a script, with the number of characters that had been read. -/
structure ScriptFault where
  position : Nat
  message : Octets
  /-- The fault was found after the whole script had been read. -/
  isLate : Bool := false

/-- Reads a part of a script. -/
abbrev Reading := StateT Source (Except ScriptFault)

/-- Refuses a script. -/
def refuse {α : Type} (message : Octets) : Reading α := fun s =>
  .error ⟨s.position, message, false⟩

/-- Takes a character. -/
def take : Reading (Option Char) := fun s =>
  match s.rest with
  | [] => .ok (none, s)
  | c :: rest => .ok (some c, { rest, position := s.position + 1 })

/-- The next character. -/
def peek : Reading (Option Char) := do
  return (← get).rest.head?

/-- Drops characters. -/
def drop (n : Nat) : Reading Unit :=
  modify fun s => { rest := s.rest.drop n, position := s.position + min n s.rest.length }

/-- Drops characters of a class. -/
def dropWhile (p : Char → Bool) : Reading Unit := do
  drop ((← get).rest.takeWhile p).length

/-- Takes characters of a class. -/
def takeWhile (p : Char → Bool) : Reading (List Char) := do
  let cs := (← get).rest.takeWhile p
  drop cs.length
  return cs

/-- A blank within a line. -/
def isBlank (c : Char) : Bool :=
  c == ' ' || c == '\t'

/-- Reads the end of a command. -/
def endCommand : Reading Unit := do
  dropWhile isBlank
  match ← peek with
  | none => return ()
  | some c =>
    if c = '}' || c = '#' then return ()
    else
      drop 1
      if c = '\n' || c = ';' then return () else refuse "extra characters after command"

/-- Reads digits. -/
def takeNumber : Reading Nat := do
  return Octets.value (← takeWhile Char.isDigit)

/-- The number of characters up to the end of a set in brackets, from its first member on. -/
def membersLength : Nat → List Char → Option Nat
  | 0, _ => none
  | _, [] => none
  | fuel + 1, '[' :: c :: cs =>
    if c = ':' || c = '.' || c = '=' then
      let inner := (cs.zip cs.tail).takeWhile fun d => d != (c, ']')
      if inner.length + 1 < cs.length then
        (membersLength fuel (cs.drop (inner.length + 2))).map (· + inner.length + 4)
      else none
    else (membersLength fuel (c :: cs)).map (· + 1)
  | fuel + 1, c :: cs => if c = ']' then some 1 else (membersLength fuel cs).map (· + 1)

/-- The number of characters up to the end of a set in brackets, after its opening bracket. -/
def setLength (cs : List Char) : Option Nat :=
  let lead := if cs.head? = some '^' then 1 else 0
  let lead := if (cs.drop lead).head? = some ']' then lead + 1 else lead
  (membersLength (cs.length + 1) (cs.drop lead)).map (· + lead)

/-- Reads up to a delimiter. Where an expression is read, delimiters in sets do not count. There is
none when the delimiter is missing. -/
def takeDelimited (stop : Char) (isExpression : Bool) : Nat → List Char →
    Reading (Option (List Char))
  | 0, _ => return none
  | fuel + 1, done => do
    match ← take with
    | none => return none
    | some c =>
      if c = stop then return some done.reverse
      else if c = '\n' then return none
      else if c = '\\' then
        match ← take with
        | none => return none
        | some d =>
          if d = 'n' && isExpression then takeDelimited stop isExpression fuel ('\n' :: done)
          else if d = '\n' && isExpression then takeDelimited stop isExpression fuel ('\n' :: done)
          else if d = stop && !(!isExpression && (d = '&' || d = '\n')) then
            takeDelimited stop isExpression fuel (d :: done)
          else takeDelimited stop isExpression fuel (d :: c :: done)
      else if c = '[' && isExpression then
        let rest := (← get).rest
        match setLength rest with
        | some n =>
          if (rest.take n).contains '\n' then return none
          else
            drop n
            takeDelimited stop isExpression fuel (((rest.take n).reverse) ++ c :: done)
        | none =>
          dropWhile (· != '\n')
          return none
      else takeDelimited stop isExpression fuel (c :: done)

/-- The character that a number after a backslash stands for, and what follows it. -/
def numbered? : List Char → Option (Char × List Char)
  | k :: cs =>
    let base? : Option (Nat × Nat) := match k with
      | 'x' => some (16, 2)
      | 'o' => some (8, 3)
      | 'd' => some (10, 3)
      | _ => none
    base?.bind fun (base, most) =>
      let digits := (cs.take most).takeWhile (Shell.Numeral.isDigit base)
      if digits.isEmpty then none
      else some (Char.ofNat (Shell.Numeral.digitsValue base digits % 256), cs.drop digits.length)
  | [] => none

/-- The character that a letter after a backslash stands for. -/
def lettered? : Char → Option Char
  | 'a' => some '\x07'
  | 'f' => some '\x0c'
  | 'n' => some '\n'
  | 'r' => some '\r'
  | 't' => some '\t'
  | 'v' => some '\x0b'
  | _ => none

/-- Puts characters in the place of escapes in an expression. -/
def resolved : Nat → List Char → List Char
  | 0, _ => []
  | _, [] => []
  | fuel + 1, '\\' :: c :: cs =>
    match lettered? c with
    | some d => d :: resolved fuel cs
    | none =>
      match numbered? (c :: cs) with
      | some (d, rest) =>
        if "*.[]^$\\/+?(){}|".toList.contains d then '\\' :: d :: resolved fuel rest
        else d :: resolved fuel rest
      | none => '\\' :: c :: resolved fuel cs
  | fuel + 1, c :: cs => c :: resolved fuel cs

/-- Reads an expression; also returns the number of its groups. Nothing stands for the expression
that was used last. -/
def readExpression (extended fold lines : Bool) (cs : List Char) : Reading (Expression × Nat) := do
  if cs.isEmpty then return (none, 9)
  else
    let form : Regex.Form := { extended, fold, lines, strict := true }
    match Regex.read form (String.ofList (resolved (cs.length + 1) cs)) with
    | .ok (r, groups) => return (some r, groups)
    | .error fault => refuse fault.text

/-- Reads the letters after the expression of an address. -/
def readAddressFlags : Nat → Bool → Bool → Reading (Bool × Bool)
  | 0, fold, lines => return (fold, lines)
  | fuel + 1, fold, lines => do
    dropWhile isBlank
    match ← peek with
    | some 'I' =>
      drop 1
      readAddressFlags fuel true lines
    | some 'M' =>
      drop 1
      readAddressFlags fuel fold true
    | _ => return (fold, lines)

/-- An address that is read. -/
inductive Given where
  | address (a : Address)
  | after (n : Nat)
  | multiple (n : Nat)

/-- Reads an address, if there is one. -/
def readAddress? (extended : Bool) : Reading (Option Given) := do
  let expression (stop : Char) : Reading (Option Given) := do
    let fuel := (← get).rest.length + 1
    match ← takeDelimited stop true fuel [] with
    | none => refuse "unterminated address regex"
    | some cs =>
      let (fold, lines) ← readAddressFlags fuel false false
      let (e, _) ← readExpression extended fold lines cs
      return some (.address (.expression e))
  match ← peek with
  | some '/' =>
    drop 1
    expression '/'
  | some '\\' =>
    drop 1
    match ← take with
    | some stop => expression stop
    | none => refuse "unterminated address regex"
  | some '$' =>
    drop 1
    return some (.address .last)
  | some '+' =>
    drop 1
    dropWhile isBlank
    return some (.after (← takeNumber))
  | some '~' =>
    drop 1
    dropWhile isBlank
    return some (.multiple (← takeNumber))
  | some c =>
    if c.isDigit then
      let n ← takeNumber
      dropWhile isBlank
      if (← peek) = some '~' then
        drop 1
        dropWhile isBlank
        let step ← takeNumber
        return some (.address (if step = 0 then .line n else .every n step))
      else return some (.address (.line n))
    else return none
  | none => return none

/-- What ends a range, from the address that says it. -/
def Given.ending : Given → Ending
  | .address (.line n) => .line n
  | .address (.every n _) => .line n
  | .address .last => .last
  | .address (.expression e) => .expression e
  | .after n => .after n
  | .multiple n => .multiple n

/-- The address is the line before the first. -/
def isZero : Option Address → Bool
  | some (.line 0) => true
  | _ => false

/-- Reads the lines that a command is for. -/
def readSelection (extended : Bool) : Reading Selection := do
  let selection : Selection ← match ← readAddress? extended with
    | none => pure {}
    | some (.address a) => do
      dropWhile isBlank
      let ending : Option Ending ←
        if (← peek) = some ',' then do
          drop 1
          dropWhile isBlank
          match ← readAddress? extended with
          | some g => pure (some g.ending)
          | none =>
            drop 1
            refuse "unexpected `,'"
        else pure none
      pure { first := some a, ending }
    | some _ => refuse "invalid usage of +N or ~N as first address"
  dropWhile isBlank
  let zero : Bool := isZero selection.first && !(selection.ending matches some (.expression _))
  if zero then
    drop 1
    refuse "invalid usage of line address 0"
  else if (← peek) = some '!' then
    drop 1
    dropWhile isBlank
    if (← peek) = some '!' then
      drop 1
      refuse "multiple `!'s"
    else return { selection with negated := true }
  else return selection

/-- Reads the pieces of a replacement. -/
def readPieces : Nat → List Char → List Piece
  | 0, _ => []
  | _, [] => []
  | fuel + 1, '&' :: cs => .group 0 :: readPieces fuel cs
  | fuel + 1, '\\' :: c :: cs =>
    let go (p : Piece) : List Piece := p :: readPieces fuel cs
    if c.isDigit then go (.group (c.toNat - 48))
    else
      match c with
      | 'L' => go (.setCase .lower)
      | 'U' => go (.setCase .upper)
      | 'E' => go (.setCase .asIs)
      | 'l' => go (.nextCase .lower)
      | 'u' => go (.nextCase .upper)
      | _ =>
        match lettered? c with
        | some d => go (.text [d])
        | none =>
          match numbered? (c :: cs) with
          | some (d, rest) => .text [d] :: readPieces fuel rest
          | none => go (.text [c])
  | fuel + 1, c :: cs => .text [c] :: readPieces fuel cs

/-- The flags of a substitution. -/
structure Flags where
  fold : Bool := false
  lines : Bool := false
  prints : Bool := false
  all : Bool := false
  number : Option Nat := none
  target : Option Octets := none

/-- Reads the name of a file up to the end of the line. -/
def readFileName : Reading Octets := do
  dropWhile isBlank
  let name ← takeWhile (· != '\n')
  drop 1
  if name.isEmpty then refuse "missing filename in r/R/w/W commands"
  else return String.ofList name

/-- Reads the flags of a substitution and the end of the command. -/
def readFlags : Nat → Flags → Reading Flags
  | 0, f => return f
  | fuel + 1, f => do
    match ← peek with
    | none => return f
    | some c =>
      if c = '}' || c = '#' then return f
      else if c.isDigit then
        let n ← takeNumber
        if f.number.isSome then refuse "multiple number options to `s' command"
        else if n = 0 then refuse "number option to `s' command may not be zero"
        else readFlags fuel { f with number := some n }
      else
        drop 1
        match c with
        | 'i' => readFlags fuel { f with fold := true }
        | 'I' => readFlags fuel { f with fold := true }
        | 'm' => readFlags fuel { f with lines := true }
        | 'M' => readFlags fuel { f with lines := true }
        | 'p' =>
          if f.prints then refuse "multiple `p' options to `s' command"
          else readFlags fuel { f with prints := true }
        | 'g' =>
          if f.all then refuse "multiple `g' options to `s' command"
          else readFlags fuel { f with all := true }
        | 'w' => return { f with target := some (← readFileName) }
        | '\n' => return f
        | ';' => return f
        | ' ' => readFlags fuel f
        | '\t' => readFlags fuel f
        | _ => refuse "unknown option to `s'"

/-- Reads a substitution. -/
def readSubstitution (extended : Bool) : Reading Substitution := do
  let unterminated {α : Type} : Reading α := refuse "unterminated `s' command"
  let fuel := (← get).rest.length + 1
  match ← take with
  | none => unterminated
  | some stop =>
    match ← takeDelimited stop true fuel [] with
    | none => unterminated
    | some pattern =>
      match ← takeDelimited stop false fuel [] with
      | none => unterminated
      | some text =>
        let f ← readFlags fuel {}
        let (e, groups) ← readExpression extended f.fold f.lines pattern
        let pieces := readPieces (text.length + 1) text
        let highest := pieces.foldl
          (fun n p => match p with
            | .group k => max n k
            | _ => n)
          0
        if groups < highest then
          refuse s!"invalid reference \\{highest} on `s' command's RHS"
        else
          return { expression := e, replacement := pieces, number := f.number.getD 1
                   all := f.all, prints := f.prints, target := f.target }

/-- Resolves the escapes in a list of characters that are replaced. -/
def unescaped : List Char → List Char
  | '\\' :: c :: cs =>
    if c = '\\' then c :: unescaped cs
    else
      match lettered? c with
      | some d => d :: unescaped cs
      | none => '\\' :: c :: unescaped cs
  | c :: cs => c :: unescaped cs
  | [] => []

/-- Reads how characters are replaced by others. -/
def readMapping : Reading Action := do
  let unterminated {α : Type} : Reading α := refuse "unterminated `y' command"
  let fuel := (← get).rest.length + 1
  match ← take with
  | none => unterminated
  | some stop =>
    match ← takeDelimited stop false fuel [] with
    | none => unterminated
    | some from_ =>
      match ← takeDelimited stop false fuel [] with
      | none => unterminated
      | some to_ =>
        let from_ := unescaped from_
        let to_ := unescaped to_
        if from_.length ≠ to_.length then
          refuse "strings for `y' command are different lengths"
        else
          endCommand
          return .mapped (from_.zip to_)

/-- Reads the lines of a text up to a line feed that has no backslash before it. -/
def readLines : Nat → List Char → Reading (List Char)
  | 0, done => return done.reverse
  | fuel + 1, done => do
    match ← take with
    | none => return done.reverse
    | some '\n' => return done.reverse
    | some '\\' =>
      match ← take with
      | none => return done.reverse
      | some c =>
        match lettered? c with
        | some d => readLines fuel (d :: done)
        | none => readLines fuel (c :: done)
    | some c => readLines fuel (c :: done)

/-- Reads the text of a command; there is none when nothing follows a backslash. -/
def readText : Reading Octets := do
  dropWhile isBlank
  let fuel := (← get).rest.length + 1
  let text : Reading Octets := do
    return String.ofList (← readLines fuel []) ++ "\n"
  match ← peek with
  | none => refuse "expected \\ after `a', `c' or `i'"
  | some '\\' =>
    drop 1
    let rest := (← get).rest
    let blanks := (rest.takeWhile isBlank).length
    match (rest.drop blanks).head? with
    | none => return ""
    | some '\n' =>
      drop (blanks + 1)
      text
    | some _ => text
  | some _ => text

/-- Reads a label. -/
def readLabel : Reading Octets := do
  dropWhile isBlank
  let label ← takeWhile fun c => !(Octets.isSpace c || c == ';' || c == '}')
  return String.ofList label

/-- A number, if there is one, and the end of the command. -/
def readCount : Reading (Option Nat) := do
  dropWhile isBlank
  let digits ← takeWhile Char.isDigit
  endCommand
  return if digits.isEmpty then none else some (Octets.value digits)

/-- A script that is read: its commands in reverse, and its blocks that are open. -/
structure Draft where
  commands : List Command := []
  blocks : List Nat := []
  labels : List (Octets × Nat) := []
  quiet : Bool := false

/-- Adds a command. -/
def Draft.add (d : Draft) (s : Selection) (a : Action) : Draft :=
  { d with commands := ⟨s, a⟩ :: d.commands }

/-- The commands that are done by a letter alone. -/
def plainAction? : Char → Option Action
  | '=' => some .number
  | 'd' => some .delete
  | 'D' => some .deleteLine
  | 'F' => some .fileName
  | 'g' => some .get
  | 'G' => some .getMore
  | 'h' => some .hold
  | 'H' => some .holdMore
  | 'n' => some .next
  | 'N' => some .nextMore
  | 'p' => some .print
  | 'P' => some .printLine
  | 'x' => some .exchange
  | 'z' => some .clear
  | _ => none

/-- Reads the rest of a command after its letter. -/
def readAction (extended : Bool) (d : Draft) (s : Selection) (c : Char) : Reading Draft := do
  let here := d.commands.length
  let add (a : Action) : Reading Draft := return d.add s a
  match plainAction? c with
  | some a =>
    endCommand
    add a
  | none =>
    match c with
    | '{' => return { d.add s (.block 0) with blocks := here :: d.blocks }
    | '}' =>
      match d.blocks with
      | [] => refuse "unexpected `\x7d'"
      | start :: others =>
        if s.first.isSome then refuse "\x7d doesn't want any addresses"
        else
          endCommand
          let index := here - 1 - start
          let commands := d.commands.modify index fun k => { k with action := .block here }
          return { { d with commands }.add s .nothing with blocks := others }
    | 'a' => add (.append (← readText))
    | 'i' => add (.insert (← readText))
    | 'c' => add (.change (← readText))
    | ':' =>
      if s.first.isSome then refuse ": doesn't want any addresses"
      else
        let label ← readLabel
        if label.isEmpty then refuse "\":\" lacks a label"
        else return { d.add s .nothing with labels := (label, here) :: d.labels }
    | 'b' => add (.jump .always (← readLabel) none)
    | 't' => add (.jump .substituted (← readLabel) none)
    | 'T' => add (.jump .notSubstituted (← readLabel) none)
    | 'q' =>
      if s.ending.isSome then refuse "command only uses one address"
      else add (.quit true ((← readCount).getD 0))
    | 'Q' =>
      if s.ending.isSome then refuse "command only uses one address"
      else add (.quit false ((← readCount).getD 0))
    | 'l' => add (.list (← readCount))
    | 'r' => add (.readFile (← readFileName))
    | 'R' => add (.readLine (← readFileName))
    | 'w' => add (.write (← readFileName))
    | 'W' => add (.writeLine (← readFileName))
    | 's' => add (.substitute (← readSubstitution extended))
    | 'y' => add (← readMapping)
    | 'v' =>
      let _ ← readLabel
      endCommand
      add .nothing
    | c => refuse s!"unknown command: `{c}'"

/-- Reads all commands. -/
def readCommands (extended : Bool) : Nat → Draft → Reading Draft
  | 0, d => return d
  | fuel + 1, d => do
    dropWhile fun c => c == ';' || Octets.isSpace c
    if (← get).rest.isEmpty then return d
    else
      let s ← readSelection extended
      match ← take with
      | none => refuse "missing command"
      | some '#' =>
        if s.first.isSome then refuse "comments don't accept any addresses"
        else
          let isFirst : Bool := (← get).position = 1
          let text ← takeWhile (· != '\n')
          readCommands extended fuel { d with quiet := d.quiet || (isFirst && text = ['n']) }
      | some c => readCommands extended fuel (← readAction extended d s c)

/-- Finds the command that a label names. -/
def Draft.resolve (d : Draft) (c : Command) : Except ScriptFault Command :=
  match c.action with
  | .jump rule label _ =>
    if label.isEmpty then .ok c
    else
      match d.labels.find? (·.1 = label) with
      | some (_, n) => .ok { c with action := .jump rule label (some n) }
      | none => .error ⟨0, s!"can't find label for jump to `{label}'", true⟩
  | _ => .ok c

/-- Reads a script. -/
def Script.read (extended : Bool) (text : Octets) : Except ScriptFault Script := do
  let cs := text.toList
  let (d, _) ← (readCommands extended (cs.length + 2) {}).run ⟨cs, 0⟩
  if !d.blocks.isEmpty then .error ⟨0, "unmatched `\x7b'", false⟩
  else
    let commands ← d.commands.reverse.mapM d.resolve
    return { commands := commands.toArray, quiet := d.quiet }

end Mender.Editing
