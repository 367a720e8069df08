import Mender.Shell.Octets
import Mender.Tool.Records.Pattern
import Mender.Tool.Records.Value
import Mender.Tool.Regex

/-!
# How programs over records are written

A program over records, its tokens, and how it is read from them.
-/

namespace Mender.Records

/-!
## Programs over records

A program is a list of rules; each has a pattern that selects records and a statement that is run on
those. Some statements are run before the first record and after the last one.
-/

/-- An operation on two numbers. -/
inductive Operation where
  | add
  | subtract
  | multiply
  | divide
  | remainder
  | power
  deriving DecidableEq, Repr

/-- How two values are compared. -/
inductive Relation where
  | less
  | atMost
  | equal
  | unequal
  | greater
  | atLeast
  deriving DecidableEq, Repr

/-- The relation holds where values compare so. Nothing but inequality holds where there is no
order. -/
def Relation.holds (r : Relation) : Option Ordering → Bool
  | none => r == .unequal
  | some o =>
    match r with
    | .less => o == .lt
    | .atMost => o != .gt
    | .equal => o == .eq
    | .unequal => o != .eq
    | .greater => o == .gt
    | .atLeast => o != .lt

/-- An expression. -/
inductive Expr where
  | number (x : Float)
  | text (s : Octets)
  /-- The record matches a regular expression. -/
  | regex (r : Regex)
  | variable (name : Octets)
  | item (array : Octets) (keys : List Expr)
  | field (number : Expr)
  | assign (target : Expr) (operation : Option Operation) (value : Expr)
  | choice (condition yes no : Expr)
  | both (a b : Expr)
  | either (a b : Expr)
  | negation (e : Expr)
  | minus (e : Expr)
  | plus (e : Expr)
  | arithmetic (operation : Operation) (a b : Expr)
  | joined (a b : Expr)
  | compared (r : Relation) (a b : Expr)
  | matched (negated : Bool) (subject pattern : Expr)
  /-- An array has an item. -/
  | contains (keys : List Expr) (array : Octets)
  /-- Adds an amount to a target; the value is the one before or after that. -/
  | step (amount : Float) (valueBefore : Bool) (target : Expr)
  | call (name : Octets) (arguments : List Expr)
  | builtin (name : Octets) (arguments : List Expr)
  /-- Reads a record or a line into a target. -/
  | read (target : Option Expr)
  | readFile (target : Option Expr) (name : Expr)
  | readCommand (target : Option Expr) (command : Expr)
  /-- Expressions in parentheses. -/
  | list (es : List Expr)

/-- Where something is printed to. -/
inductive Sink where
  | file
  | append
  | command
  deriving DecidableEq, Repr

/-- A statement. -/
inductive Statement where
  | nothing
  | print (arguments : List Expr) (target : Option (Sink × Expr))
  | printBy (arguments : List Expr) (target : Option (Sink × Expr))
  | run (e : Expr)
  | branch (condition : Expr) (yes no : Statement)
  | whileTrue (condition : Expr) (body : Statement)
  | doWhile (body : Statement) (condition : Expr)
  | loop (start : Option Expr) (condition step : Option Expr) (body : Statement)
  | each (name array : Octets) (body : Statement)
  | block (statements : List Statement)
  | next
  | nextFile
  | exit (status : Option Expr)
  | return_ (value : Option Expr)
  | break_
  | continue_
  | delete (array : Octets) (keys : List Expr)
  | deleteAll (array : Octets)

/-- What selects records. -/
inductive Selector where
  | all
  | one (e : Expr)
  /-- From a record to another; the number tells ranges apart. -/
  | range (number : Nat) (first last : Expr)

/-- A rule. -/
structure Rule where
  selector : Selector
  body : Statement

/-- A function of a program. -/
structure Routine where
  name : Octets
  parameters : List Octets
  body : Statement

/-- A program. -/
structure Program where
  starts : List Statement := []
  rules : List Rule := []
  ends : List Statement := []
  routines : List Routine := []

/-!
## Tokens of programs over records

Cuts the text of a program into tokens. A slash divides where an operand stands before it, and opens
a regular expression elsewhere.
-/

/-- A token. -/
inductive Token where
  | number (x : Float) (text : Octets)
  | text (s : Octets) (written : Octets)
  | regex (s : Octets)
  | name (s : Octets)
  /-- A name with an opening parenthesis right behind it. -/
  | calledName (s : Octets)
  | builtin (s : Octets)
  | keyword (s : Octets)
  | sign (s : Octets)
  /-- A closing parenthesis or brace that nothing has opened. -/
  | extra (c : Char)
  | newline
  | endOfText

/-- A token and its line. -/
structure Placed where
  token : Token
  line : Nat

/-- Why a program cannot be read. -/
structure Fault where
  /-- What is said, each text behind the name of the program. -/
  texts : List Octets

namespace Fault

/-- A fault in a line. -/
def at_ (line : Nat) (message : Octets) : Fault :=
  ⟨[s!"line {line}: {message}"]⟩

end Fault

namespace Token

/-- A token as it stands in messages. -/
def shown : Token → Octets
  | .number _ s => s
  | .text _ s => s
  | .regex s => s!"/{s}/"
  | .name s => s
  | .calledName s => s
  | .builtin s => s
  | .keyword s => s
  | .sign s => s
  | .extra c => String.singleton c
  | .newline => "end of line"
  | .endOfText => "end of line"

/-- The words that start or join statements. -/
def keywords : List Octets :=
  ["BEGIN", "END", "function", "if", "else", "while", "do", "for", "in", "break", "continue",
    "next", "nextfile", "exit", "return", "delete", "print", "printf", "getline"]

/-- The functions that every program has, with the least and the largest number of arguments. -/
def builtins : List (Octets × Nat × Nat) :=
  [("length", 0, 1), ("substr", 2, 3), ("index", 2, 2), ("split", 2, 3), ("sub", 2, 3),
    ("gsub", 2, 3), ("match", 2, 2), ("sprintf", 1, 255), ("sin", 1, 1), ("cos", 1, 1),
    ("atan2", 2, 2), ("exp", 1, 1), ("log", 1, 1), ("sqrt", 1, 1), ("int", 1, 1), ("rand", 0, 0),
    ("srand", 0, 1), ("system", 1, 1), ("close", 1, 1), ("fflush", 0, 1), ("tolower", 1, 1),
    ("toupper", 1, 1)]

/-- The signs, the longer ones first. -/
def signs : List Octets :=
  ["&&", "||", "++", "--", "+=", "-=", "*=", "/=", "%=", "^=", "==", "<=", ">=", ">>", "!=", "!~",
    "\x7b", "\x7d", "(", ")", "[", "]", ";", ",", "+", "-", "*", "/", "%", "^", "!", ">", "<", "|",
    "?", ":", "~", "$", "="]

/-- An operand may end with the token, so that a slash behind it divides. -/
def endsOperand : Token → Bool
  | .number _ _ => true
  | .text _ _ => true
  | .regex _ => true
  | .name _ => true
  | .builtin _ => true
  | .sign s => s ∈ [")", "]", "$", "++", "--"]
  | _ => false

/-- The number of characters of a fault that are shown. -/
def shownLength : Nat := 10

/-- Reads a text up to its closing quote: the text, it as it is written, the rest, and the lines
that it spans. -/
def readText (line : Nat) (whole : List Char) :
    Nat → List Char → List Char → Except Fault (List Char × List Char)
  | 0, _, _ => .error (Fault.at_ line "runaway string constant")
  | fuel + 1, taken, cs =>
    let runaway : Fault := Fault.at_ line ("runaway string constant \"" ++
      String.ofList ((whole.takeWhile (· != '\n')).take shownLength) ++ " ...")
    match cs with
    | [] => .error runaway
    | '\n' :: _ => .error runaway
    | '"' :: rest => .ok (taken.reverse, rest)
    | '\\' :: '\n' :: rest => readText line whole fuel taken rest
    | '\\' :: c :: rest =>
      if "\"\\abfnrtv".toList.contains c || ('0' ≤ c && c ≤ '7') then
        let (d, rest) := Pattern.readEscape (c :: rest)
        readText line whole fuel (d :: taken) rest
      else if c = 'x' && rest.head?.any (Shell.Numeral.isDigit 16) then
        let digits := (rest.take 2).takeWhile (Shell.Numeral.isDigit 16)
        let d := Char.ofNat (Shell.Numeral.digitsValue 16 digits)
        readText line whole fuel (d :: taken) (rest.drop digits.length)
      else readText line whole fuel (c :: '\\' :: taken) rest
    | c :: rest => readText line whole fuel (c :: taken) rest

/-- Reads a regular expression up to its closing slash. The flag says whether a set is open. -/
def readRegex (line : Nat) (whole : List Char) :
    Nat → Bool → List Char → List Char → Except Fault (List Char × List Char)
  | 0, _, _, _ => .error (Fault.at_ line "runaway regular expression")
  | fuel + 1, inSet, taken, cs =>
    let runaway : Fault := Fault.at_ line ("runaway regular expression /" ++
      String.ofList ((whole.takeWhile (· != '\n')).take shownLength) ++ " ...")
    match cs with
    | [] => .error runaway
    | '\n' :: _ => .error runaway
    | '/' :: rest =>
      if inSet then readRegex line whole fuel true ('/' :: taken) rest
      else .ok (taken.reverse, rest)
    | '\\' :: '/' :: rest => readRegex line whole fuel inSet ('/' :: taken) rest
    | '\\' :: c :: rest => readRegex line whole fuel inSet (c :: '\\' :: taken) rest
    | '[' :: '^' :: ']' :: rest =>
      if inSet then readRegex line whole fuel false (']' :: '^' :: '[' :: taken) rest
      else readRegex line whole fuel true (']' :: '^' :: '[' :: taken) rest
    | '[' :: ']' :: rest =>
      if inSet then readRegex line whole fuel false (']' :: '[' :: taken) rest
      else readRegex line whole fuel true (']' :: '[' :: taken) rest
    | '[' :: ':' :: rest =>
      if inSet then
        let name := rest.takeWhile Char.isAlpha
        match rest.drop name.length with
        | ':' :: ']' :: rest =>
          readRegex line whole fuel true (']' :: ':' :: (name.reverse ++ ':' :: '[' :: taken)) rest
        | _ => readRegex line whole fuel true (':' :: '[' :: taken) rest
      else readRegex line whole fuel true (':' :: '[' :: taken) rest
    | '[' :: rest => readRegex line whole fuel true ('[' :: taken) rest
    | ']' :: rest => readRegex line whole fuel false (']' :: taken) rest
    | c :: rest => readRegex line whole fuel inSet (c :: taken) rest

/-- A number at the start of a text. -/
def readNumber? (cs : List Char) : Option (Token × List Char) :=
  let starts : Bool := match cs with
    | '.' :: d :: _ => d.isDigit
    | d :: _ => d.isDigit
    | [] => false
  if starts then
    match Shell.Numeral.readMagnitude false cs with
    | some (x, rest) => some (.number x (String.ofList (cs.take (cs.length - rest.length))), rest)
    | none => none
  else none

/-- The token of a word. -/
def ofWord (word : Octets) (rest : List Char) : Token :=
  if keywords.contains word then .keyword word
  else if builtins.any (·.1 = word) then .builtin word
  else if rest.head? = some '(' then .calledName word
  else .name word

/-- Cuts a text into tokens. -/
def scan : Nat → Nat → Option Token → List Char → Except Fault (List Placed)
  | 0, line, _, _ => .ok [⟨.endOfText, line⟩]
  | _, line, _, [] => .ok [⟨.endOfText, line⟩]
  | fuel + 1, line, before, c :: cs => do
    let found (t : Token) (rest : List Char) : Except Fault (List Placed) := do
      return ⟨t, line⟩ :: (← scan fuel line (some t) rest)
    if c = ' ' || c = '\t' || c = '\r' then scan fuel line before cs
    else if c = '\n' then
      return ⟨.newline, line⟩ :: (← scan fuel (line + 1) (some .newline) cs)
    else if c = '#' then scan fuel line before (cs.dropWhile (· != '\n'))
    else if c = '\\' && cs.head? = some '\n' then scan fuel (line + 1) before cs.tail
    else if c = '\\' && cs.take 2 = ['\r', '\n'] then scan fuel (line + 1) before (cs.drop 2)
    else if c = '"' then
      let (s, rest) ← readText line cs (cs.length + 1) [] cs
      let written := (c :: cs).take (cs.length + 1 - rest.length)
      let lines := written.count '\n'
      let t : Token := .text (String.ofList s) (String.ofList written)
      return ⟨t, line⟩ :: (← scan fuel (line + lines) (some t) rest)
    else if c = '/' && !before.any endsOperand then
      let (s, rest) ← readRegex line cs (cs.length + 1) false [] cs
      found (.regex (String.ofList s)) rest
    else
      match readNumber? (c :: cs) with
      | some (t, rest) => found t rest
      | none =>
        if Octets.startsName c then
          let word := (c :: cs).takeWhile Octets.inName
          let rest := (c :: cs).drop word.length
          found (ofWord (String.ofList word) rest) rest
        else
          match signs.find? fun s => s.toList.isPrefixOf (c :: cs) with
          | some s => found (.sign s) ((c :: cs).drop s.length)
          | none => .error ⟨[s!"{line}: unexpected character '{c}'"]⟩

/-- Marks the parentheses and braces that close nothing. The counts say how many are open. -/
def markExtra : Nat → Nat → List Placed → List Placed
  | _, _, [] => []
  | parentheses, braces, p :: rest =>
    match p.token with
    | .sign "(" => p :: markExtra (parentheses + 1) braces rest
    | .calledName _ => p :: markExtra parentheses braces rest
    | .sign ")" =>
      if parentheses = 0 then { p with token := .extra ')' } :: markExtra 0 braces rest
      else p :: markExtra (parentheses - 1) braces rest
    | .sign "\x7b" => p :: markExtra parentheses (braces + 1) rest
    | .sign "\x7d" =>
      if braces = 0 then { p with token := .extra '}' } :: markExtra parentheses 0 rest
      else p :: markExtra parentheses (braces - 1) rest
    | _ => p :: markExtra parentheses braces rest

/-- The tokens of a program. -/
def ofProgram (s : Octets) : Except Fault (List Placed) := do
  return markExtra 0 0 (← scan (s.length + 1) 1 none s.toList)

end Token

/-!
## How programs over records are written

Reads a program from its tokens. Operators bind from assignment, the loosest, to the field sign; two
operands that follow one another are joined. Within the arguments of a print statement, the sign of
"greater" says where the output goes.
-/

/-- What a name stands for. -/
inductive NameKind where
  | scalar
  | array
  deriving DecidableEq, Repr

/-- How far a program has been read. -/
structure ReadState where
  rest : List Placed
  /-- What the names of the program stand for. -/
  globals : List (Octets × NameKind) := []
  /-- The parameters of the routine that is being read. -/
  locals : List (Octets × Option NameKind) := []
  inRoutine : Bool := false
  /-- The statement is run on records. -/
  onRecords : Bool := false
  loops : Nat := 0
  /-- The number of ranges. -/
  ranges : Nat := 0
  /-- The calls of routines, with their numbers of arguments and lines. -/
  calls : List (Octets × Nat × Nat) := []

/-- Reads a part of a program. -/
abbrev Reading := StateT ReadState (Except Fault)

namespace Reading

/-- The next token. -/
def peek : Reading Token := do
  return ((← get).rest.head?.map (·.token)).getD .endOfText

/-- The token behind the next one. -/
def peekSecond : Reading Token := do
  return (((← get).rest.drop 1).head?.map (·.token)).getD .endOfText

/-- The line of the next token. -/
def line : Reading Nat := do
  return ((← get).rest.head?.map (·.line)).getD 1

/-- Goes on behind the next token. -/
def skip : Reading Unit :=
  modify fun s => { s with rest := s.rest.drop 1 }

/-- The program cannot be read. -/
def refuse {α : Type} (message : Octets) : Reading α := do
  throw (Fault.at_ (← line) message)

/-- What is said of parentheses and braces that close nothing. -/
def extraTexts (ps : List Placed) : List Octets :=
  ps.filterMap fun p =>
    match p.token with
    | .extra c => some s!"line {p.line}: extra '{c}'"
    | _ => none

/-- The next token cannot stand here. -/
def unexpected {α : Type} : Reading α := do
  let rest := (← get).rest
  let line ← line
  let near (t : Token) : Octets := s!"line {line}: syntax error at or near {t.shown}"
  match ← peek with
  | .endOfText => throw (Fault.at_ line "missing \x7d near end of file")
  | .extra ')' => throw ⟨extraTexts rest⟩
  | .extra _ => throw ⟨extraTexts rest ++ [near (← peekSecond)]⟩
  | t => throw ⟨near t :: extraTexts rest⟩

/-- The next token is a sign. -/
def isSign (s : Octets) : Reading Bool := do
  match ← peek with
  | .sign t => return t == s
  | _ => return false

/-- The next token is a keyword. -/
def isKeyword (s : Octets) : Reading Bool := do
  match ← peek with
  | .keyword t => return t == s
  | _ => return false

/-- Takes a sign if it is the next token. -/
def takes (s : Octets) : Reading Bool := do
  if ← isSign s then
    skip
    return true
  else return false

/-- Takes a sign, which has to be the next token. -/
def expect (s : Octets) : Reading Unit := do
  if !(← takes s) then unexpected

/-- Skips the ends of lines. -/
def skipLines : Reading Unit := do
  modify fun s =>
    let isEnd (p : Placed) : Bool := match p.token with
      | .newline => true
      | _ => false
    { s with rest := s.rest.dropWhile isEnd }

/-- A statement ends here. -/
def atEnd : Reading Bool := do
  match ← peek with
  | .newline => return true
  | .endOfText => return true
  | .sign ";" => return true
  | .sign "\x7d" => return true
  | _ => return false

/-- Notes what a name stands for. -/
def note (name : Octets) (kind : NameKind) : Reading Unit := do
  let s ← get
  let told (known : NameKind) (scope : Octets) : Reading Unit := do
    if known ≠ kind then
      let word := if known = .array then "array" else "variable"
      refuse s!"illegal reference to {scope}{word} {name}"
  match s.locals.find? (·.1 = name) with
  | some (_, some known) => told known "local "
  | some (_, none) =>
    let mark (e : Octets × Option NameKind) : Octets × Option NameKind :=
      if e.1 = name then (name, some kind) else e
    set { s with locals := s.locals.map mark }
  | none =>
    match s.globals.find? (·.1 = name) with
    | some (_, known) => told known ""
    | none => set { s with globals := (name, kind) :: s.globals }

end Reading

open Reading

/-- Where an expression stands. -/
structure Standing where
  /-- In the arguments of a print statement, outside of parentheses. -/
  printed : Bool := false

/-- What reads a whole expression that is nested less deeply. -/
abbrev Whole := Standing → Reading Expr

/-- Expressions between commas. -/
def readList (whole : Whole) (st : Standing) : Nat → Reading (List Expr)
  | 0 => return []
  | fuel + 1 => do
    let e ← whole st
    if ← takes "," then
      skipLines
      return e :: (← readList whole st fuel)
    else return [e]

/-- The most elements of a list. -/
def longest : Nat := 10000

/-- The keys of an item, behind the opening bracket. -/
def readKeys (whole : Whole) : Reading (List Expr) := do
  let keys ← readList whole {} longest
  expect "]"
  return keys

/-- An expression that a value can be given to. -/
def isTarget : Expr → Bool
  | .variable _ => true
  | .item _ _ => true
  | .field _ => true
  | _ => false

/-- A regular expression. -/
def readPattern (s : Octets) : Reading Regex := do
  match Pattern.read s with
  | .ok r => return r
  | .error f => refuse s!"regular expression compile failed ({f.text})\n{s}"

/-- The name of a variable or an item of an array. -/
def readNamed (whole : Whole) (name : Octets) : Reading Expr := do
  if ← takes "[" then
    note name .array
    return .item name (← readKeys whole)
  else
    return .variable name

/-- Notes that a variable is no array. -/
def asScalar (e : Expr) : Reading Expr := do
  match e with
  | .variable name => note name .scalar
  | _ => pure ()
  return e

/-- The arguments of a call, behind the name. A name alone may be an array. -/
def readArguments (whole : Whole) : Reading (List Expr) := do
  expect "("
  skipLines
  if ← takes ")" then return []
  let es ← readList
    (fun st => do
      match ← peek, ← peekSecond with
      | .name n, .sign s =>
        if s = "," || s = ")" then
          skip
          return .variable n
        else whole st
      | _, _ => whole st)
    {} longest
  skipLines
  expect ")"
  return es

/-- A call of a function that every program has. -/
def readBuiltin (whole : Whole) (name : Octets) : Reading Expr := do
  let hasList ← isSign "("
  let args ← if hasList then readArguments whole
    else if name = "length" then pure []
    else unexpected
  let (least, most) := ((Token.builtins.find? (·.1 = name)).map (·.2)).getD (0, 0)
  if args.length < least || most < args.length then
    refuse s!"wrong number of arguments in call to {name}"
  let arrayAt : Option Nat := if name = "split" then some 1 else none
  let args ← (args.zipIdx).mapM fun (a, i) => do
    match a with
    | .variable v =>
      if arrayAt = some i then
        note v .array
        return a
      else if name = "length" then return a
      else asScalar a
    | a => return a
  return .builtin name args

/-- A target of reading, if one follows. -/
def readTarget? (whole : Whole) (primary : Reading Expr) : Reading (Option Expr) := do
  match ← peek with
  | .name n =>
    skip
    return some (← asScalar (← readNamed whole n))
  | .sign "$" =>
    skip
    return some (.field (← primary))
  | _ => return none

/-- An operand without operators that join two. -/
def readPrimary (whole : Whole) (st : Standing) : Nat → Reading Expr
  | 0 => unexpected
  | fuel + 1 => do
    let primary := readPrimary whole st fuel
    let stepped (e : Expr) : Reading Expr := do
      if isTarget e then
        if ← takes "++" then return .step 1.0 true (← asScalar e)
        else if ← takes "--" then return .step (-1.0) true (← asScalar e)
        else asScalar e
      else return e
    match ← peek with
    | .number x _ => skip; return .number x
    | .text s _ => skip; return .text s
    | .regex s =>
      let r ← readPattern s
      skip
      return .regex r
    | .name n =>
      skip
      stepped (← readNamed whole n)
    | .calledName n =>
      let line ← line
      skip
      call n line
    | .builtin n => skip; readBuiltin whole n
    | .keyword "getline" =>
      skip
      let target ← readTarget? whole primary
      if ← takes "<" then return .readFile target (← primary)
      else return .read target
    | .sign "$" =>
      skip
      let number ← match ← peek with
        | .sign "++" | .sign "--" | .sign "-" | .sign "+" | .sign "!" => readSigned primary
        | _ => fieldNumber primary
      stepped (.field number)
    | .sign "++" => skip; return .step 1.0 false (← target primary)
    | .sign "--" => skip; return .step (-1.0) false (← target primary)
    | .sign "(" =>
      skip
      skipLines
      let es ← readList whole {} longest
      skipLines
      expect ")"
      match es with
      | [e] => return (match e with
        | .variable _ | .item _ _ | .field _ => .list [e]
        | e => e)
      | es =>
        if ← isKeyword "in" then
          skip
          match ← peek with
          | .name a =>
            skip
            note a .array
            return .contains es a
          | _ => unexpected
        else return .list es
    | _ => unexpected
where
  /-- A call of a routine. -/
  call (n : Octets) (line : Nat) : Reading Expr := do
    let args ← readArguments whole
    modify fun s => { s with calls := (n, args.length, line) :: s.calls }
    return .call n args
  /-- An operand that a step changes. -/
  target (primary : Reading Expr) : Reading Expr := do
    match ← peek with
    | .name n =>
      skip
      asScalar (← readNamed whole n)
    | .sign "$" =>
      skip
      return .field (← fieldNumber primary)
    | _ => unexpected
  /-- The number of a field: a step behind it is for the field. -/
  fieldNumber (primary : Reading Expr) : Reading Expr := do
    match ← peek with
    | .name n =>
      skip
      asScalar (← readNamed whole n)
    | .sign "$" =>
      skip
      return .field (← fieldOf primary)
    | _ => primary
  /-- The number of a field in the number of a field. -/
  fieldOf (primary : Reading Expr) : Reading Expr := do
    match ← peek with
    | .name n =>
      skip
      asScalar (← readNamed whole n)
    | _ => primary
  /-- The number of a field with a sign before it. -/
  readSigned (primary : Reading Expr) : Reading Expr := do
    if ← takes "-" then return .minus (← fieldNumber primary)
    else if ← takes "+" then return .plus (← fieldNumber primary)
    else if ← takes "!" then return .negation (← fieldNumber primary)
    else primary

/-- An operand and what commands print into it. -/
def readPiped (whole : Whole) (st : Standing) : Reading Expr := do
  let primary := readPrimary whole st longest
  let e ← primary
  go primary longest e
where
  /-- Reads on while a line is read from a command. -/
  go (primary : Reading Expr) : Nat → Expr → Reading Expr
    | 0, e => return e
    | fuel + 1, e => do
      match ← peek, ← peekSecond with
      | .sign "|", .keyword "getline" =>
        skip
        skip
        go primary fuel (.readCommand (← readTarget? whole primary) e)
      | _, _ => return e

/-- Operands with signs before them and powers. The flag says whether a sign may stand first. -/
def readUnary (whole : Whole) (st : Standing) : Nat → Reading Expr
  | 0 => unexpected
  | fuel + 1 => do
    if ← takes "!" then return .negation (← readUnary whole st fuel)
    else if ← takes "-" then return .minus (← readUnary whole st fuel)
    else if ← takes "+" then return .plus (← readUnary whole st fuel)
    else
      let base ← readPiped whole st
      if ← takes "^" then return .arithmetic .power base (← readUnary whole st fuel)
      else return base

/-- Operands between operators of one kind, from left to right. -/
def readChain (operand : Reading Expr) (operator? : Reading (Option (Expr → Expr → Expr))) :
    Reading Expr := do
  let e ← operand
  go longest e
where
  /-- Reads on while there are operators. -/
  go : Nat → Expr → Reading Expr
    | 0, e => return e
    | fuel + 1, e => do
      match ← operator? with
      | some f => go fuel (f e (← operand))
      | none => return e

/-- Takes an operator if the next token is one of some. -/
def takeOperator (table : List (Octets × (Expr → Expr → Expr))) :
    Reading (Option (Expr → Expr → Expr)) := do
  match ← peek with
  | .sign s =>
    match table.find? (·.1 = s) with
    | some (_, f) =>
      skip
      return some f
    | none => return none
  | _ => return none

/-- Products. -/
def readProduct (whole : Whole) (st : Standing) : Reading Expr :=
  readChain (readUnary whole st longest) (takeOperator
    [("*", .arithmetic .multiply), ("/", .arithmetic .divide), ("%", .arithmetic .remainder)])

/-- Sums. -/
def readSum (whole : Whole) (st : Standing) : Reading Expr :=
  readChain (readProduct whole st) (takeOperator
    [("+", .arithmetic .add), ("-", .arithmetic .subtract)])

/-- An operand may start with the token. -/
def startsOperand : Token → Bool
  | .number _ _ => true
  | .text _ _ => true
  | .regex _ => true
  | .name _ => true
  | .calledName _ => true
  | .builtin _ => true
  | .sign s => s ∈ ["$", "(", "!", "++", "--"]
  | _ => false

/-- Operands that are joined. -/
def readJoined (whole : Whole) (st : Standing) : Reading Expr :=
  readChain (readSum whole st) do
    if startsOperand (← peek) then return some .joined else return none

/-- Comparisons. -/
def readComparison (whole : Whole) (st : Standing) : Reading Expr :=
  let table := [("<", Expr.compared .less), ("<=", .compared .atMost), ("==", .compared .equal),
    ("!=", .compared .unequal), (">=", .compared .atLeast)]
  readChain (readJoined whole st)
    (takeOperator (if st.printed then table else (">", .compared .greater) :: table))

/-- Matches. -/
def readMatch (whole : Whole) (st : Standing) : Reading Expr :=
  readChain (readComparison whole st) (takeOperator [("~", .matched false), ("!~", .matched true)])

/-- Looks for items in arrays. -/
def readMember (whole : Whole) (st : Standing) : Reading Expr := do
  let e ← readMatch whole st
  go longest e
where
  /-- Reads on while items are looked for. -/
  go : Nat → Expr → Reading Expr
    | 0, e => return e
    | fuel + 1, e => do
      if ← isKeyword "in" then
        skip
        match ← peek with
        | .name a =>
          skip
          note a .array
          go fuel (.contains [e] a)
        | _ => unexpected
      else return e

/-- Takes an operator behind which a line may end. -/
def takeJoint (sign : Octets) (f : Expr → Expr → Expr) :
    Reading (Option (Expr → Expr → Expr)) := do
  if ← takes sign then
    skipLines
    return some f
  else return none

/-- Conditions of which one has to hold. -/
def readEither (whole : Whole) (st : Standing) : Reading Expr :=
  readChain (readChain (readMember whole st) (takeJoint "&&" .both)) (takeJoint "||" .either)

/-- The operation of an assignment. -/
def assignment? : Octets → Option (Option Operation)
  | "=" => some none
  | "+=" => some (some .add)
  | "-=" => some (some .subtract)
  | "*=" => some (some .multiply)
  | "/=" => some (some .divide)
  | "%=" => some (some .remainder)
  | "^=" => some (some .power)
  | _ => none

/-- Puts an assignment where its target stands: a sign, a negation or a joint before it is for the
whole assignment. -/
def assigned (operation : Option Operation) (value : Expr) : Expr → Option Expr
  | .negation e => (assigned operation value e).map .negation
  | .minus e => (assigned operation value e).map .minus
  | .plus e => (assigned operation value e).map .plus
  | .both a e => (assigned operation value e).map (.both a)
  | .either a e => (assigned operation value e).map (.either a)
  | .joined a e => (assigned operation value e).map (.joined a)
  | .compared r a e => (assigned operation value e).map (.compared r a)
  | .matched n a e => (assigned operation value e).map (.matched n a)
  | .arithmetic o a e => (assigned operation value e).map (.arithmetic o a)
  | e => if isTarget e then some (.assign e operation value) else none

/-- An expression, nested no deeper than `depth`. -/
def readExpr : Nat → Whole
  | 0, _ => unexpected
  | depth + 1, st => do
    let whole := readExpr depth
    let e ← readEither whole st
    match ← peek with
    | .sign "?" =>
      skip
      skipLines
      let yes ← whole st
      skipLines
      expect ":"
      skipLines
      let no ← whole st
      return .choice e yes no
    | .sign s =>
      match assignment? s with
      | some operation =>
        if (assigned operation e e).isSome then
          skip
          skipLines
          let value ← whole st
          return (assigned operation value e).getD e
        else return e
      | none => return e
    | _ => return e

/-- How deep expressions may be nested. -/
def deepest : Nat := 500

/-- An expression. -/
def expression : Reading Expr :=
  readExpr deepest {}

/-! ### Statements -/

/-- Where a print statement prints to. -/
def readSink : Reading (Option (Sink × Expr)) := do
  match ← peek with
  | .sign ">" => skip; return some (.file, ← expression)
  | .sign ">>" => skip; return some (.append, ← expression)
  | .sign "|" => skip; return some (.command, ← expression)
  | _ => return none

/-- The arguments of a print statement and where it prints to. -/
def readPrinting : Reading (List Expr × Option (Sink × Expr)) := do
  let isSink : Bool := match ← peek with
    | .sign s => s ∈ [">", ">>", "|"]
    | _ => false
  if isSink || (← atEnd) then return ([], ← readSink)
  let es ← readList (readExpr deepest) { printed := true } longest
  let es := match es with
    | [.list es] => es
    | es => es
  return (es, ← readSink)

/-- The end of a statement. -/
def endStatement : Reading Unit := do
  match ← peek with
  | .newline => skipLines
  | .sign ";" =>
    skip
    skipLines
  | .sign "\x7d" => return
  | .endOfText => return
  | _ => unexpected

/-- An expression that a statement may lack. -/
def readOptional : Reading (Option Expr) := do
  if ← atEnd then return none else return some (← expression)

/-- The body of a loop. -/
def inLoop {α : Type} (body : Reading α) : Reading α := do
  modify fun s => { s with loops := s.loops + 1 }
  let a ← body
  modify fun s => { s with loops := s.loops - 1 }
  return a

/-- A loop, behind its keyword. -/
def readFor (statement : Reading Statement) : Reading Statement := do
  expect "("
  let s ← get
  let tokens : List Token := (s.rest.take 4).map (·.token)
  match tokens with
  | .name v :: .keyword "in" :: .name a :: .sign ")" :: _ =>
    set { s with rest := s.rest.drop 4 }
    note v .scalar
    note a .array
    skipLines
    return .each v a (← inLoop statement)
  | _ =>
    let start ← if ← isSign ";" then pure none else some <$> expression
    expect ";"
    skipLines
    let condition ← if ← isSign ";" then pure none else some <$> expression
    expect ";"
    skipLines
    let step ← if ← isSign ")" then pure none else some <$> expression
    expect ")"
    skipLines
    return .loop start condition step (← inLoop statement)

/-- A statement that is a word and perhaps an expression, behind the word. -/
def readWord (word : Octets) : Reading Statement := do
  let s ← get
  let simple (r : Statement) : Reading Statement := do
    endStatement
    return r
  match word with
  | "print" =>
    let (es, sink) ← readPrinting
    simple (.print es sink)
  | "printf" =>
    let (es, sink) ← readPrinting
    if es.isEmpty then refuse "no arguments in call to printf"
    simple (.printBy es sink)
  | "next" =>
    if !s.onRecords then refuse "improper use of next"
    simple .next
  | "nextfile" =>
    if !s.onRecords then refuse "improper use of nextfile"
    simple .nextFile
  | "exit" =>
    let e ← readOptional
    simple (.exit e)
  | "return" =>
    if !s.inRoutine then refuse "return outside function body"
    let e ← readOptional
    simple (.return_ e)
  | "break" =>
    if s.loops = 0 then refuse "break statement outside of loop"
    simple .break_
  | "continue" =>
    if s.loops = 0 then refuse "continue statement outside of loop"
    simple .continue_
  | "delete" =>
    match ← peek with
    | .name a =>
      skip
      note a .array
      if ← takes "[" then
        let keys ← readKeys (readExpr deepest)
        simple (.delete a keys)
      else simple (.deleteAll a)
    | _ => unexpected
  | _ =>
    modify fun t => { t with rest := s.rest }
    unexpected

/-- Statements up to a closing brace. -/
def readStatements (statement : Reading Statement) : Nat → Reading (List Statement)
  | 0 => unexpected
  | fuel + 1 => do
    skipLines
    if ← takes "\x7d" then return []
    match ← peek with
    | .endOfText => unexpected
    | _ =>
      let s ← statement
      return s :: (← readStatements statement fuel)

/-- A statement, nested no deeper than `depth`. -/
def readStatement : Nat → Reading Statement
  | 0 => unexpected
  | depth + 1 => do
    let inner := readStatement depth
    match ← peek with
    | .sign "\x7b" =>
      skip
      let body ← readStatements inner longest
      skipLines
      return .block body
    | .sign ";" =>
      skip
      skipLines
      return .nothing
    | .keyword "if" =>
      skip
      expect "("
      let condition ← expression
      expect ")"
      skipLines
      let yes ← inner
      if ← isKeyword "else" then
        skip
        skipLines
        return .branch condition yes (← inner)
      else return .branch condition yes .nothing
    | .keyword "while" =>
      skip
      expect "("
      let condition ← expression
      expect ")"
      if ← isSign ";" then
        endStatement
        return .whileTrue condition .nothing
      skipLines
      return .whileTrue condition (← inLoop inner)
    | .keyword "do" =>
      skip
      skipLines
      let body ← inLoop inner
      if !(← isKeyword "while") then unexpected
      skip
      expect "("
      let condition ← expression
      expect ")"
      endStatement
      return .doWhile body condition
    | .keyword "for" => skip; readFor inner
    | .keyword w =>
      if w ∈ ["getline", "in", "else", "BEGIN", "END", "function"] then
        if w = "getline" then
          let e ← expression
          endStatement
          return .run e
        else unexpected
      else
        skip
        readWord w
    | _ =>
      let e ← expression
      endStatement
      return .run e

/-! ### Programs -/

/-- A block in braces. -/
def readBlock : Reading Statement := do
  if ← isSign "\x7b" then readStatement deepest else unexpected

/-- The parameters of a routine. -/
def readParameters (routine : Octets) : Nat → List Octets → Reading (List Octets)
  | 0, _ => unexpected
  | fuel + 1, names => do
    match ← peek with
    | .name n =>
      if n = routine then refuse "function parameter cannot be the function"
      if names.contains n then refuse s!"{n} is duplicated in argument list"
      skip
      skipLines
      if ← takes "," then
        skipLines
        readParameters routine fuel (n :: names)
      else
        expect ")"
        return (n :: names).reverse
    | _ => unexpected

/-- A routine, behind its keyword. -/
def readRoutine : Reading Routine := do
  let name ← match ← peek with
    | .name n => pure n
    | .calledName n => pure n
    | _ => unexpected
  skip
  expect "("
  let parameters ← if ← takes ")" then pure [] else readParameters name longest []
  skipLines
  modify fun s =>
    { s with locals := parameters.map (·, none), inRoutine := true, onRecords := false }
  let body ← readBlock
  modify fun s => { s with locals := [], inRoutine := false }
  return { name, parameters, body }

/-- A rule. -/
def readRule : Reading Rule := do
  modify fun s => { s with onRecords := true }
  let printing : Statement := .print [] none
  let selector ← if ← isSign "\x7b" then pure Selector.all
    else do
      let first ← expression
      if ← takes "," then
        skipLines
        let last ← expression
        let n := (← get).ranges
        modify fun s => { s with ranges := n + 1 }
        pure (.range n first last)
      else pure (.one first)
  if ← isSign "\x7b" then
    return { selector, body := ← readBlock }
  else
    match ← peek with
    | .newline | .endOfText | .sign ";" => return { selector, body := printing }
    | _ => unexpected

/-- The items of a program. -/
def readItems : Nat → Program → Reading Program
  | 0, p => return p
  | fuel + 1, p => do
    skipLines
    match ← peek with
    | .endOfText => return p
    | .keyword "BEGIN" =>
      skip
      modify fun s => { s with onRecords := false }
      let b ← readBlock
      separate
      readItems fuel { p with starts := p.starts ++ [b] }
    | .keyword "END" =>
      skip
      modify fun s => { s with onRecords := false }
      let b ← readBlock
      separate
      readItems fuel { p with ends := p.ends ++ [b] }
    | .keyword "function" =>
      skip
      let r ← readRoutine
      separate
      readItems fuel { p with routines := p.routines ++ [r] }
    | _ =>
      let r ← readRule
      separate
      readItems fuel { p with rules := p.rules ++ [r] }
where
  /-- What may stand between items. -/
  separate : Reading Unit := do
    skipLines
    let _ ← takes ";"

/-- Checks that the routines that are called are there. -/
def checkCalls (p : Program) : Reading Unit := do
  let s ← get
  for (name, count, line) in s.calls.reverse do
    match p.routines.find? (·.name = name) with
    | none => throw (Fault.at_ (← Reading.line) s!"function {name} never defined")
    | some r =>
      if r.parameters.length < count then
        throw (Fault.at_ line s!"too many arguments in call to {name}")

/-- Reads a program. -/
def Program.read (text : Octets) : Except Fault Program := do
  let text := if text.endsWith "\n" then text else text ++ "\n"
  let tokens ← Token.ofProgram text
  let act : Reading Program := do
    let p ← readItems tokens.length.succ {}
    checkCalls p
    return p
  let (p, _) ← act.run { rest := tokens }
  return p

end Mender.Records
