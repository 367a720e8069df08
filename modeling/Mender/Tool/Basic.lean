import Mender.Shell.Machine
import Mender.Shell.Numeral
import Mender.Shell.Octets

/-!
# Tools

A tool sees its arguments, its input, the variables that were exported and the files. It prints to
its two outputs, may change the files, and ends with a status.
-/

namespace Mender

/-! ## Names in messages

How tools write names and other arguments in their messages: in quotes, so that a shell would read
the same name again.
-/

namespace Naming

/-- A character that can be printed. -/
def isPrintable (c : Char) : Bool :=
  32 ≤ c.toNat && c.toNat < 127

/-- A character that means something to a shell at a position of a name. -/
def isSpecial (length position : Nat) (c : Char) : Bool :=
  !isPrintable c || " ?\\!\"$&()*;<=>[^|'".toList.contains c || c == '`' ||
    (position == 0 && (c == '#' || c == '~')) || (length == 1 && (c == '{' || c == '}'))

/-- A character that double quotes keep as it is. -/
def isPlain (position : Nat) (c : Char) : Bool :=
  c.isAlphanum || "%+,-./:]_ '".toList.contains c || (position == 0 && (c == '#' || c == '~'))

/-- A character after a backslash. -/
def escaped (c : Char) : List Char :=
  let letter : Option Char := match c with
    | '\x07' => some 'a'
    | '\x08' => some 'b'
    | '\x0c' => some 'f'
    | '\n' => some 'n'
    | '\r' => some 'r'
    | '\t' => some 't'
    | '\x0b' => some 'v'
    | _ => none
  match letter with
  | some l => ['\\', l]
  | none =>
    let digits := Nat.toDigits 8 c.toNat
    '\\' :: (List.replicate (3 - digits.length) '0' ++ digits)

/-- The inside of a name in single quotes; the flag says whether an escape is open. -/
def inner : Bool → List Char → List Char
  | _, [] => ['\'']
  | isOpen, c :: cs =>
    if !isPrintable c then
      (if isOpen then [] else ['\'', '$', '\'']) ++ escaped c ++ inner true cs
    else
      let start : List Char := if isOpen then ['\'', '\''] else []
      if c = '\'' then start ++ ['\'', '\\', '\'', '\''] ++ inner false cs
      else start ++ c :: inner false cs

/-- A name in quotes. -/
def quoted (s : Octets) : Octets :=
  let cs := s.toList
  if cs.contains '\'' && (cs.mapIdx fun i c => isPlain i c).all id then "\"" ++ s ++ "\""
  else String.ofList ('\'' :: inner false cs)

/-- A name, in quotes if a shell would not read it otherwise. -/
def shown (s : Octets) : Octets :=
  let cs := s.toList
  if cs.isEmpty || cs.contains ':' || (cs.mapIdx fun i c => isSpecial cs.length i c).any id then
    quoted s
  else s

end Naming

/-! ## What a tool sees and does -/

/-- What a tool sees. -/
structure Scene where
  machine : Shell.Machine
  here : TreePlace
  /-- What can be read from the input. -/
  input : List Char := []
  /-- What was read of the input can be given back. -/
  seekable : Bool := false
  /-- The input is open. -/
  hasInput : Bool := true
  environment : List (Octets × Octets) := []
  /-- What new files do not allow. -/
  umask : Nat := 0o022
  /-- The file that is printed to, if it is one. -/
  outputPlace : Option TreePlace := none

/-- What a tool did. -/
structure Ran where
  /-- What it printed, in order, with the descriptor. -/
  printed : List (Nat × Octets) := []
  status : Nat := 0
  /-- The files when it changed them. -/
  tree : Option FileTree := none
  /-- The input that it left. -/
  unread : Option (List Char) := none
  /-- The seconds that it took. -/
  seconds : Float := 0.0
  /-- It would go on printing as long as it is read. -/
  endless : Bool := false

/-- A tool, as a function of its arguments. -/
abbrev Tool := List Octets → Scene → Ran

namespace Ran

/-- Prints a text. -/
def output (s : Octets) : Ran :=
  { printed := [(1, s)] }

/-- Ends with a status. -/
def ended (status : Nat) : Ran :=
  { status }

/-- Prints a complaint. -/
def complaint (status : Nat) (s : Octets) : Ran :=
  { printed := [(2, s ++ "\n")], status }

/-- One run after another, with the higher status. -/
def then_ (a b : Ran) : Ran :=
  { printed := a.printed ++ b.printed, status := max a.status b.status
    tree := b.tree.orElse fun _ => a.tree, unread := b.unread.orElse fun _ => a.unread
    seconds := a.seconds + b.seconds, endless := a.endless || b.endless }

/-- Many runs after one another. -/
def all (rs : List Ran) : Ran :=
  rs.foldl then_ {}

/-- The status, whatever was printed. -/
def withStatus (r : Ran) (status : Nat) : Ran :=
  { r with status }

/-- The run took all of its input. -/
def takingAll (r : Ran) : Ran :=
  { r with unread := some [] }

/-- Complaints come before the rest of what was printed. -/
def buffered (r : Ran) : Ran :=
  { r with printed := r.printed.filter (·.1 = 2) ++ r.printed.filter (·.1 ≠ 2) }

end Ran

namespace Scene

/-- A name stands for the input. -/
def isInput (name : Octets) : Bool :=
  ["-", "/dev/stdin", "/dev/fd/0"].contains name

/-- The content of a file, or what can be read from the input. -/
def content (s : Scene) (name : Octets) : Except PathFault Octets :=
  if isInput name then .ok (String.ofList s.input) else s.machine.content s.here name

/-- What a name leads to. -/
def find (s : Scene) (name : Octets) : Except PathFault (TreePlace × Shell.Node) :=
  s.machine.find s.here name

/-- What a name leads to, where a link at its end is not followed. -/
def findItself (s : Scene) (name : Octets) : Except PathFault (TreePlace × Shell.Node) :=
  s.machine.findItself s.here name

/-- What a name leads to. -/
def look? (s : Scene) (name : Octets) : Option Shell.Node :=
  s.machine.look? s.here name

/-- The scene after the files have changed. -/
def withTree (s : Scene) (tree : FileTree) : Scene :=
  { s with machine := { s.machine with tree } }

end Scene

/-- An option of a call: a letter or a word, with its value if it takes one. -/
structure GivenOption where
  name : Octets
  value : Option Octets := none
  deriving Repr

/-- The options and operands of a call. -/
structure Call where
  options : List GivenOption := []
  operands : List Octets := []
  deriving Repr

/-- Whether an option that is a word has a value. -/
inductive ValueRule where
  | never
  | maybe
  | always
  deriving DecidableEq, Repr

/-- An option that is a word. -/
structure LongOption where
  name : Octets
  /-- The letter that it stands for. -/
  letter : Char
  value : ValueRule := .never

/-- The options that a tool knows. -/
structure OptionTable where
  /-- Letters that stand alone. -/
  flags : Octets := ""
  /-- Letters that take a value. -/
  valued : Octets := ""
  long : List LongOption := []
  /-- Operands end the options. -/
  inOrder : Bool := false

/-- Why a call is refused. -/
inductive Misuse where
  | unknownLetter (c : Char)
  | unknownWord (word : Octets)
  | ambiguous (word : Octets)
  | missingValue (c : Char)
  | missingValueOf (word : Octets)
  | unwantedValue (word : Octets)

namespace Misuse

/-- What a tool says of a call that it refuses. -/
def text (tool : Octets) : Misuse → Octets
  | .unknownLetter c => s!"{tool}: invalid option -- '{c}'"
  | .unknownWord w => s!"{tool}: unrecognized option '{w}'"
  | .ambiguous w => s!"{tool}: option '{w}' is ambiguous"
  | .missingValue c => s!"{tool}: option requires an argument -- '{c}'"
  | .missingValueOf w => s!"{tool}: option '{w}' requires an argument"
  | .unwantedValue w => s!"{tool}: option '{w}' doesn't allow an argument"

/-- A refused call. -/
def run (tool : Octets) (status : Nat) (m : Misuse) : Ran :=
  .complaint status (m.text tool ++ s!"\nTry '{tool} --help' for more information.")

end Misuse

namespace OptionTable

/-- Reads the letters of one argument; `next` is the argument behind it. Tells whether that was
used. -/
def readLetters (t : OptionTable) (next : Option Octets) :
    List Char → Except Misuse (List GivenOption × Bool)
  | [] => .ok ([], false)
  | c :: cs =>
    if t.flags.toList.contains c then do
      let (options, used) ← readLetters t next cs
      return (⟨String.singleton c, none⟩ :: options, used)
    else if t.valued.toList.contains c then
      if cs.isEmpty then
        match next with
        | some v => .ok ([⟨String.singleton c, some v⟩], true)
        | none => .error (.missingValue c)
      else .ok ([⟨String.singleton c, some (String.ofList cs)⟩], false)
    else .error (.unknownLetter c)

/-- Reads an option that is a word; a unique start of a word stands for it. -/
def readWord (t : OptionTable) (next : Option Octets) (text : Octets) :
    Except Misuse (GivenOption × Bool) :=
  let word := String.ofList (text.toList.takeWhile (· != '='))
  let value : Option Octets :=
    if word.length = text.length then none
    else some (String.ofList (text.toList.drop (word.length + 1)))
  let name := String.ofList (word.toList.drop 2)
  let exact := t.long.filter fun l => l.name = name
  let found := if exact.isEmpty then t.long.filter fun l => l.name.startsWith name else exact
  match found with
  | [] => .error (.unknownWord text)
  | l :: others =>
    let given (v : Option Octets) : GivenOption := ⟨String.singleton l.letter, v⟩
    if others.any fun o => o.letter != l.letter then .error (.ambiguous text)
    else
      match l.value, value with
      | .never, some _ => .error (.unwantedValue s!"--{l.name}")
      | .always, none =>
        match next with
        | some v => .ok (given (some v), true)
        | none => .error (.missingValueOf s!"--{l.name}")
      | _, v => .ok (given v, false)

/-- Reads the arguments of a call. The count says how many were used already. -/
def readFrom (t : OptionTable) : Nat → List Octets → Except Misuse Call
  | _, [] => .ok {}
  | skip + 1, _ :: rest => readFrom t skip rest
  | 0, a :: rest =>
    if a = "--" then .ok { operands := rest }
    else if a.startsWith "--" then do
      let (option, used) ← t.readWord rest.head? a
      let call ← readFrom t (if used then 1 else 0) rest
      return { call with options := option :: call.options }
    else if a.startsWith "-" && a != "-" then do
      let (options, used) ← t.readLetters rest.head? (a.toList.drop 1)
      let call ← readFrom t (if used then 1 else 0) rest
      return { call with options := options ++ call.options }
    else if t.inOrder then .ok { operands := a :: rest }
    else do
      let call ← readFrom t 0 rest
      return { call with operands := a :: call.operands }

/-- Reads the arguments of a call. -/
def read (t : OptionTable) (arguments : List Octets) : Except Misuse Call :=
  t.readFrom 0 arguments

end OptionTable

namespace Call

/-- An option was given. -/
def has (c : Call) (letter : Char) : Bool :=
  c.options.any (·.name = String.singleton letter)

/-- The value of the last option of a name. -/
def value? (c : Call) (letter : Char) : Option Octets :=
  (c.options.reverse.find? (·.name = String.singleton letter)).bind (·.value)

/-- The values of all options of a name. -/
def values (c : Call) (letter : Char) : List Octets :=
  (c.options.filter (·.name = String.singleton letter)).filterMap (·.value)

/-- The last of some letters that was given. -/
def last? (c : Call) (letters : Octets) : Option Char :=
  (c.options.reverse.find? fun o => letters.toList.any fun l => o.name = String.singleton l).bind
    (·.name.toList.head?)

end Call

/-- A tool that refuses wrong options. -/
def Tool.withOptions (name : Octets) (status : Nat) (table : OptionTable)
    (run : Call → Scene → Ran) : Tool := fun arguments scene =>
  match table.read arguments with
  | .ok call => run call scene
  | .error m => m.run name status

/-- Runs on each file that is named, with its name, or on the input when none is. -/
def Scene.overNamedFiles (s : Scene) (names : List Octets) (refuse : Octets → PathFault → Ran)
    (run : Octets → Octets → Ran) : Ran :=
  let names := if names.isEmpty then ["-"] else names
  let (r, _) := names.foldl
    (fun (r, (s : Scene)) name =>
      match s.content name with
      | .ok text =>
        if Scene.isInput name then (r.then_ (run name text).takingAll, { s with input := [] })
        else (r.then_ (run name text), s)
      | .error fault => (r.then_ (refuse name fault), s))
    (({} : Ran), s)
  r

/-- Runs on each file that is named, or on the input when none is. -/
def Scene.overFiles (s : Scene) (names : List Octets) (refuse : Octets → PathFault → Ran)
    (run : Octets → Ran) : Ran :=
  s.overNamedFiles names refuse fun _ => run

/-- The complaint of a tool about a file. -/
def Ran.unreadable (tool : Octets) (status : Nat) (name : Octets) (fault : PathFault) : Ran :=
  .complaint status s!"{tool}: {Naming.shown name}: {fault.text}"

/-- The complaint of a tool about a file that it cannot open. -/
def Ran.unopened (tool : Octets) (name : Octets) (fault : PathFault) : Ran :=
  let name := Naming.quoted name
  if fault = .isDirectory then .complaint 1 s!"{tool}: error reading {name}: {fault.text}"
  else .complaint 1 s!"{tool}: cannot open {name} for reading: {fault.text}"

/-! ## Amounts

Numbers of lines and bytes in the arguments of tools: digits, with a letter behind them that
multiplies them.
-/

/-- An amount in the arguments of a tool. -/
structure Amount where
  count : Nat := 0
  /-- A minus sign stands before it. -/
  negative : Bool := false
  /-- A plus sign stands before it. -/
  positive : Bool := false
  deriving DecidableEq, Repr

namespace Amount

/-- The letters that stand for growing powers. -/
def powers : List Char :=
  ['K', 'M', 'G', 'T', 'P', 'E']

/-- What the letters behind a number multiply it with. -/
def factor? : List Char → Option Nat
  | [] => some 1
  | ['b'] => some 512
  | ['B'] => some 1
  | c :: rest =>
    match powers.idxOf? (if c = 'k' then 'K' else if c = 'm' then 'M' else c) with
    | none => none
    | some i =>
      if rest.isEmpty || rest = ['i', 'B'] then some (Nat.pow 1024 (i + 1))
      else if rest = ['B'] then some (Nat.pow 1000 (i + 1))
      else none

/-- Reads an amount without a sign. -/
def magnitude? (cs : List Char) : Option Nat :=
  let digits := cs.takeWhile Char.isDigit
  if digits.isEmpty then none
  else (factor? (cs.drop digits.length)).map (Octets.value digits * ·)

/-- Reads an amount. -/
def read? (s : Octets) : Option Amount :=
  match s.toList with
  | '-' :: cs => (magnitude? cs).map fun n => { count := n, negative := true }
  | '+' :: cs => (magnitude? cs).map fun n => { count := n, positive := true }
  | cs => (magnitude? cs).map fun n => { count := n }

/-- Reads digits alone. -/
def digits? (s : Octets) : Option Nat :=
  if Octets.isNumber s then some (Octets.value s.toList) else none

end Amount

/-! ## Waiting

Durations, and tools that take time.
-/

namespace Duration

/-- The seconds that a unit stands for. -/
def unit? : List Char → Option Float
  | [] => some 1.0
  | ['s'] => some 1.0
  | ['m'] => some 60.0
  | ['h'] => some 3600.0
  | ['d'] => some 86400.0
  | _ => none

/-- The seconds that a duration stands for. -/
def read? (s : Octets) : Option Float :=
  let (x, rest) := Shell.Numeral.readReal s.toList
  if rest.length = s.length || !(0.0 ≤ x) then none else (unit? rest).map (x * ·)

end Duration

/-- Waits for some time. -/
def sleep : Tool := .withOptions "sleep" 1 {} fun call _ =>
  let wrong := call.operands.filter fun a => (Duration.read? a).isNone
  if call.operands.isEmpty then
    .complaint 1 "sleep: missing operand\nTry 'sleep --help' for more information."
  else if wrong.isEmpty then
    { seconds := call.operands.foldl (fun x a => x + (Duration.read? a).getD 0.0) 0.0 }
  else
    .complaint 1 (Octets.lines (wrong.map fun a => s!"sleep: invalid time interval '{a}'") ++
      "Try 'sleep --help' for more information.")

/-- The lines that a tool prints before it is stopped. -/
def endlessLines : Nat := 20000

/-- Prints a line again and again. -/
def yes : Tool := .withOptions "yes" 1 {} fun call _ =>
  let line := if call.operands.isEmpty then "y" else Text.joined " " call.operands
  { Ran.output (Octets.lines (List.replicate endlessLines line)) with endless := true }

end Mender
