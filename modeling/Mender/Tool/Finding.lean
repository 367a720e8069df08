import Mender.Tool.Basic
import Mender.Tool.Modes
import Mender.Tool.Regex
import Mender.Tool.Work

/-!
# Searches for files

Conditions on files, and how they are written.
-/

namespace Mender.Finding

/-!
## Conditions on found files

A search visits what is below some places and evaluates a condition on each. A condition is made of
tests, which only look, and of actions, which do something and may fail.
-/

/-- How an amount is compared. -/
inductive Comparison where
  | exactly
  | more
  | less
  deriving DecidableEq, Repr

/-- The comparison holds of an amount. -/
def Comparison.holds (c : Comparison) (wanted n : Nat) : Bool :=
  match c with
  | .exactly => n == wanted
  | .more => wanted < n
  | .less => n < wanted

/-- How permissions are compared. -/
inductive Permission where
  | exactly
  | all
  | any
  deriving DecidableEq, Repr

/-- What is looked at. -/
inductive Test where
  | always (holds : Bool)
  /-- The last component of the name matches a pattern. -/
  | name (pattern : Octets) (fold : Bool)
  /-- The whole name matches a pattern. -/
  | path (pattern : Octets) (fold : Bool)
  | expression (r : Regex)
  | kind (letters : List Char)
  /-- The size in units, rounded up. -/
  | size (c : Comparison) (count unit : Nat)
  | permission (p : Permission) (mode : Bool → Nat)
  | isEmpty
  /-- The age in whole units of time. -/
  | age (c : Comparison) (count : Nat)
  | links (c : Comparison) (count : Nat)
  | runnable
  | same (place : TreePlace)

/-- What is done with a found file. -/
inductive Action where
  /-- Prints the name and a text behind it. -/
  | print (stop : Octets)
  | printBy (format : Octets)
  | delete
  | prune
  | quit
  /-- Runs a command on it, perhaps where it is. -/
  | execute (command : List Octets) (there : Bool)
  /-- Runs a command on all files found, in the end; the number tells such actions apart. -/
  | executeAll (command : List Octets) (number : Nat)

/-- A condition. -/
inductive Condition where
  | test (t : Test)
  | act (a : Action)
  | not (c : Condition)
  | and (c d : Condition)
  | or (c d : Condition)
  /-- Both are evaluated, and the second one counts. -/
  | both (c d : Condition)

namespace Condition

/-- The actions of a condition. -/
def actions : Condition → List Action
  | .test _ => []
  | .act a => [a]
  | .not c => actions c
  | .and c d => actions c ++ actions d
  | .or c d => actions c ++ actions d
  | .both c d => actions c ++ actions d

end Condition

/-- An action takes the place of printing names. -/
def Action.replacesPrinting : Action → Bool
  | .prune => false
  | .quit => false
  | _ => true

/-- A search. -/
structure Plan where
  starts : List Octets
  condition : Condition
  /-- How deep below its start a file is at least and at most. -/
  least : Nat := 0
  most : Option Nat := none
  /-- What is in a directory comes before it. -/
  deepFirst : Bool := false

/-- A file that was found. -/
structure Entry where
  path : Octets
  /-- The name that the search started from. -/
  start : Octets
  place : TreePlace
  node : Shell.Node
  depth : Nat

namespace Entry

/-- The letter of the kind of file. -/
def kindLetter (e : Entry) : Char :=
  match e.node with
  | .file _ | .program => 'f'
  | .directory => 'd'
  | .device _ => 'c'
  | .link _ => 'l'

/-- The size in bytes. -/
def size (e : Entry) : Nat :=
  match e.node with
  | .file content => content.length
  | .directory => 4096
  | .device _ | .program => 0
  | .link path => path.utf8ByteSize

/-- The last component of the name. -/
def base (e : Entry) : Octets :=
  FileName.base e.path

end Entry

/-- A text with both cases of letters the same. -/
def foldCase (fold : Bool) (s : Octets) : List Char :=
  if fold then s.toList.map Char.toLower else s.toList

namespace Test

/-- A test holds of a file. -/
def holds (m : Shell.Machine) (e : Entry) : Test → Bool
  | .always b => b
  | .name pattern fold => Shell.Wildcard.matchesAll (foldCase fold pattern) (foldCase fold e.base)
  | .path pattern fold => Shell.Wildcard.matchesAll (foldCase fold pattern) (foldCase fold e.path)
  | .expression r =>
    let t := e.path.toList.toArray
    (Regex.endsFrom t r 0).contains t.size
  | .kind letters => letters.contains e.kindLetter
  | .size c count unit => c.holds count ((e.size + unit - 1) / unit)
  | .permission p mode =>
    let wanted := mode (e.node = .directory)
    let actual := m.mode e.place
    match p with
    | .exactly => actual == wanted
    | .all => Nat.land actual wanted == wanted
    | .any => wanted == 0 || Nat.land actual wanted != 0
  | .isEmpty =>
    match e.node with
    | .file content => content.isEmpty
    | .directory => (m.names e.place).isEmpty
    | _ => false
  | .age c count => c.holds count 0
  | .links c count => c.holds count (if e.node = .directory then 2 else 1)
  | .runnable => e.node = .directory || m.isExecutable e.place
  | .same place => e.place = place

end Test

/-- What a letter in a format stands for. -/
def detail? (m : Shell.Machine) (e : Entry) : Char → Option Octets
  | 'p' => some e.path
  | 'f' => some e.base
  | 'h' => some (if e.path.toList.contains '/' then FileName.directory e.path else ".")
  | 'H' => some e.start
  | 'P' =>
    let rest := e.path.toList.drop e.start.length
    some (String.ofList (if rest.head? = some '/' then rest.tail else rest))
  | 'd' => some (toString e.depth)
  | 's' => some (toString e.size)
  | 'm' => some (Mode.digits (m.mode e.place))
  | 'M' =>
    let letter := match e.node with
      | .directory => 'd'
      | .device _ => 'c'
      | .file _ | .program => '-'
      | .link _ => 'l'
    some (String.singleton letter ++ Mode.letters (m.mode e.place))
  | 'y' => some (String.singleton e.kindLetter)
  | 'n' => some (if e.node = .directory then "2" else "1")
  | 'u' | 'g' => some "root"
  | 'U' | 'G' => some "0"
  | 'l' =>
    match e.node with
    | .link path => some (Octets.ofText path)
    | _ => some ""
  | _ => none

/-- The character that a letter after a backslash stands for in a format. -/
def escapeOf? : Char → Option Char
  | 'a' => some '\x07'
  | 'b' => some '\x08'
  | 'f' => some '\x0c'
  | 'n' => some '\n'
  | 'r' => some '\r'
  | 't' => some '\t'
  | 'v' => some '\x0b'
  | '\\' => some '\\'
  | _ => none

/-- What is printed for a file by a format. -/
def formatted (m : Shell.Machine) (e : Entry) : Nat → List Char → List Char
  | 0, _ => []
  | _, [] => []
  | fuel + 1, '\\' :: c :: rest =>
    if c = 'c' then []
    else
      let digits := ((c :: rest).take 3).takeWhile fun c => '0' ≤ c && c ≤ '7'
      if !digits.isEmpty then
        Char.ofNat (Shell.Numeral.digitsValue 8 digits % 256) ::
          formatted m e fuel ((c :: rest).drop digits.length)
      else
        match escapeOf? c with
        | some d => d :: formatted m e fuel rest
        | none => '\\' :: c :: formatted m e fuel rest
  | fuel + 1, '%' :: '%' :: rest => '%' :: formatted m e fuel rest
  | fuel + 1, '%' :: rest =>
    let flags := rest.takeWhile fun c => c == '-' || c == '0' || c == '#' || c == '+' || c == ' '
    let digits := (rest.drop flags.length).takeWhile Char.isDigit
    let width := Octets.value digits
    match rest.drop (flags.length + digits.length) with
    | [] => '%' :: rest
    | c :: after =>
      match detail? m e c with
      | some s =>
        let blanks := List.replicate (width - s.length) ' '
        let text := if flags.contains '-' then s.toList ++ blanks else blanks ++ s.toList
        text ++ formatted m e fuel after
      | none => '%' :: (flags ++ digits ++ c :: formatted m e fuel after)
  | fuel + 1, c :: rest => c :: formatted m e fuel rest

/-!
## How conditions on files are written

Reads the arguments of a search: the places to start from, then a condition. Tests that follow one
another have to hold together; `-o` stands between choices, a comma between conditions of which the
last one counts.
-/

/-- What can be wrong with a search. -/
inductive Fault where
  | missing (word : Octets)
  | unknown (word : Octets)
  | misplaced (word : Octets) (exists_ : Bool) (before : Option Octets)
  | nothingBefore (word : Octets)
  | nothingAfter (word : Octets)
  | emptyParentheses
  | unclosed
  | closing
  | other (text : Octets)
  deriving DecidableEq, Repr

/-- A word of the command between a grave accent and an apostrophe. -/
def marked (s : Octets) : Octets :=
  "`" ++ s ++ "'"

/-- A fault in words. -/
def Fault.text : Fault → Octets
  | .missing w => s!"find: missing argument to {marked w}"
  | .unknown w => s!"find: unknown predicate {marked w}"
  | .misplaced w exists_ before =>
    let hint := match before with
      | some b => s!"\nfind: possible unquoted pattern after predicate {marked b}?"
      | none => ""
    s!"find: paths must precede expression: {marked w}" ++ if exists_ then hint else ""
  | .nothingBefore w =>
    s!"find: invalid expression; you have used a binary operator '{w}' with nothing before it."
  | .nothingAfter w => s!"find: expected an expression after '{w}'"
  | .emptyParentheses => "find: invalid expression; empty parentheses are not allowed."
  | .unclosed =>
    "find: invalid expression; I was expecting to find a ')' somewhere but did not see one."
  | .closing => "find: you have too many ')'"
  | .other s => "find: " ++ s

/-- A part of a condition as it is written. -/
inductive Token where
  | leaf (c : Condition) (word : Octets)
  | not (word : Octets)
  | and (word : Octets)
  | or (word : Octets)
  | both
  | opening
  | closing

/-- What holds for the whole search. -/
structure Settings where
  least : Nat := 0
  most : Option Nat := none
  deepFirst : Bool := false
  /-- Regular expressions are in the extended form. -/
  extended : Bool := false

/-- The argument starts the condition. -/
def startsCondition (a : Octets) : Bool :=
  match a.toList with
  | '-' :: _ :: _ => true
  | ['('] | ['!'] => true
  | _ => false

/-- The argument is a part of the condition. -/
def isPart (a : Octets) : Bool :=
  startsCondition a || a = ")" || a = ","

/-- An amount with a sign that says how it is compared. -/
def readAmount? (s : Octets) : Option (Comparison × Nat) :=
  let (c, digits) := match s.toList with
    | '+' :: cs => (Comparison.more, cs)
    | '-' :: cs => (Comparison.less, cs)
    | cs => (Comparison.exactly, cs)
  if digits.isEmpty || !digits.all Char.isDigit then none else some (c, Octets.value digits)

/-- A size: an amount and a unit. -/
def readSize (s : Octets) : Except Fault Test :=
  let cs := s.toList
  let unit : Char → Option Nat
    | 'b' => some 512
    | 'c' => some 1
    | 'w' => some 2
    | 'k' => some 1024
    | 'M' => some 1048576
    | 'G' => some 1073741824
    | _ => none
  match cs.getLast? with
  | none => .error (.other "invalid null argument to -size")
  | some last =>
    let (digits, unit?) : Octets × Option Nat :=
      if last.isDigit then (s, some 512) else (String.ofList cs.dropLast, unit last)
    match unit?, readAmount? digits with
    | none, _ => .error (.other s!"invalid -size type {marked (String.singleton last)}")
    | some u, some (c, n) => .ok (.size c n u)
    | _, none => .error (.other s!"Invalid argument {marked s} to -size")

/-- Permissions to be compared. -/
def readPermission (s : Octets) : Except Fault Test :=
  let (p, text) := match s.toList with
    | '-' :: cs => (Permission.all, String.ofList cs)
    | '/' :: cs => (Permission.any, String.ofList cs)
    | _ => (Permission.exactly, s)
  match Mode.read? 0 text with
  | some f => .ok (.permission p fun isDirectory => f isDirectory 0)
  | none => .error (.other s!"invalid mode '{s}'")

/-- The kinds of files that letters stand for. -/
def readKinds (word s : Octets) : Except Fault Test := do
  let parts := Text.splitText [','] s.toList
  if s.isEmpty then .error (.other s!"Arguments to {word} should contain at least one letter")
  let letters ← parts.mapM fun part =>
    match part with
    | [c] =>
      if "bcdpflsD".toList.contains c then Except.ok c
      else .error (.other s!"Unknown argument to {word}: {c}")
    | c :: _ =>
      if "bcdpflsD".toList.contains c then
        .error (.other s!"Must separate multiple arguments to {word} using: ','")
      else .error (.other s!"Unknown argument to {word}: {c}")
    | [] => .error (.other s!"Last file type in list argument to {word} is missing")
  return .kind letters

/-- Exchanges the signs that act behind a backslash and those that act without one. -/
def exchanged : List Char → List Char
  | '\\' :: c :: cs =>
    if "()|{}".toList.contains c then c :: exchanged cs else '\\' :: c :: exchanged cs
  | c :: cs =>
    if "()|{}".toList.contains c then '\\' :: c :: exchanged cs else c :: exchanged cs
  | [] => []

/-- A regular expression for whole names. -/
def readExpression (extended fold : Bool) (s : Octets) : Except Fault Test :=
  let text := if extended then s else String.ofList (exchanged s.toList)
  match Regex.read { extended := true, fold } text with
  | .ok (r, _) => .ok (.expression r)
  | .error f => .error (.other s!"failed to compile regular expression '{s}': {f.text}")

/-- The command of an action, up to its end, and whether it is for all files at once. -/
def readCommand (word : Octets) (args : List Octets) :
    Except Fault (List Octets × Bool × List Octets) :=
  go [] args
where
  /-- Reads on behind the arguments taken, which are in reverse. -/
  go (taken : List Octets) : List Octets → Except Fault (List Octets × Bool × List Octets)
    | [] => .error (.missing word)
    | a :: rest =>
      if a = ";" then
        if taken.isEmpty then .error (.missing word) else .ok (taken.reverse, false, rest)
      else if a = "+" && taken.head? = some "{}" && 1 < taken.length then
        .ok (taken.tail.reverse, true, rest)
      else go (a :: taken) rest

/-- Tests without an argument. -/
def plainTest? : Octets → Option Test
  | "-true" => some (.always true)
  | "-false" => some (.always false)
  | "-empty" => some .isEmpty
  | "-readable" | "-writable" => some (.always true)
  | "-executable" => some .runnable
  | "-nouser" | "-nogroup" => some (.always false)
  | _ => none

/-- Actions without an argument. -/
def plainAction? : Octets → Option Action
  | "-print" => some (.print "\n")
  | "-print0" => some (.print "\x00")
  | "-delete" => some .delete
  | "-prune" => some .prune
  | "-quit" => some .quit
  | _ => none

/-- Words that change nothing here. -/
def idleWords : List Octets :=
  ["-mount", "-xdev", "-noleaf", "-follow", "-daystart", "-nowarn", "-warn",
    "-ignore_readdir_race", "-noignore_readdir_race"]

/-- Words with an argument that start a test. -/
def valuedWords : List Octets :=
  ["-name", "-iname", "-path", "-ipath", "-wholename", "-iwholename", "-regex", "-iregex", "-type",
    "-xtype", "-size", "-perm", "-newer", "-anewer", "-cnewer", "-mtime", "-atime", "-ctime",
    "-mmin", "-amin", "-cmin", "-links", "-user", "-group", "-uid", "-gid", "-inum", "-samefile",
    "-lname", "-ilname"]

/-- A test with its argument. -/
def readTest (scene : Scene) (s : Settings) (word value : Octets) : Except Fault Test := do
  let amount : Except Fault (Comparison × Nat) :=
    match readAmount? value with
    | some x => .ok x
    | none => .error (.other s!"invalid argument {marked value} to {marked word}")
  let file : Except Fault TreePlace :=
    match scene.find value with
    | .ok (place, _) => .ok place
    | .error f => .error (.other s!"{Naming.quoted value}: {f.text}")
  match word with
  | "-name" => return .name value false
  | "-iname" => return .name value true
  | "-path" | "-wholename" => return .path value false
  | "-ipath" | "-iwholename" => return .path value true
  | "-regex" => readExpression s.extended false value
  | "-iregex" => readExpression s.extended true value
  | "-type" | "-xtype" => readKinds word value
  | "-size" => readSize value
  | "-perm" => readPermission value
  | "-newer" | "-anewer" | "-cnewer" =>
    let _ ← file
    return .always false
  | "-samefile" => return .same (← file)
  | "-links" =>
    let (c, n) ← amount
    return .links c n
  | "-user" | "-group" =>
    if value = "root" || value = "0" then return .always true
    else if Octets.isNumber value then return .always false
    else
      let kind := if word = "-user" then "user" else "group"
      .error (.other (Naming.quoted value ++
        if word = "-user" then s!" is not the name of a known {kind}"
        else s!" is not the name of an existing {kind}"))
  | "-uid" | "-gid" =>
    let (c, n) ← amount
    return .always (c.holds n 0)
  | "-inum" | "-lname" | "-ilname" => return .always false
  | _ =>
    let (c, n) ← amount
    return .age c n

/-- A whole number that a setting needs. -/
def readDepth (word value : Octets) : Except Fault Nat :=
  if Octets.isNumber value then .ok (Octets.value value.toList)
  else .error (.other
    s!"Expected a positive decimal integer argument to {word}, but got {Naming.quoted value}")

/-- Reads the parts of a condition. `before` is the word that was read last. -/
def readTokens (scene : Scene) : Nat → Settings → Option Octets → List Octets →
    Except Fault (List Token × Settings)
  | 0, s, _, _ => .ok ([], s)
  | _, s, _, [] => .ok ([], s)
  | fuel + 1, s, before, word :: rest => do
    let next (t : Token) (s : Settings) (rest : List Octets) :
        Except Fault (List Token × Settings) := do
      let (tokens, s) ← readTokens scene fuel s (some word) rest
      return (t :: tokens, s)
    let leaf (c : Condition) (s : Settings) (rest : List Octets) := next (.leaf c word) s rest
    let holds : Condition := .test (.always true)
    if !isPart word then
      .error (.misplaced word (scene.look? word).isSome before)
    else if word = "(" then next .opening s rest
    else if word = ")" then next .closing s rest
    else if word = "," then next .both s rest
    else if word = "!" || word = "-not" then next (.not word) s rest
    else if word = "-a" || word = "-and" then next (.and word) s rest
    else if word = "-o" || word = "-or" then next (.or word) s rest
    else if idleWords.contains word then leaf holds s rest
    else if word = "-depth" || word = "-d" then leaf holds { s with deepFirst := true } rest
    else
      match plainTest? word, plainAction? word with
      | some t, _ => leaf (.test t) s rest
      | none, some a => leaf (.act a) { s with deepFirst := s.deepFirst || isDelete a } rest
      | none, none =>
        if word = "-exec" || word = "-execdir" then
          let (command, forAll, rest') ← readCommand word rest
          if forAll then leaf (.act (.executeAll command rest'.length)) s rest'
          else leaf (.act (.execute command (word = "-execdir"))) s rest'
        else if word = "-maxdepth" || word = "-mindepth" || word = "-regextype" ||
            word = "-printf" || valuedWords.contains word then
          match rest with
          | [] => .error (.missing word)
          | value :: rest =>
            if word = "-maxdepth" then
              let n ← readDepth word value
              leaf holds { s with most := some n } rest
            else if word = "-mindepth" then
              let n ← readDepth word value
              leaf holds { s with least := n } rest
            else if word = "-regextype" then
              let basic := ["emacs", "findutils-default", "grep", "posix-basic", "ed", "sed"]
              leaf holds { s with extended := !basic.contains value } rest
            else if word = "-printf" then leaf (.act (.printBy value)) s rest
            else
              let t ← readTest scene s word value
              leaf (.test t) s rest
        else .error (.unknown word)
where
  /-- The action removes files. -/
  isDelete : Action → Bool
    | .delete => true
    | _ => false

/-! ### Conditions -/

/-- Reads a condition from its parts; also returns those that follow it. -/
abbrev Rule := List Token → Except Fault (Condition × List Token)

/-- The word of a part. -/
def Token.word : Token → Octets
  | .leaf _ w => w
  | .not w => w
  | .and w => w
  | .or w => w
  | .both => ","
  | .opening => "("
  | .closing => ")"

/-- One condition, perhaps in parentheses or negated; `before` is the word in front of it. -/
def single (whole : Rule) : Nat → Octets → Rule
  | 0, _, _ => .error .unclosed
  | _, before, [] => .error (.nothingAfter before)
  | fuel + 1, before, t :: rest =>
    match t with
    | .leaf c _ => .ok (c, rest)
    | .not w => do
      let (c, rest) ← single whole fuel w rest
      return (.not c, rest)
    | .opening =>
      match rest with
      | .closing :: _ => .error .emptyParentheses
      | _ => do
        if rest.isEmpty then .error .unclosed
        let (c, rest) ← whole rest
        match rest with
        | .closing :: rest => return (c, rest)
        | _ => .error .unclosed
    | .closing => if before.isEmpty then .error .closing else .error (.nothingAfter before)
    | t => .error (.nothingBefore t.word)

/-- Conditions that have to hold together. -/
def conjunction (whole : Rule) : Nat → Octets → Rule
  | 0, _, _ => .error .unclosed
  | fuel + 1, before, ts => do
    let (c, rest) ← single whole (ts.length + 1) before ts
    match rest with
    | .and w :: rest =>
      let (d, rest) ← conjunction whole fuel w rest
      return (.and c d, rest)
    | .leaf _ _ :: _ | .not _ :: _ | .opening :: _ =>
      let (d, rest) ← conjunction whole fuel before rest
      return (.and c d, rest)
    | rest => return (c, rest)

/-- Choices between conditions. -/
def disjunction (whole : Rule) : Nat → Octets → Rule
  | 0, _, _ => .error .unclosed
  | fuel + 1, before, ts => do
    let (c, rest) ← conjunction whole (ts.length + 1) before ts
    match rest with
    | .or w :: rest =>
      let (d, rest) ← disjunction whole fuel w rest
      return (.or c d, rest)
    | rest => return (c, rest)

/-- Conditions between commas. -/
def sequence (whole : Rule) : Nat → Octets → Rule
  | 0, _, _ => .error .unclosed
  | fuel + 1, before, ts => do
    let (c, rest) ← disjunction whole (ts.length + 1) before ts
    match rest with
    | .both :: rest =>
      let (d, rest) ← sequence whole fuel "," rest
      return (.both c d, rest)
    | rest => return (c, rest)

/-- A whole condition, with parentheses nested no deeper than `depth`. -/
def rule : Nat → Rule
  | 0 => fun _ => .error .unclosed
  | depth + 1 => fun ts => sequence (rule depth) (ts.length + 1) "" ts

/-- Reads a search. -/
def read (scene : Scene) (args : List Octets) : Except Fault Plan := do
  let args := args.dropWhile fun a => a ∈ ["-H", "-L", "-P"]
  let args := if args.head? = some "--" then args.tail else args
  let starts := args.takeWhile fun a => !startsCondition a
  let (tokens, s) ← readTokens scene (args.length + 1) {} none (args.drop starts.length)
  let printing : Condition := .act (.print "\n")
  let condition ←
    if tokens.isEmpty then pure printing
    else do
      let (c, rest) ← rule (tokens.length + 1) tokens
      if !rest.isEmpty then .error .closing
      pure (if c.actions.any Action.replacesPrinting then c else .and c printing)
  return { starts := if starts.isEmpty then ["."] else starts, condition
           least := s.least, most := s.most, deepFirst := s.deepFirst }

end Mender.Finding
