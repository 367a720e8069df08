import Mender.Shell.Fields
import Mender.Shell.Numeral

/-!
# Expansion

What the words of a command become, the arithmetic in them, and the redirections that they name.
-/

namespace Mender.Shell

open Act

/-!
## Arithmetic of the shell

Expressions over whole numbers of 64 bits. An expression is read and evaluated in one pass, from
left to right, so that an assignment is seen by what follows it and the first fault is the one that
is told.
-/

/-- A sign of an arithmetic expression. -/
inductive Sign where
  | number (value : Int)
  | name (text : Octets)
  | operator (text : Octets)
  /-- A character that no expression holds. -/
  | stray
  deriving DecidableEq, Repr

namespace Sign

/-- The operators; a longer one comes before its beginnings. -/
def operators : List Octets :=
  ["<<=", ">>=", "==", "!=", "<=", ">=", "<<", ">>", "||", "&&", "|=", "&=", "+=", "-=", "*=",
    "/=", "%=", "^=", "=", "!", "<", ">", "|", "&", "+", "-", "*", "/", "%", "^", "~", "(", ")",
    "?", ":"]

/-- The signs of an expression. -/
def ofText : Nat → List Char → List Sign
  | 0, _ => []
  | _, [] => []
  | fuel + 1, c :: cs =>
    if c == ' ' || c == '\t' || c == '\n' then ofText fuel cs
    else if c.isDigit then
      let n := Numeral.read true (c :: cs)
      .number n.value :: ofText fuel n.rest
    else if Octets.startsName c then
      let name := (c :: cs).takeWhile Octets.inName
      .name (String.ofList name) :: ofText fuel ((c :: cs).drop name.length)
    else
      match operators.find? fun o => o.toList.isPrefixOf (c :: cs) with
      | some o => .operator o :: ofText fuel ((c :: cs).drop o.length)
      | none => [.stray]

/-- How weakly a sign binds that joins two numbers. -/
def binding? : Sign → Option Nat
  | .operator o =>
    if o == "*" || o == "/" || o == "%" then some 0
    else if o == "+" || o == "-" then some 1
    else if o == "<<" || o == ">>" then some 2
    else if o == "<" || o == "<=" || o == ">" || o == ">=" then some 3
    else if o == "==" || o == "!=" then some 4
    else if o == "&" then some 5
    else if o == "^" then some 6
    else if o == "|" then some 7
    else none
  | _ => none

/-- The operator of an assignment; empty when the value is taken as it is. -/
def assignment? : Sign → Option Octets
  | .operator o =>
    if o == "=" then some ""
    else if o ∈ ["<<=", ">>=", "|=", "&=", "+=", "-=", "*=", "/=", "%=", "^="] then
      some (String.ofList o.toList.dropLast)
    else none
  | _ => none

end Sign

/-- A number as 64 bits. -/
def bitsOf (n : Int) : Nat :=
  (n % 18446744073709551616).toNat

/-- A truth value as a number. -/
def truth (b : Bool) : Int :=
  if b then 1 else 0

/-- Joins two numbers; division by zero has no value. -/
def combine? (o : Octets) (a b : Int) : Option Int :=
  let bitwise (f : Nat → Nat → Nat) : Option Int := some (Numeral.wrapped (f (bitsOf a) (bitsOf b)))
  let shift := (b % 64).toNat
  match o with
  | "*" => some (Numeral.wrapped (a * b))
  | "/" => if b = 0 then none else some (Numeral.wrapped (a.tdiv b))
  | "%" => if b = 0 then none else some (a.tmod b)
  | "+" => some (Numeral.wrapped (a + b))
  | "-" => some (Numeral.wrapped (a - b))
  | "<<" => some (Numeral.wrapped (a * Nat.pow 2 shift))
  | ">>" => some (a.fdiv (Nat.pow 2 shift))
  | "<" => some (truth (a < b))
  | "<=" => some (truth (a ≤ b))
  | ">" => some (truth (b < a))
  | ">=" => some (truth (b ≤ a))
  | "==" => some (truth (a == b))
  | "!=" => some (truth (a != b))
  | "&" => bitwise Nat.land
  | "^" => bitwise Nat.xor
  | "|" => bitwise Nat.lor
  | _ => none

/-- What an expression needs of its surroundings. -/
structure Calculator (m : Type → Type) where
  /-- The value of a variable. -/
  value : Octets → m Int
  /-- Sets a variable. -/
  assign : Octets → Int → m Unit
  /-- Tells a fault. -/
  fail : {α : Type} → Octets → m α

namespace Calculator

variable {m : Type → Type} [Monad m]

/-- What evaluates a part of an expression: its signs and whether its value counts. It returns the
value and the signs that are left. -/
abbrev Rule (m : Type → Type) := List Sign → Bool → m (Int × List Sign)

/-- A number, a variable, or an expression in parentheses, with signs before it. -/
def primary (k : Calculator m) (assignment primary : Rule m) : Rule m := fun signs counts => do
  match signs with
  | .operator "(" :: rest =>
    let (n, rest) ← assignment rest counts
    match rest with
    | .operator ")" :: rest => return (n, rest)
    | _ => k.fail "expecting ')'"
  | .number n :: rest => return (n, rest)
  | .name s :: rest =>
    let n ← if counts then k.value s else pure 0
    return (n, rest)
  | .operator "+" :: rest => primary rest counts
  | .operator "-" :: rest =>
    let (n, rest) ← primary rest counts
    return (Numeral.wrapped (-n), rest)
  | .operator "!" :: rest =>
    let (n, rest) ← primary rest counts
    return (truth (n == 0), rest)
  | .operator "~" :: rest =>
    let (n, rest) ← primary rest counts
    return (-n - 1, rest)
  | _ => k.fail "expecting primary"

/-- Joins two numbers, if the result counts. -/
def combine (k : Calculator m) (o : Octets) (a b : Int) (counts : Bool) : m Int :=
  if counts then
    match combine? o a b with
    | some n => return n
    | none => k.fail "division by zero"
  else return b

/-- What follows a first number: operators that bind more strongly than `limit`, and their
numbers. -/
def binary (k : Calculator m) (primary : Rule m) : Nat → Nat → Int → Rule m
  | 0, _, a => fun signs _ => return (a, signs)
  | fuel + 1, limit, a => fun signs counts => do
    match signs with
    | sign :: rest =>
      match sign.binding?, sign with
      | some p, .operator o =>
        if p < limit then
          let (b, rest) ← primary rest counts
          let stronger := (rest.head?.bind Sign.binding?).any (· < p)
          let (b, rest) ← if stronger then binary k primary fuel p b rest counts else pure (b, rest)
          let a ← k.combine o a b counts
          binary k primary fuel limit a rest counts
        else return (a, signs)
      | _, _ => return (a, signs)
    | [] => return (a, signs)

/-- Expressions that all have to hold. -/
def conjunction (primary : Rule m) (rest : Nat → Int → Rule m) : Nat → Rule m
  | 0 => primary
  | fuel + 1 => fun signs counts => do
    let (a, left) ← primary signs counts
    let (a, left) ← rest 8 a left counts
    match left with
    | .operator "&&" :: left =>
      let (b, left) ← conjunction primary rest fuel left (counts && a != 0)
      return (truth (a != 0 && b != 0), left)
    | left => return (a, left)

/-- Expressions of which one has to hold. -/
def disjunction (operand : Rule m) : Nat → Rule m
  | 0 => operand
  | fuel + 1 => fun signs counts => do
    let (a, left) ← operand signs counts
    match left with
    | .operator "||" :: left =>
      let (b, left) ← disjunction operand fuel left (counts && a == 0)
      return (truth (a != 0 || b != 0), left)
    | left => return (a, left)

/-- A choice by a condition. -/
def conditional (k : Calculator m) (operand assignment : Rule m) : Nat → Rule m
  | 0 => operand
  | fuel + 1 => fun signs counts => do
    let (a, left) ← operand signs counts
    match left with
    | .operator "?" :: left =>
      let (b, left) ← assignment left (counts && a != 0)
      match left with
      | .operator ":" :: left =>
        let (c, left) ← conditional k operand assignment fuel left (counts && a == 0)
        return (if a != 0 then b else c, left)
      | _ => k.fail "expecting ':'"
    | left => return (a, left)

/-- A number, a variable or parentheses behind at most `n` signs. -/
def prefixed (k : Calculator m) (assignment : Rule m) : Nat → Rule m
  | 0 => fun _ _ => k.fail "expecting primary"
  | n + 1 => k.primary assignment (prefixed k assignment n)

/-- An assignment, or an expression without one, when `fuel` is more than the number of signs. -/
def assignment (k : Calculator m) : Nat → Rule m
  | 0 => fun _ _ => k.fail "expecting primary"
  | fuel + 1 => fun signs counts => do
    let primary := prefixed k (assignment k fuel) (signs.length + 1)
    let operand := disjunction
      (conjunction primary (k.binary primary (signs.length + 1)) signs.length) signs.length
    let plain := conditional k operand (assignment k fuel) signs.length
    match signs with
    | .name s :: sign :: rest =>
      match sign.assignment? with
      | some o =>
        let (n, left) ← assignment k fuel rest counts
        if counts then
          let n ← if o.isEmpty then pure n else k.combine o (← k.value s) n true
          k.assign s n
          return (n, left)
        else return (n, left)
      | none => plain signs counts
    | _ => plain signs counts

/-- The value of an expression. -/
def evaluate (k : Calculator m) (text : Octets) : m Int := do
  let signs := Sign.ofText (text.length + 1) text.toList
  let (n, left) ← assignment k (signs.length + 2) signs true
  if left.isEmpty then return n else k.fail "expecting EOF"

end Calculator

/-!
## Expansion of words

Replaces the substitutions in a word by what they stand for. What a word becomes depends on where it
stands: the words of a command are split into fields and matched with files, values of variables are
not.
-/

/-- How a word is expanded. -/
structure Manner where
  /-- The word becomes fields. -/
  full : Bool := false
  /-- A tilde at the start stands for a home. -/
  tilde : Bool := false
  /-- So does one after the equals sign of an assignment or after a colon. -/
  assignment : Bool := false
  /-- The word stands in a parameter, and its own text is split as well. -/
  inner : Bool := false
  quoted : Bool := false

/-- Runs a command and returns what it printed. -/
abbrev Substitute := Command → Act Octets

/-- The separators of fields. -/
def separatorsOf (p : Process) : List Char :=
  ((p.valueOf? "IFS").map (·.toList)).getD [' ', '\t', '\n']

/-- What stands between arguments that are put together: none when they are not to be told apart.
Arguments in double quotes stay apart, as do those that are split anyway. -/
def joiner (p : Process) (m : Manner) (star : Bool) : Option Char :=
  let first : Option Char := match p.valueOf? "IFS" with
    | some s => s.toList.head?
    | none => some ' '
  if m.full then
    if m.quoted then if star then first else some '\x00'
    else if (p.valueOf? "IFS").isSome then some '\x00' else some ' '
  else first

/-- The arguments of a shell, put together. -/
def joinedArguments (p : Process) (m : Manner) (star : Bool) : Octets :=
  Text.joined ((joiner p m star).elim "" String.singleton) p.parameters

/-- The value of a parameter. -/
def parameterValue? (p : Process) (m : Manner) (name : Octets) : Option Octets :=
  match name with
  | "$" => some (toString p.number)
  | "?" => some (toString p.status)
  | "#" => some (toString p.parameters.length)
  | "!" => p.lastJob.map toString
  | "-" =>
    some (String.ofList ("ubaCEVvxsnmiIfe".toList.filter p.options.contains))
  | "@" => some (joinedArguments p m false)
  | "*" => some (joinedArguments p m true)
  | name =>
    if Octets.isNumber name then
      match Octets.value name.toList with
      | 0 => some p.name
      | n + 1 => p.parameters[n]?
    else p.valueOf? name

/-- The home that a tilde and a name stand for. -/
def homeOf? (p : Process) (name : Octets) : Option Octets :=
  if name.isEmpty then p.valueOf? "HOME"
  else if name = "root" then some "/root"
  else none

/-- Replaces a tilde at the start of text; `last` says that nothing follows the text. Returns the
home and the text left. -/
def expandTilde (p : Process) (m : Manner) (last : Bool) (cs : List Char) :
    List Cell × List Char :=
  match cs with
  | '~' :: rest =>
    let name := rest.takeWhile fun c => c != '/' && !(m.assignment && c == ':')
    let after := rest.drop name.length
    if after.isEmpty && !last then ([], cs)
    else
      match homeOf? p (String.ofList name) with
      | some home => (Cell.ofText true home, after)
      | none => ([], cs)
  | _ => ([], cs)

/-- Plain text with its tildes replaced. The flags say whether a tilde may start the text and
whether an equals sign has been seen; the second is also returned. -/
def expandPlain (p : Process) (m : Manner) (last : Bool) :
    Nat → Bool → Bool → List Char → List Cell × Bool
  | 0, _, seen, _ => ([], seen)
  | fuel + 1, atTilde, seen, cs =>
    let (home, cs) := if atTilde then expandTilde p m last cs else ([], cs)
    match cs with
    | [] => (home, seen)
    | c :: rest =>
      let starts : Bool := m.assignment && ((c == '=' && !seen) || c == ':')
      let seen := seen || (m.assignment && c == '=')
      let (cells, seen) := expandPlain p m last fuel starts seen rest
      (home ++ .char c false :: cells, seen)

/-- A stretch of plain text in a word. -/
def plainStretch (m : Manner) (inQuotes : Bool) (cells : List Cell) : Stretch :=
  ⟨cells, if m.inner && !m.quoted && !inQuotes then .separators else .never⟩

/-- The value of a variable in arithmetic. -/
def calculator : Calculator Act where
  value name := do
    let s := ((← get).valueOf? name).getD ""
    match Numeral.ofVariable? s with
    | some n => return n
    | none => fail s!"Illegal number: {s}"
  assign name n := setVariable name (toString n)
  fail message := Act.fail message

/-- The value of an arithmetic expression. -/
def calculate (text : Octets) : Act Int :=
  { calculator with
    fail := fun message => Act.fail s!"arithmetic expression: {message}: \"{text}\"" }.evaluate text

/-- A value as a part of an expansion. -/
def valueStretch (p : Process) (m : Manner) (name : Octets) (cells : List Cell) : Expansion :=
  if m.quoted then
    [⟨cells, if name = "@" && !p.parameters.isEmpty then .arguments else .never⟩]
  else [⟨cells, .separators⟩]

/-- The end of a text without a stretch at one side that a pattern matches. -/
def trimmed (form : Form) (pattern : List Char) (cells : List Cell) : List Cell :=
  let text := (Cell.text cells).toList
  let lengths := List.range (text.length + 1)
  let first (ns : List Nat) (piece : Nat → List Char) : Option Nat :=
    ns.find? fun n => Wildcard.matchesAll pattern (piece n)
  match form with
  | .withoutStart longest =>
    match first (if longest then lengths.reverse else lengths) (text.take ·) with
    | some n => cells.drop n
    | none => cells
  | .withoutEnd longest =>
    match first (if longest then lengths else lengths.reverse) (text.drop ·) with
    | some n => cells.take n
    | none => cells
  | _ => cells

/-- A parameter that is missing is an error. -/
def refuseMissing {α : Type} (name : Octets) : Act α :=
  Act.fail s!"{name}: parameter not set"

/-- Expands a parameter, when words in it are expanded by `expand`. -/
def expandParameter (expand : Manner → Word → Act Expansion) (m : Manner) (name : Octets)
    (form : Form) (orNull : Bool) (word : Word) : Act Expansion := do
  if form = .unknown then Act.fail "Bad substitution"
  let p ← get
  let value := (parameterValue? p m name).filter fun s => !(orNull && s.isEmpty)
  let result (p : Process) (s : Octets) : Expansion :=
    valueStretch p m name (Cell.ofText m.quoted s)
  let within : Manner := { m with tilde := true, inner := true }
  match form, value with
  | .orElse, none => expand within word
  | .ifThere, some _ => expand within word
  | .ifThere, none => return if m.quoted then [] else [⟨[], .separators⟩]
  | .orAssign, none =>
    let s := (← expand { tilde := true } word).text
    if !Octets.isName name.toList then Act.fail s!"{name}: bad variable name"
    setVariable name s
    return result (← get) s
  | .orFail, none =>
    if word.isEmpty then
      Act.fail (s!"{name}: parameter not set" ++ if orNull then " or null" else "")
    else
      let s := (← expand { tilde := true } word).text
      Act.fail s!"{name}: {s}"
  | _, none =>
    if p.has 'u' then refuseMissing name
    else
      match form with
      | .length => return result p "0"
      | _ => return result p ""
  | .length, some s => return result p (toString s.length)
  | .withoutStart _, some s | .withoutEnd _, some s =>
    let pattern ← expand { tilde := true } word
    return valueStretch p m name (trimmed form (Cell.pattern pattern.cells)
      (Cell.ofText m.quoted s))
  | _, some s => return result p s

/-- What a command printed, as the value of a substitution. -/
def outputValue (s : Octets) : Octets :=
  let cs := s.toList.filter (· != '\x00')
  String.ofList (cs.reverse.dropWhile (· == '\n')).reverse

/-- The state of the expansion of a word. -/
structure Expander where
  inQuotes : Bool := false
  seenEquals : Bool := false
  isFirst : Bool := true
  /-- What the parts so far have become, in reverse. -/
  done : List Stretch := []

/-- The word goes on with all arguments in double quotes, and nothing else in them. -/
def isAllArguments : Word → Bool
  | .parameter "@" .value false [] :: .edge :: _ => true
  | _ => false

/-- Expands the parts of a word, when words within are expanded by `expand`. The count says how many
parts are to be left out. -/
def expandParts (substitute : Substitute) (expand : Manner → Word → Act Expansion) (m : Manner) :
    Nat → Expander → Word → Act Expansion
  | _, x, [] => return x.done.reverse
  | skip + 1, x, _ :: rest => expandParts substitute expand m skip x rest
  | 0, x, part :: rest => do
    let within : Manner := { m with tilde := false, quoted := m.quoted || x.inQuotes }
    let goOn (e : Expansion) : Act Expansion :=
      expandParts substitute expand m 0
        { x with isFirst := false, done := e.reverse ++ x.done } rest
    match part with
    | .plain s =>
      let (cells, seen) := expandPlain (← get) m rest.isEmpty (s.length + 1)
        (x.isFirst && m.tilde) x.seenEquals s.toList
      expandParts substitute expand m 0
        { x with isFirst := false, seenEquals := seen
                 done := plainStretch m x.inQuotes cells :: x.done } rest
    | .quoted s => goOn [⟨Cell.ofText true s, .never⟩]
    | .edge =>
      if !x.inQuotes && isAllArguments rest then
        let e ← expandParameter expand { m with tilde := false, quoted := true } "@" .value false []
        expandParts substitute expand m 2
          { x with isFirst := false, done := e.reverse ++ x.done } rest
      else
        expandParts substitute expand m 0
          { x with inQuotes := !x.inQuotes, isFirst := false
                   done := ⟨[.edge], .never⟩ :: x.done } rest
    | .parameter name form orNull word =>
      goOn (← expandParameter expand within name form orNull word)
    | .command body =>
      let s := outputValue (← substitute body)
      goOn [⟨Cell.ofText within.quoted s, if within.quoted then .never else .separators⟩]
    | .arithmetic word =>
      let n ← calculate (← expand {} word).text
      goOn [⟨Cell.ofText within.quoted (toString n),
        if within.quoted then .never else .separators⟩]

/-- Expands a word whose substitutions are nested no deeper than `depth`. -/
def expandTo (substitute : Substitute) : Nat → Manner → Word → Act Expansion
  | 0 => fun _ _ => Act.fail "Bad substitution"
  | depth + 1 => fun m w => expandParts substitute (expandTo substitute depth) m 0 {} w

/-- How deep substitutions may be nested in a word. -/
def maxSubstitutions : Nat := 200

/-- Expands a word. -/
def expand (substitute : Substitute) (m : Manner) (w : Word) : Act Expansion :=
  expandTo substitute maxSubstitutions m w

/-- The fields that words of a command become. -/
def expandWords (substitute : Substitute) (ws : List Word) : Act (List Octets) := do
  let fields ← ws.mapM fun w => do
    let e ← expand substitute { full := true, tilde := true } w
    let p ← get
    return (e.fields (separatorsOf p) none).flatMap (namesOf p)
  return fields.flatten

/-- The text that a word becomes as one. -/
def expandText (substitute : Substitute) (m : Manner) (w : Word) : Act Octets := do
  return (← expand substitute m w).text

/-!
## Redirections

Makes descriptors lead elsewhere: to files, to other descriptors, or to documents. The words of all
redirections are expanded before the first is made.
-/

/-- A redirection whose words have been expanded. -/
inductive Destination where
  | file (access : Access) (name : Octets)
  | copy (of : Nat)
  | close
  | document (text : Octets)

/-- Why a file cannot be opened. -/
def openFault (creating : Bool) : PathFault → Octets
  | .notFound | .notDirectory => if creating then "Directory nonexistent" else "No such file"
  | fault => fault.text

/-- Expands the words of a redirection. -/
def destinationOf (substitute : Substitute) : Target → Act Destination
  | .file access name => do
    return .file access (← expandText substitute { tilde := true } name)
  | .copy of => do
    let text ← expandText substitute { tilde := true } of
    match text.toList with
    | ['-'] => return .close
    | [c] => if c.isDigit then return .copy (c.toNat - 48) else refuse
    | _ => refuse
  | .document number expands => do
    let word := (Process.lookup number (← get).documents).getD []
    if expands then return .document (← expandText substitute { quoted := true } word)
    else return .document (Word.bare word)
where
  /-- Complains about a descriptor that is none. -/
  refuse : Act Destination := Act.fail "Syntax error: Bad fd number"

/-- Makes a descriptor lead to a handle. -/
def connect (descriptor handle : Nat) : Act Unit :=
  modify fun p => { p with files := Process.assign descriptor handle p.files }

/-- Opens a handle for a descriptor. -/
def connectNew (descriptor : Nat) (h : Handle) : Act Unit := do
  let (number, m) := (← get).toMachine.opened h
  modify (·.withMachine m)
  connect descriptor number

/-- The handle of a file that is to be read. -/
def openToRead (p : Process) (name : Octets) : Except PathFault Handle := do
  match ← p.toMachine.find p.here name with
  | (place, .file _) => return .file place 0 false
  | (_, .device d) => return .device d
  | (_, node) => return .pipe (← Machine.contentOf node).toList []

/-- The handle of a file that is to be written, and the files then. -/
def openToWrite (p : Process) (access : Access) (name : Octets) :
    Except PathFault (Handle × FileTree) := do
  let place ← p.toMachine.locate p.here name
  let m := p.toMachine
  let appends : Bool := access == .append
  let empties : Bool := access == .write || access == .overwrite
  match m.node? place with
  | some .directory => .error .isDirectory
  | some (.file _) =>
    return (.file place 0 appends, if empties then m.tree.put place (.file []) else m.tree)
  | some (.device d) => return (.device d, m.tree)
  | some _ => return (.device .sink, m.tree)
  | none =>
    if m.node? place.dropLast ≠ some .directory then .error .notFound
    else return (.file place 0 appends,
      (m.tree.put place (.file [])).withMode place (0o666 - (0o666 &&& p.umask)))

/-- Files are to be kept, and a file is there. -/
def isKept (p : Process) (access : Access) (name : Octets) : Bool :=
  access == .write && p.has 'C' &&
    match p.toMachine.look? p.here name with
    | some (.file _) => true
    | _ => false

/-- The descriptor that a path stands for. -/
def descriptorOfPath? (name : Octets) : Option Nat :=
  match name with
  | "/dev/stdin" => some 0
  | "/dev/stdout" => some 1
  | "/dev/stderr" => some 2
  | name =>
    let digits := name.toList.drop 8
    if name.startsWith "/dev/fd/" && !digits.isEmpty && digits.all Char.isDigit then
      some (Octets.value digits)
    else none

/-- Makes a descriptor lead where the path of another one says. -/
def redirectToDescriptor (descriptor of : Nat) (access : Access) (name : Octets) : Act Unit := do
  match Process.lookup of (← get).files with
  | some handle => connect descriptor handle
  | none =>
    if access = .read then Act.fail s!"cannot open {name}: {openFault false .notFound}"
    else Act.fail s!"cannot create {name}: {openFault true .notFound}"

/-- Makes a redirection. -/
def redirectTo (descriptor : Nat) : Destination → Act Unit
  | .close => modify fun p => { p with files := Process.unassign descriptor p.files }
  | .copy of => do
    match Process.lookup of (← get).files with
    | some handle => connect descriptor handle
    | none => Act.fail s!"{of}: Bad file descriptor"
  | .document text => connectNew descriptor (.pipe text.toList [])
  | .file access name => do
    match descriptorOfPath? name, access with
    | some of, access => redirectToDescriptor descriptor of access name
    | none, .read => read name
    | none, access => write access name
where
  /-- Opens a file to read from. -/
  read (name : Octets) : Act Unit := do
    match openToRead (← get) name with
    | .ok h => connectNew descriptor h
    | .error f => Act.fail s!"cannot open {name}: {openFault false f}"
  /-- Opens a file to write to. -/
  write (access : Access) (name : Octets) : Act Unit := do
    let p ← get
    if isKept p access name then Act.fail s!"cannot create {name}: File exists"
    else
      match openToWrite p access name with
      | .ok (h, tree) =>
        Act.machine fun m => { m with tree }
        connectNew descriptor h
      | .error f => Act.fail s!"cannot create {name}: {openFault true f}"

/-- Redirections with their words expanded. -/
abbrev Redirections := List (Nat × Destination)

/-- Expands the words of redirections. -/
def expandRedirections (substitute : Substitute) (rs : List Redirection) : Act Redirections :=
  rs.mapM fun
    | .of descriptor target => do return (descriptor, ← destinationOf substitute target)

/-- Makes redirections in their order. -/
def redirect (rs : Redirections) : Act Unit :=
  rs.forM fun (descriptor, d) => redirectTo descriptor d

/-- Makes the descriptors of redirections lead where they led before. -/
def restoreFiles (before : Process) (rs : Redirections) (p : Process) : Process :=
  if rs.isEmpty then p
  else
    let files := rs.foldl
      (fun files (descriptor, _) =>
        match Process.lookup descriptor before.files with
        | some h => Process.assign descriptor h files
        | none => Process.unassign descriptor files)
      p.files
    let p := { p with files }
    p.withMachine (p.toMachine.forget before.nextHandle p.inUse)

/-- Does something under redirections. When they cannot be made, `otherwise` is done instead. -/
def withRedirections {α : Type} (rs : Redirections) (otherwise : Act α) (act : Act α) : Act α := do
  let before ← get
  ensuring
    (do
      match ← caught (redirect rs) with
      | .ok () => act
      | .error .failed => otherwise
      | .error e => throw e)
    (restoreFiles before rs)

end Mender.Shell
