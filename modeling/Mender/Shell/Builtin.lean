import Mender.Number.Layout
import Mender.Shell.Fields
import Mender.Shell.Numeral
import Mender.Shell.Process
import Mender.Tool.Modes

/-!
# Builtins

The commands that are part of a shell: what they have in common, what they test and print, and how
they change the variables, the options and the course of the shell.
-/

namespace Mender.Shell

open Act

/-!
## Builtins

What the builtins of a shell have in common: how they read options and numbers, and how they print.
-/

/-- A builtin, as an action on the shell with its arguments. -/
abbrev Builtin := List Octets → Act Nat

/-- Prints for a builtin. The status says whether that was possible. -/
def printFor (s : Octets) : Act Nat := do
  if ← write 1 s then return 0
  else
    match (← get).builtin with
    | some b => warn s!"{b}: I/O error"
    | none => warn "I/O error"
    return 1

/-- Reads the options of one argument; returns whether the next argument was used as a value. -/
def readOptionLetters (allowed : Octets) (next : Option Octets) :
    List Char → Act (List (Char × Octets) × Bool)
  | [] => return ([], false)
  | c :: cs => do
    match allowed.toList.idxOf? c with
    | none => Act.fail s!"Illegal option -{c}"
    | some i =>
      if allowed.toList[i + 1]? = some ':' then
        if cs.isEmpty then
          match next with
          | some v => return ([(c, v)], true)
          | none => Act.fail s!"No arg for -{c} option"
        else return ([(c, String.ofList cs)], false)
      else
        let (options, used) ← readOptionLetters allowed next cs
        return ((c, "") :: options, used)

/-- Reads the options at the start of arguments. A letter that takes a value has a colon behind it.
The count says how many arguments were used already. -/
def readOptionsFrom (allowed : Octets) :
    Nat → List Octets → Act (List (Char × Octets) × List Octets)
  | _, [] => return ([], [])
  | skip + 1, _ :: rest => readOptionsFrom allowed skip rest
  | 0, a :: rest => do
    match a.toList with
    | ['-', '-'] => return ([], rest)
    | '-' :: c :: cs =>
      let (options, used) ← readOptionLetters allowed rest.head? (c :: cs)
      let (more, operands) ← readOptionsFrom allowed (if used then 1 else 0) rest
      return (options ++ more, operands)
    | _ => return ([], a :: rest)

/-- Reads the options at the start of arguments. -/
def readOptions (allowed : Octets) (args : List Octets) :
    Act (List (Char × Octets) × List Octets) :=
  readOptionsFrom allowed 0 args

/-- The number that an argument is. -/
def numberOf (s : Octets) : Act Nat := do
  if Octets.isNumber s && Octets.value s.toList ≤ 2147483647 then return Octets.value s.toList
  else Act.fail s!"Illegal number: {s}"

/-- The pieces of a text between single quotes: the text up to one and how many follow. -/
def quotePieces : List Char → List Char → List Char
  | part, [] => '\'' :: part.reverse ++ ['\'']
  | part, '\'' :: cs =>
    let more := cs.takeWhile (· == '\'')
    let rest := cs.dropWhile (· == '\'')
    '\'' :: part.reverse ++ '\'' :: '"' :: '\'' :: more ++ '"' ::
      (if rest.isEmpty then [] else quotePieces [] rest)
  | part, c :: cs => quotePieces (c :: part) cs
termination_by _ cs => cs.length
decreasing_by
  all_goals simp_wf
  · have := (List.dropWhile_suffix (l := cs) (· == '\'')).length_le
    omega

/-- A text as a word that stands for it. -/
def singleQuoted (s : Octets) : Octets :=
  String.ofList (quotePieces [] s.toList)

/-- The lines that set variables of a kind, each after a word. -/
def variableLines (word : Octets) (p : Process) (chosen : Variable → Bool) : Octets :=
  let lead := if word.isEmpty then "" else word ++ " "
  let shown := p.bindings.filter fun v => chosen v.2
  let sorted := shown.mergeSort fun a b => a.1 ≤ b.1
  Octets.lines (sorted.map fun (name, v) =>
    match v.value with
    | some s => s!"{lead}{name}={singleQuoted s}"
    | none => lead ++ name)

/-- A name and the value that an argument gives it. -/
def splitAssignment (s : Octets) : Octets × Option Octets :=
  let name := s.toList.takeWhile (· != '=')
  (String.ofList name,
    if name.length = s.length then none else some (String.ofList (s.toList.drop (name.length + 1))))

/-- A name of a variable has to be one. -/
def checkName (name : Octets) : Act Unit := do
  if !Octets.isName name.toList then Act.fail s!"{name}: bad variable name"

/-!
## Conditions

The conditions of `test`: texts and numbers are compared, files are looked at, and conditions are
joined. A condition is read from left to right over its arguments.
-/

/-- What an argument may be besides an operand. -/
inductive ConditionSign where
  /-- Looks at one operand. -/
  | unary
  /-- Compares two operands. -/
  | binary
  | negation
  | conjunction
  | disjunction
  | opening
  | closing
  deriving DecidableEq, Repr

/-- What an argument is besides an operand. -/
def conditionSign? (s : Octets) : Option ConditionSign :=
  if s ∈ ["-r", "-w", "-x", "-e", "-f", "-d", "-c", "-b", "-p", "-u", "-g", "-k", "-s", "-t", "-z",
      "-n", "-h", "-O", "-G", "-L", "-S"] then some .unary
  else if s ∈ ["=", "!=", "<", ">", "-eq", "-ne", "-ge", "-gt", "-le", "-lt", "-nt", "-ot",
      "-ef"] then some .binary
  else if s = "!" then some .negation
  else if s = "-a" then some .conjunction
  else if s = "-o" then some .disjunction
  else if s = "(" then some .opening
  else if s = ")" then some .closing
  else none

/-- What the first of some arguments is in a condition: an operator is taken for an operand where
nothing follows that it could belong to. -/
def leadingSign? : List Octets → Option ConditionSign
  | [] => none
  | s :: rest =>
    match conditionSign? s with
    | some .unary =>
      match rest with
      | [] => none
      | [_] => some .unary
      | next :: _ => if conditionSign? next = some .binary then none else some .unary
    | some .opening => if rest.isEmpty then none else some .opening
    | sign => sign

/-- Why a condition cannot be read. -/
inductive ConditionFault where
  | noNumber (operand : Octets)
  /-- An operand has to follow. -/
  | missingAfter (sign : Octets)
  | unclosed
  /-- The condition ends before this argument. -/
  | unexpected (argument : Octets)
  deriving DecidableEq, Repr

/-- What a shell says of a condition that it cannot read. -/
def ConditionFault.text : ConditionFault → Octets
  | .noNumber s => s!"Illegal number: {s}"
  | .missingAfter s => s!"{s}: argument expected"
  | .unclosed => "closing paren expected"
  | .unexpected s => if s.isEmpty then "unexpected operator" else s!"{s}: unexpected operator"

/-- A name is a link. -/
def isLink (p : Process) (name : Octets) : Bool :=
  match p.toMachine.findItself p.here name with
  | .ok (_, .link _) => true
  | _ => false

/-- What a condition on a file says. -/
def fileHolds (p : Process) (sign name : Octets) : Bool :=
  if sign = "-L" || sign = "-h" then isLink p name
  else
  match p.toMachine.find p.here name with
  | .error _ => false
  | .ok (place, node) =>
    match sign with
    | "-f" => match node with
      | .file _ => true
      | .program => true
      | _ => false
    | "-d" => node = .directory
    | "-s" => match node with
      | .file content => !content.isEmpty
      | .directory => true
      | .program => true
      | _ => false
    | "-x" => node = .directory || p.toMachine.isExecutable place
    | "-c" => match node with
      | .device _ => true
      | _ => false
    | "-e" | "-r" | "-w" | "-O" | "-G" => true
    | _ => false

/-- The number that an operand is. -/
def operandNumber (s : Octets) : Except ConditionFault Int :=
  match Numeral.whole? s with
  | some n => .ok n
  | none => .error (.noNumber s)

/-- What a condition on one operand says. -/
def unaryHolds (p : Process) (sign operand : Octets) : Except ConditionFault Bool :=
  match sign with
  | "-z" => .ok operand.isEmpty
  | "-n" => .ok (!operand.isEmpty)
  | "-t" => do
    let _ ← operandNumber operand
    return false
  | sign => .ok (fileHolds p sign operand)

/-- What a comparison says. -/
def binaryHolds (p : Process) (a sign b : Octets) : Except ConditionFault Bool :=
  let numbers (f : Int → Int → Bool) : Except ConditionFault Bool := do
    let x ← operandNumber a
    return f x (← operandNumber b)
  let place (s : Octets) : Option TreePlace :=
    match p.toMachine.find p.here s with
    | .ok (place, _) => some place
    | .error _ => none
  match sign with
  | "=" => .ok (a = b)
  | "!=" => .ok (a ≠ b)
  | "<" => .ok (a < b)
  | ">" => .ok (b < a)
  | "-eq" => numbers (· = ·)
  | "-ne" => numbers (· ≠ ·)
  | "-ge" => numbers (fun x y => y ≤ x)
  | "-gt" => numbers (fun x y => y < x)
  | "-le" => numbers (· ≤ ·)
  | "-lt" => numbers (· < ·)
  | "-nt" => .ok ((place a).isSome && (place b).isNone)
  | "-ot" => .ok ((place a).isNone && (place b).isSome)
  | _ => .ok ((place a).isSome && place a = place b)

/-- Reads a part of a condition; returns what it says and the arguments left, of which the first is
the last one that was used. -/
abbrev ConditionRule := List Octets → Except ConditionFault (Bool × List Octets)

/-- A condition that is not joined with another. -/
def primaryCondition (p : Process) (disjunction : ConditionRule) : ConditionRule := fun args => do
  match args with
  | [] => return (false, [])
  | s :: rest =>
    match leadingSign? args with
    | some .opening =>
      if leadingSign? rest = some .closing then return (false, rest)
      else
        let (b, left) ← disjunction rest
        let left := left.tail
        if leadingSign? left = some .closing then return (b, left)
        else .error .unclosed
    | some .unary =>
      match rest with
      | [] => .error (.missingAfter s)
      | operand :: _ => return (← unaryHolds p s operand, rest)
    | _ =>
      match rest with
      | sign :: after =>
        if leadingSign? rest = some .binary then
          match after with
          | [] => .error (.missingAfter sign)
          | b :: _ => return (← binaryHolds p s sign b, after)
        else return (!s.isEmpty, args)
      | [] => return (!s.isEmpty, args)

/-- A condition with negations before it. -/
def negatedCondition (primary : ConditionRule) : Nat → ConditionRule
  | 0 => primary
  | fuel + 1 => fun args => do
    if leadingSign? args = some .negation then
      let rest := if (args.drop 1).isEmpty then args else args.drop 1
      let (b, left) ← if (args.drop 1).isEmpty then pure (false, rest)
        else negatedCondition primary fuel rest
      return (!b, left)
    else primary args

/-- Conditions joined by an operator, all of which are evaluated. -/
def joinedConditions (sign : ConditionSign) (join : Bool → Bool → Bool) (operand : ConditionRule) :
    Nat → ConditionRule
  | 0 => operand
  | fuel + 1 => fun args => do
    let (a, left) ← operand args
    if leadingSign? left.tail = some sign then
      let (b, left) ← joinedConditions sign join operand fuel (left.drop 2)
      return (join a b, left)
    else return (a, left)

/-- Conditions joined by "and" within "or", when parentheses are nested no deeper than `depth`. -/
def conditionOf (p : Process) : Nat → ConditionRule
  | 0 => fun args => .ok (false, args)
  | depth + 1 => fun args =>
    let n := args.length + 1
    let primary := primaryCondition p (conditionOf p depth)
    joinedConditions .disjunction (· || ·)
      (joinedConditions .conjunction (· && ·) (negatedCondition primary n) n) n args

/-- What a condition over all of some arguments says. -/
def wholeCondition (p : Process) (args : List Octets) : Except ConditionFault Bool := do
  let (b, left) ← conditionOf p (args.length + 1) args
  match left with
  | s :: _ :: _ => .error (.unexpected s)
  | _ => return b

/-- What a condition says. With few arguments their number decides how they are read. -/
def conditionHolds (p : Process) : List Octets → Except ConditionFault Bool
  | [] => .ok false
  | [a, b, c] =>
    if conditionSign? b = some .binary then binaryHolds p a b c
    else if a = "(" && c = ")" then wholeCondition p [b]
    else if a = "!" then do return !(← conditionHolds p [b, c])
    else wholeCondition p [a, b, c]
  | [a, b, c, d] =>
    if a = "(" && d = ")" then wholeCondition p [b, c]
    else if a = "!" then do return !(← conditionHolds p [b, c, d])
    else wholeCondition p [a, b, c, d]
  | args => wholeCondition p args

/-!
## Printing arguments

What `echo` and `printf` print: escapes after backslashes, and directives that lay out arguments.
-/

/-- An octal digit. -/
def isOctal (c : Char) : Bool :=
  '0' ≤ c && c ≤ '7'

/-- The character that a letter after a backslash stands for. -/
def escapeOf? : Char → Option Char
  | '\\' => some '\\'
  | 'a' => some '\x07'
  | 'b' => some '\x08'
  | 'f' => some '\x0c'
  | 'n' => some '\n'
  | 'r' => some '\r'
  | 't' => some '\t'
  | 'v' => some '\x0b'
  | _ => none

/-- What an escape after a backslash stands for, and what follows it. A backslash that starts no
escape stands for itself. -/
def readEscape (cs : List Char) : Char × List Char :=
  match cs with
  | [] => ('\\', [])
  | c :: rest =>
    if isOctal c then
      let digits := (cs.take 3).takeWhile isOctal
      (Char.ofNat (Numeral.digitsValue 8 digits % 256), cs.drop digits.length)
    else
      match escapeOf? c with
      | some e => (e, rest)
      | none => ('\\', cs)

/-- Resolves escapes, of which octal ones may start with a zero of their own; also tells whether
printing ends there. -/
def unescape : Nat → List Char → List Char × Bool
  | 0, _ => ([], false)
  | _, [] => ([], false)
  | _ + 1, '\\' :: 'c' :: _ => ([], true)
  | fuel + 1, '\\' :: '0' :: d :: rest =>
    let (e, rest) := readEscape (if isOctal d then d :: rest else '0' :: d :: rest)
    let (cs, stops) := unescape fuel rest
    (e :: cs, stops)
  | fuel + 1, '\\' :: rest =>
    let (e, rest) := readEscape rest
    let (cs, stops) := unescape fuel rest
    (e :: cs, stops)
  | fuel + 1, c :: rest =>
    let (cs, stops) := unescape fuel rest
    (c :: cs, stops)

/-- Resolves escapes in a text. -/
def unescaped (s : Octets) : List Char × Bool :=
  unescape (s.length + 1) s.toList

/-- What `echo` prints. -/
def echoed (arguments : List Octets) : Octets :=
  let (words, newline) := match arguments with
    | "-n" :: rest => (rest, false)
    | words => (words, true)
  let (cs, stops) := unescaped (Text.joined " " words)
  String.ofList (if newline && !stops then cs ++ ['\n'] else cs)

/-- Why an argument is no number. -/
inductive ArgumentFault where
  | noNumber (argument : Octets)
  /-- Something follows the number. -/
  | partly (argument : Octets)
  | outOfRange (argument : Octets)
  deriving DecidableEq, Repr

/-- What a shell says of an argument that is no number. -/
def ArgumentFault.text : ArgumentFault → Octets
  | .noNumber a => s!"{a}: expected numeric value"
  | .partly a => s!"{a}: not completely converted"
  | .outOfRange a => s!"{a}: Numerical result out of range"

/-- Why a format cannot be followed. -/
inductive FormatFault where
  | missingConversion
  | unknown (directive : Octets)
  deriving DecidableEq, Repr

/-- What a shell says of a format that it cannot follow. -/
def FormatFault.text : FormatFault → Octets
  | .missingConversion => "missing format character"
  | .unknown d => s!"{d}: invalid directive"

/-- What was printed by a format. -/
structure Printout where
  /-- What was printed, in reverse. -/
  text : List Char := []
  /-- What is wrong with arguments, in reverse. -/
  complaints : List ArgumentFault := []
  /-- The format cannot be followed. -/
  fault : Option FormatFault := none
  /-- The arguments that are left. -/
  left : List Octets
  stops : Bool := false

namespace Printout

/-- Prints characters. -/
def print (p : Printout) (cs : List Char) : Printout :=
  { p with text := cs.reverse ++ p.text }

/-- Complains about an argument that is no number as a whole. -/
def checked (p : Printout) (argument : Octets) (rest : List Char) (overflows : Bool) : Printout :=
  let told (f : ArgumentFault) : Printout := { p with complaints := f :: p.complaints }
  if !rest.isEmpty then
    if rest.length = argument.length then told (.noNumber argument) else told (.partly argument)
  else if overflows then told (.outOfRange argument)
  else p

/-- Takes an argument as a number. -/
def takeNumber (p : Printout) : Int × Printout :=
  match p.left with
  | [] => (0, p)
  | a :: left =>
    let p := { p with left }
    match a.toList with
    | '"' :: cs => ((cs.head?.elim 0 fun c => (c.toNat : Int)), p)
    | '\'' :: cs => ((cs.head?.elim 0 fun c => (c.toNat : Int)), p)
    | cs =>
      let n := Numeral.read true cs
      (n.value, p.checked a n.rest n.overflows)

/-- A number is too large for 64 bits without a sign. -/
def unsignedLimit : Int := 18446744073709551615

/-- Takes an argument as a number without a sign; one below zero counts from the top. -/
def takeUnsigned (p : Printout) : Nat × Printout :=
  match p.left with
  | [] => (0, p)
  | a :: _ =>
    let (n, q) := p.takeNumber
    match (a.toList.dropWhile Octets.isSpace) with
    | [] => (0, q)
    | c :: _ =>
      if n = Numeral.largest && c != '-' then
        let (base, digits) := Numeral.marked (a.toList.dropWhile fun c => !c.isDigit)
        let digits := digits.takeWhile (Numeral.isDigit base)
        let value : Int := Numeral.digitsValue base digits
        if value ≤ unsignedLimit then (value.toNat, { q with complaints := p.complaints })
        else (unsignedLimit.toNat, q)
      else ((n % (unsignedLimit + 1)).toNat, q)

/-- Takes an argument as a number with a point. -/
def takeDouble (p : Printout) : Float × Printout :=
  match p.left with
  | [] => (0.0, p)
  | a :: left =>
    let p := { p with left }
    match a.toList with
    | '"' :: cs => (cs.head?.elim 0.0 fun c => c.toNat.toFloat, p)
    | '\'' :: cs => (cs.head?.elim 0.0 fun c => c.toNat.toFloat, p)
    | cs =>
      let (x, rest) := Numeral.readReal cs
      (x, p.checked a rest false)

/-- Takes an argument as a text. -/
def takeText (p : Printout) : Octets × Printout :=
  match p.left with
  | [] => ("", p)
  | a :: left => (a, { p with left })

end Printout

/-- A width or precision in a directive, which may be an argument. -/
def readCount (p : Printout) : List Char → Int × Printout × List Char
  | '*' :: cs =>
    let (n, p) := p.takeNumber
    (n, p, cs)
  | cs =>
    let digits := cs.takeWhile Char.isDigit
    (Octets.value digits, p, cs.drop digits.length)

/-- Prints a directive whose layout and conversion are known. -/
def Printout.directive (p : Printout) (l : Layout) (conversion : Char) : Option Printout :=
  if conversion = 's' then
    let (s, p) := p.takeText
    some (p.print (l.text s.toList))
  else if conversion = 'b' then
    let (s, p) := p.takeText
    let (cs, stops) := unescaped s
    some { p.print (l.text cs) with stops }
  else if conversion = 'c' then
    let (s, p) := p.takeText
    some (p.print ({ l with precision := none }.text [s.toList.headD '\x00']))
  else if conversion = 'd' || conversion = 'i' then
    let (n, p) := p.takeNumber
    some (p.print (l.whole conversion (n < 0) n.natAbs))
  else if "ouxX".toList.contains conversion then
    let (n, p) := p.takeUnsigned
    some (p.print (l.whole conversion false n))
  else if "eEfFgG".toList.contains conversion then
    let (x, p) := p.takeDouble
    some (p.print (l.double conversion x))
  else none

/-- One pass over a format, in at most `fuel` steps. -/
def Printout.pass : Nat → List Char → Printout → Printout
  | 0, _, p => p
  | _, [], p => p
  | fuel + 1, '\\' :: cs, p =>
    let (c, rest) := readEscape cs
    pass fuel rest (p.print [c])
  | fuel + 1, '%' :: '%' :: cs, p => pass fuel cs (p.print ['%'])
  | fuel + 1, '%' :: cs, p =>
    let (l, rest) := ({} : Layout).takeFlags cs
    let (width, p, rest) := readCount p rest
    let (precision, p, rest) := match rest with
      | '.' :: rest =>
        let (n, p, rest) := readCount p rest
        (some n, p, rest)
      | rest => (none, p, rest)
    match rest with
    | [] => { p with fault := some .missingConversion }
    | conversion :: rest =>
      match p.directive (l.withCounts width precision) conversion with
      | some p => if p.stops then p else pass fuel rest p
      | none =>
        let told := '%' :: cs.take (cs.length - rest.length)
        { p with fault := some (.unknown (String.ofList told)) }
  | fuel + 1, c :: cs, p => pass fuel cs (p.print [c])

/-- Passes over a format until the arguments are used up. -/
def Printout.passes (format : List Char) : Nat → Printout → Printout
  | 0, p => p
  | fuel + 1, p =>
    let q := Printout.pass (format.length + 1) format p
    if q.stops || q.fault.isSome || q.left.isEmpty || q.left.length = p.left.length then q
    else passes format fuel q

/-- What `printf` prints. -/
def printedBy (format : Octets) (arguments : List Octets) : Printout :=
  Printout.passes format.toList (arguments.length + 1) { left := arguments }

/-!
## Builtins on variables and arguments

Builtins that set, mark, hide and remove variables, options, arguments and aliases, and that read
them from the input.
-/

/-- Exports variables, or fixes them. -/
def markCommand (word : Octets) (exported fixed : Bool) : Builtin := fun args => do
  let (options, names) ← readOptions "p" args
  if !options.isEmpty || names.isEmpty then
    printFor (variableLines word (← get) fun v => (exported && v.exported) || (fixed && v.fixed))
  else
    for a in names do
      let (name, value) := splitAssignment a
      checkName name
      match value with
      | some s => setVariable name s
      | none => pure ()
      markVariable name exported fixed
    return 0

/-- Hides variables of the surroundings of a function. -/
def localCommand : Builtin := fun args => do
  if (← get).scopes.isEmpty then Act.fail "not in a function"
  for a in args do
    let (name, value) := splitAssignment a
    if name ≠ "-" then
      checkName name
      hide name
      match value with
      | some s => setVariable name s
      | none => pure ()
  return 0

/-- Removes variables or functions. -/
def unsetCommand : Builtin := fun args => do
  let (options, names) ← readOptions "vf" args
  let functions := (options.getLast?.map (·.1)) = some 'f'
  for name in names do
    if functions then
      modify fun p => { p with functions := Process.unassign name p.functions }
    else
      checkName name
      unsetVariable name
  return 0

/-- The options of a shell by name, with their letters. -/
def optionNames : List (Octets × Char) :=
  [("errexit", 'e'), ("noglob", 'f'), ("ignoreeof", 'I'), ("interactive", 'i'), ("monitor", 'm'),
    ("noexec", 'n'), ("stdin", 's'), ("xtrace", 'x'), ("verbose", 'v'), ("vi", 'V'),
    ("emacs", 'E'), ("noclobber", 'C'), ("allexport", 'a'), ("notify", 'b'), ("nounset", 'u'),
    ("privileged", 'p'), ("nolog", '\x01'), ("debug", '\x02')]

/-- Sets an option of the shell. -/
def setOption (letter : Char) (on : Bool) : Act Unit := do
  if !(optionNames.map (·.2)).contains letter then Act.fail s!"Illegal option -{letter}"
  modify fun p =>
    let others := p.options.filter (· != letter)
    { p with options := if on then letter :: others else others }

/-- The options of a shell and whether they are on. -/
def optionLines (p : Process) : Octets :=
  "Current option settings\n" ++ Octets.lines (optionNames.map fun (name, c) =>
    String.ofList (({ left := true, width := 16 } : Layout).text name.toList) ++
      if p.has c then "on" else "off")

/-- The commands that set the options as they are. -/
def optionCommands (p : Process) : Octets :=
  Octets.lines (optionNames.map fun (name, c) =>
    "set " ++ (if p.has c then "-o " else "+o ") ++ name)

/-- Sets an option of the shell by name. -/
def setNamedOption (name : Option Octets) (on : Bool) : Act Unit := do
  match name with
  | none =>
    let p ← get
    let _ ← printFor (if on then optionLines p else optionCommands p)
  | some name =>
    match Process.lookup name optionNames with
    | some c => setOption c on
    | none => Act.fail s!"Illegal option -o {name}"

/-- Sets the letters of one argument; tells whether the next argument was used as a name. -/
def setOptionLetters (next : Option Octets) (on : Bool) : List Char → Act Bool
  | [] => return false
  | 'o' :: cs => do
    setNamedOption next on
    let _ ← setOptionLetters none on cs
    return next.isSome
  | c :: cs => do
    setOption c on
    setOptionLetters next on cs

/-- Sets options from arguments; returns the arguments left, if there are any to be set. -/
def setOptionsFrom : Nat → List Octets → Act (Option (List Octets))
  | _, [] => return none
  | skip + 1, _ :: rest => setOptionsFrom skip rest
  | 0, a :: rest => do
    match a.toList with
    | ['-'] =>
      modify fun p => { p with options := p.options.filter fun c => c != 'x' && c != 'v' }
      return if rest.isEmpty then none else some rest
    | ['-', '-'] => return some rest
    | '-' :: cs => setOptionsFrom (if ← setOptionLetters rest.head? true cs then 1 else 0) rest
    | '+' :: cs => setOptionsFrom (if ← setOptionLetters rest.head? false cs then 1 else 0) rest
    | _ => return some (a :: rest)

/-- Sets the arguments of the shell. -/
def setParameters (args : List Octets) : Act Unit :=
  modify fun p => { p with parameters := args, optionAt := (1, none) }

/-- Sets options and arguments, or lists the variables. -/
def setCommand : Builtin := fun args => do
  if args.isEmpty then printFor (variableLines "" (← get) fun v => v.value.isSome)
  else
    match ← setOptionsFrom 0 args with
    | some parameters => setParameters parameters
    | none => pure ()
    return 0

/-- Drops arguments of the shell. -/
def shiftCommand : Builtin := fun args => do
  let n ← args.head?.elim (pure 1) numberOf
  if (← get).parameters.length < n then Act.fail "can't shift that many"
  modify fun p => { p with parameters := p.parameters.drop n, optionAt := (1, none) }
  return 0

/-- Sets and lists aliases. -/
def aliasCommand : Builtin := fun args => do
  let shown (name value : Octets) : Octets := s!"{name}={singleQuoted value}\n"
  if args.isEmpty then
    let aliases := (← get).aliases.mergeSort fun a b => a.1 ≤ b.1
    printFor (String.join (aliases.map fun (name, value) => shown name value))
  else
    let statuses ← args.mapM fun a => do
      match splitAssignment a with
      | (name, some value) =>
        if name.isEmpty then return (0 : Nat)
        modify fun p => { p with aliases := Process.assign name value p.aliases }
        return 0
      | (name, none) =>
        match Process.lookup name (← get).aliases with
        | some value => printFor (shown name value)
        | none =>
          tell s!"alias: {name} not found\n"
          return 1
    return statuses.foldl max 0

/-- Removes aliases. -/
def unaliasCommand : Builtin := fun args => do
  let (options, names) ← readOptions "a" args
  if !options.isEmpty then
    modify fun p => { p with aliases := [] }
    return 0
  let statuses ← names.mapM fun name => do
    if ((← get).aliases.any (·.1 = name)) then
      modify fun p => { p with aliases := Process.unassign name p.aliases }
      return (0 : Nat)
    else
      tell s!"unalias: {name} not found\n"
      return 1
  return statuses.foldl max 0

/-! ### Reading options of a script -/

/-- Sets what `getopts` found. -/
def setFound (name : Octets) (letter : Char) (index : Nat) (place : Option Nat) : Act Unit := do
  setVariable "OPTIND" (toString index)
  setVariable name (String.singleton letter)
  modify fun p => { p with optionAt := (index, place) }

/-- An option that is not known, or has no value. A script may ask to be told of it in silence. -/
def setRefused (quiet : Bool) (name : Octets) (mark letter : Char) (complaint : Octets)
    (index : Nat) (place : Option Nat) : Act Nat := do
  if quiet then
    setVariable "OPTARG" (String.singleton letter)
    setFound name mark index place
  else
    tell s!"{complaint}\n"
    unsetVariable "OPTARG"
    setFound name '?' index place
  return 0

/-- Takes the option that characters of an argument start with; the arguments go on at an index. -/
def takeOption (known name : Octets) (args : List Octets) (cs : List Char) (index : Nat) :
    Act Nat := do
  let quiet : Bool := known.front == ':'
  let c := cs.headD '?'
  let rest := cs.tail
  let place : Option Nat :=
    if rest.isEmpty then none else (args[index - 2]?).map fun a => a.length - rest.length
  let found : Option Nat := if c == ':' then none else known.toList.idxOf? c
  match found with
  | none => setRefused quiet name '?' c s!"Illegal option -{c}" index place
  | some i =>
    if known.toList[i + 1]? = some ':' then
      let value := if rest.isEmpty then args[index - 1]? else some (String.ofList rest)
      match value with
      | some value =>
        setVariable "OPTARG" value
        setFound name c (if rest.isEmpty then index + 1 else index) none
        return 0
      | none => setRefused quiet name ':' c s!"No arg for -{c} option" index none
    else
      setVariable "OPTARG" ""
      setFound name c index place
      return 0

/-- Takes the next option from arguments. -/
def nextOption (known name : Octets) (args : List Octets) : Act Nat := do
  let (index, place) := (← get).optionAt
  let index := max index 1
  let current : Option (List Char) := match place with
    | some n => ((args[index - 2]?).map fun a => a.toList.drop n).filter fun cs => !cs.isEmpty
    | none => none
  match current with
  | some cs => takeOption known name args cs index
  | none =>
    match (args[index - 1]?).map (·.toList) with
    | some ['-', '-'] =>
      setFound name '?' (index + 1) none
      return 1
    | some ('-' :: c :: cs) => takeOption known name args (c :: cs) (index + 1)
    | _ =>
      setFound name '?' index none
      return 1

/-- Takes the next option of a script. -/
def getoptsCommand : Builtin := fun args => do
  match args with
  | known :: name :: rest =>
    let p ← get
    let args := if rest.isEmpty then p.parameters else rest
    if args.length + 1 < p.optionAt.1 then modify fun p => { p with optionAt := (1, none) }
    nextOption known name args
  | _ => Act.fail "Usage: getopts optstring var [arg...]"

/-! ### Reading the input -/

/-- A line that was read. -/
structure InputLine where
  /-- The line; what was escaped in it is not split. -/
  text : Expansion
  rest : List Char
  /-- The line ended with a line feed. -/
  ended : Bool

/-- Reads a line, after some stretches and the cells of another one, all in reverse. Unless the line
is raw, a backslash joins lines and keeps other characters from being separators. -/
def readLine (raw : Bool) (done : Expansion) (cells : List Cell) : List Char → InputLine
  | [] => ⟨(⟨cells.reverse, .separators⟩ :: done).reverse, [], false⟩
  | '\n' :: rest => ⟨(⟨cells.reverse, .separators⟩ :: done).reverse, rest, true⟩
  | ['\\'] =>
    let cells := if raw then .char '\\' false :: cells else cells
    ⟨(⟨cells.reverse, .separators⟩ :: done).reverse, [], false⟩
  | '\\' :: c :: rest =>
    let before : Expansion := ⟨cells.reverse, .separators⟩ :: done
    if raw then readLine raw done (.char '\\' false :: cells) (c :: rest)
    else if c = '\n' then readLine raw before [] rest
    else readLine raw (⟨[.char c true], .never⟩ :: before) [] rest
  | c :: rest => readLine raw done (if c = '\x00' then cells else .char c false :: cells) rest

/-- Reads a line of the input into variables. The last one takes all that is left. -/
def readCommandLine : Builtin := fun args => do
  let (options, names) ← readOptions "rp:" args
  if names.isEmpty then Act.fail "arg count"
  let line := readLine (options.any (·.1 = 'r')) [] [] (← unread)
  leaveUnread line.rest
  let separators := ((← get).valueOf? "IFS").elim [' ', '\t', '\n'] (·.toList)
  let fields := (line.text.fields separators (some names.length)).map Cell.text
  for (name, i) in names.zipIdx do
    checkName name
    setVariable name ((fields[i]?).getD "")
  return if line.ended then 0 else 1

/-!
## Builtins that steer a shell

Builtins that leave loops, functions and shells, that change directories, send signals and say what
is done on them, and the builtins that print and test.
-/

/-- Leaves loops, or goes on with their next round. -/
def leaveLoops (skip : Skip) : Builtin := fun args => do
  let n ← args.head?.elim (pure 1) numberOf
  if n = 0 then Act.fail ("Illegal number: " ++ args.headD "")
  let n := min n (← get).loops
  if n ≠ 0 then modify fun p => { p with skip, skipCount := n }
  return 0

/-- Leaves a function or a script. -/
def returnCommand : Builtin := fun args => do
  let status ← args.head?.elim (do return (← get).status) numberOf
  modify fun p => { p with skip := .return_ }
  return status

/-- Ends the shell. -/
def exitCommand : Builtin := fun args => do
  match args with
  | [] => throw .exited
  | a :: _ =>
    setStatus (← numberOf a)
    throw .exited

/-- Prints arguments. -/
def echoCommand : Builtin := fun args => printFor (echoed args)

/-- Prints arguments by a format. -/
def printfCommand : Builtin := fun args => do
  let (_, args) ← readOptions "" args
  match args with
  | [] => Act.fail "usage: printf format [arg ...]"
  | format :: args =>
    let out := printedBy format args
    for c in out.complaints.reverse do warn c.text
    match out.fault with
    | some fault => do
      warn fault.text
      let _ ← printFor (String.ofList out.text.reverse)
      setStatus 2
      throw .failed
    | none =>
      let status ← printFor (String.ofList out.text.reverse)
      return if out.complaints.isEmpty then status else 1

/-- Tests a condition. -/
def testCommand : Builtin := fun args => do
  match conditionHolds (← get) args with
  | .ok b => return if b then 0 else 1
  | .error fault => Act.fail fault.text

/-- Tests a condition in brackets. -/
def bracketCommand : Builtin := fun args => do
  if args.getLast? = some "]" then testCommand args.dropLast
  else Act.fail "missing ]"

/-! ### Directories -/

/-- Links on the way are to be left out: the last of the letters says so. -/
def isPhysical (options : List (Char × Octets)) : Bool :=
  (options.getLast?.map (·.1)) = some 'P'

/-- Prints where the shell is. -/
def pwdCommand : Builtin := fun args => do
  let (options, _) ← readOptions "LP" args
  let p ← get
  printFor ((if isPhysical options then p.directory else p.view) ++ "\n")

/-- The path that a path leads to from the view of a shell, by the names alone: two dots take the
name before them away, whatever it stands for. -/
def viewFrom (view name : Octets) : Octets :=
  let isWhole : Bool := name.startsWith "/"
  let start := if isWhole then name else view
  let top := if start.startsWith "//" && !start.startsWith "///" then "//" else "/"
  let parts := (start ++ "/" ++ if isWhole then "" else name).splitOn "/"
  let kept := parts.foldl (fun kept part =>
    if part = "" || part = "." then kept else if part = ".." then kept.dropLast else kept ++ [part])
    []
  top ++ Text.joined "/" kept

/-- Goes to a directory; tells whether it could. -/
def goTo (physical : Bool) (name : Octets) : Act Bool := do
  let p ← get
  let view := viewFrom p.view name
  match p.toMachine.find p.here (if physical then name else view) with
  | .ok (place, .directory) =>
    setVariableAs true "OLDPWD" p.view
    modify fun p => { p with here := place, view }
    if physical then modify fun p => { p with view := p.directory }
    setVariableAs true "PWD" (← get).view
    return true
  | _ => return false

/-- The path starts at the top or at a dot. -/
def isAnchored (name : Octets) : Bool :=
  name.startsWith "/" || name ∈ [".", ".."] || name.startsWith "./" || name.startsWith "../"

/-- Changes the directory. -/
def cdCommand : Builtin := fun args => do
  let (options, args) ← readOptions "LP" args
  let p ← get
  let back : Bool := args.head? = some "-"
  let target := match args with
    | [] => (p.valueOf? "HOME").getD ""
    | a :: _ => if back then (p.valueOf? "OLDPWD").getD "" else a
  let name := if target.isEmpty then "." else target
  let prefixes := ((p.valueOf? "CDPATH").map fun s =>
    (Text.splitText [':'] s.toList).map String.ofList).getD []
  let onPath := if isAnchored name then none else prefixes.find? fun d =>
    p.toMachine.look? p.here ((if d.isEmpty then "." else d) ++ "/" ++ name) = some .directory
  let path := match onPath with
    | some d => if d.isEmpty then name else d ++ "/" ++ name
    | none => name
  if ← goTo (isPhysical options) path then
    if back || onPath.any (!·.isEmpty) then printFor ((← get).view ++ "\n") else return 0
  else Act.fail s!"can't cd to {target}"

/-- A mask in octal digits. -/
def maskText (n : Nat) : Octets :=
  String.ofList (({ precision := some 4 } : Layout).whole 'o' false n)

/-- The permissions of a class of users that a mask leaves. -/
def permissionText (mask shift : Nat) : Octets :=
  let bits := 7 - mask / Nat.pow 8 shift % 8
  String.join [if bits / 4 % 2 = 1 then "r" else "", if bits / 2 % 2 = 1 then "w" else "",
    if bits % 2 = 1 then "x" else ""]

/-- Sets or prints what new files do not allow. -/
def umaskCommand : Builtin := fun args => do
  let (options, args) ← readOptions "S" args
  let mask := (← get).umask
  match args with
  | [] =>
    if options.isEmpty then printFor (maskText mask ++ "\n")
    else printFor (s!"u={permissionText mask 2},g={permissionText mask 1}," ++
      s!"o={permissionText mask 0}\n")
  | a :: _ =>
    if a.toList.head?.any Char.isDigit then
      if a.toList.all isOctal then
        modify fun p => { p with umask := Numeral.digitsValue 8 a.toList % 512 }
        return 0
      else Act.fail s!"Illegal number: {a}"
    else if !a.isEmpty && a.toList.all ("ugoa".toList.contains ·) then return 0
    else
      match Mode.read? 0 a with
      | some change =>
        modify fun p => { p with umask := 511 - change false (511 - p.umask) % 512 }
        return 0
      | none => Act.fail s!"Illegal mode: {a}"

/-! ### Limits -/

/-- What a program may use of something. -/
structure Limit where
  letter : Char
  name : Octets
  /-- What it is usually. -/
  usual : Octets := "unlimited"

/-- The limits in the order of their list. -/
def Limit.all : List Limit :=
  [⟨'t', "time(seconds)", "unlimited"⟩, ⟨'f', "file(blocks)", "unlimited"⟩,
    ⟨'d', "data(kbytes)", "unlimited"⟩, ⟨'s', "stack(kbytes)", "8192"⟩,
    ⟨'c', "coredump(blocks)", "unlimited"⟩, ⟨'m', "memory(kbytes)", "unlimited"⟩,
    ⟨'l', "locked memory(kbytes)", "8192"⟩, ⟨'p', "process", "unlimited"⟩,
    ⟨'n', "nofiles", "1048576"⟩, ⟨'v', "vmemory(kbytes)", "unlimited"⟩,
    ⟨'w', "locks", "unlimited"⟩, ⟨'r', "rtprio", "0"⟩]

/-- Sets or prints what programs may use. -/
def limitCommand : Builtin := fun args => do
  let (options, args) ← readOptions "HSatfdscmlpnvwr" args
  let letters := options.map (·.1)
  let what := ((letters.filter fun c => !"HSa".toList.contains c).getLast?).getD 'f'
  let value (p : Process) (l : Limit) : Octets := (Process.lookup l.letter p.limits).getD l.usual
  let all := letters.contains 'a'
  let p ← get
  match args with
  | [] =>
    if all then
      printFor (Octets.lines (Limit.all.map fun l =>
        String.ofList (({ left := true, width := 20 } : Layout).text l.name.toList) ++ " " ++
          value p l))
    else
      printFor (String.join ((Limit.all.filter (·.letter = what)).map fun l => value p l ++ "\n"))
  | v :: rest =>
    if all || !rest.isEmpty then Act.fail "too many arguments"
    else if v = "unlimited" || v.toList.all Char.isDigit then
      let v := if v = "unlimited" then v else toString (Octets.value v.toList)
      modify fun p => { p with limits := Process.assign what v p.limits }
      return 0
    else Act.fail "bad number"

/-! ### Jobs and signals -/

/-- The job of a process that a name stands for. A job that the shell does not stand behind cannot
be `controlled`. -/
def jobNamed (controlled : Bool) (name : Octets) : Act Nat := do
  let jobs := (← get).jobs.reverse
  let found (job : Option (Nat × Job)) (message : Octets) : Act Nat := do
    match job with
    | none => Act.fail message
    | some (number, _) =>
      if controlled then
        let told := if name.isEmpty then "(null)" else name
        Act.fail s!"job {told} not created under job control"
      else return number
  let text := String.ofList (name.toList.drop 1)
  if ["", "+", "%"].contains text then found jobs.head? "No current job"
  else if text = "-" then found jobs.tail.head? "No previous job"
  else if Octets.isNumber text then
    found (jobs.find? (·.2.slot = Octets.value text.toList)) s!"No such job: {name}"
  else found none s!"No such job: {name}"

/-- Lets a job go on; the shell stands behind none. -/
def resumeCommand : Builtin := fun args => do
  let (_, args) ← readOptions "" args
  let _ ← jobNamed true (args.headD "")
  return 0

/-- Sets or lists what is done on signals. -/
def trapCommand : Builtin := fun args => do
  let (_, args) ← readOptions "" args
  match args with
  | [] =>
    let traps := (← get).traps.mergeSort fun a b => a.1 ≤ b.1
    printFor (Octets.lines (traps.map fun (n, action) =>
      s!"trap -- {singleQuoted action} {Signal.nameOf n}"))
  | first :: rest =>
    let resets : Bool := rest.isEmpty || (Signal.ofText? first).isSome
    let names := if resets then args else rest
    for name in names do
      match Signal.ofText? name with
      | none =>
        tell s!"trap: {name}: bad trap\n"
        return 1
      | some n =>
        let traps := Process.unassign n (← get).traps
        let traps := if resets || first = "-" then traps else (n, first) :: traps
        modify fun p => { p with traps }
    return 0

/-- What happens to a shell that gets a signal. -/
def receive (signal : Nat) : Act Unit := do
  let p ← get
  match Process.lookup signal p.traps with
  | some action =>
    if signal = 9 then throw (.killed signal)
    else if action.isEmpty then return
    else modify fun p => { p with pending := p.pending ++ [signal] }
  | none => if Signal.isHarmless signal then return else throw (.killed signal)

/-- Sends a signal to a process; tells whether there is one. -/
def sendSignal (signal : Nat) (target : Nat) : Act Bool := do
  let p ← get
  if target = p.number then
    if signal = 0 then return true
    else if p.isPart then
      machine fun m => { m with signals := m.signals ++ [(target, signal)] }
    else receive signal
    return true
  else
    match p.jobState? target with
    | some (.waiting _ _ _) =>
      if signal ≠ 0 then
        modify fun p => p.setJob target (.ended (.killed signal) p.clock)
      return true
    | some .late => return true
    | some (.ended _ _) => return true
    | some (.noticed _ _) => return false
    | none => return false

/-- How `kill` is called. -/
def killUsage : Octets :=
  "Usage: kill [-s sigspec | -signum | -sigspec] [pid | job]... or\nkill -l [exitstatus]"

/-- Lists signals, or names one. -/
def listSignals (args : List Octets) : Act Nat := do
  match args with
  | [] => printFor ("0\n" ++ Octets.lines ((List.range 64).map fun n => realName (n + 1)))
  | a :: _ =>
    let n ← numberOf a
    let n := if 128 < n then n - 128 else n
    if 0 < n && n ≤ 64 then printFor (realName n ++ "\n")
    else Act.fail s!"invalid signal number or exit status: {a}"
where
  /-- The name of a signal, also of one without a name of its own. -/
  realName (n : Nat) : Octets :=
    if n ≤ 31 then Signal.nameOf n
    else if n = 34 then "RTMIN"
    else if n = 64 then "RTMAX"
    else if n < 34 then toString n
    else if n ≤ 49 then s!"RTMIN+{n - 34}"
    else s!"RTMAX-{64 - n}"

/-- Sends signals. -/
def killCommand : Builtin := fun args => do
  match args with
  | [] => Act.fail killUsage
  | first :: rest =>
    let named : Option Nat := match first.toList with
      | '-' :: cs => Signal.ofText? (String.ofList cs)
      | _ => none
    let (signal, lists, targets) ← (do
      match named with
      | some n => return (n, false, rest)
      | none =>
        let (options, operands) ← readOptions "ls:" args
        let signal ← match options.reverse.find? (·.1 = 's') with
          | some (_, s) =>
            match Signal.ofText? s with
            | some n => pure n
            | none => Act.fail s!"invalid signal number or name: {s}"
          | none => pure Signal.terminate
        return (signal, options.any (·.1 = 'l'), operands) : Act (Nat × Bool × List Octets))
    if lists then listSignals targets
    else if targets.isEmpty then Act.fail killUsage
    else
      let statuses ← targets.mapM fun t => do
        let found ← (do
          if t.startsWith "%" then
            let _ ← jobNamed false t
            return false
          else sendSignal signal (← numberOf t))
        if found then return (0 : Nat)
        else
          warn "No such process\n"
          return 1
      return statuses.foldl max 0

/-- The builtins that act on the shell alone, by name. -/
def plainBuiltins : List (Octets × Builtin) :=
  [(":", fun _ => return 0), ("true", fun _ => return 0), ("false", fun _ => return 1),
    ("break", leaveLoops .break_), ("continue", leaveLoops .continue_), ("return", returnCommand),
    ("exit", exitCommand), ("echo", echoCommand), ("printf", printfCommand),
    ("test", testCommand), ("[", bracketCommand), ("pwd", pwdCommand), ("cd", cdCommand),
    ("chdir", cdCommand), ("umask", umaskCommand), ("trap", trapCommand), ("kill", killCommand),
    ("export", markCommand "export" true false), ("readonly", markCommand "readonly" false true),
    ("local", localCommand), ("unset", unsetCommand), ("set", setCommand),
    ("shift", shiftCommand), ("alias", aliasCommand), ("unalias", unaliasCommand),
    ("getopts", getoptsCommand), ("read", readCommandLine),
    ("fg", resumeCommand), ("bg", resumeCommand), ("ulimit", limitCommand),
    ("times", fun _ => printFor "0m0.000000s 0m0.000000s\n0m0.000000s 0m0.000000s\n")]

end Mender.Shell
