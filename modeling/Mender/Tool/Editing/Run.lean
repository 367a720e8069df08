import Mender.Tool.Editing.Reader
import Mender.Tool.Work

/-!
# Editing streams

Runs a script on the lines of files. Each cycle takes a line, runs the commands that select it, and
prints what has become of it.
-/

namespace Mender.Editing

/-- A line, and whether something ended it. -/
structure Line where
  text : List Char := []
  ended : Bool := true

/-- A file with its lines, or why it cannot be read. -/
structure Input where
  name : Octets
  lines : Except PathFault (List Line)

/-- What waits for the end of a cycle. -/
inductive Waiting where
  | text (s : Octets)
  | file (name : Octets)

/-- Something that is written to. -/
structure Output where
  /-- What was written, in reverse. -/
  written : List Octets := []
  /-- The last line was not ended. -/
  isOpen : Bool := false

/-- Where a range stands. -/
inductive Range where
  | outside
  | inside (stop : Option Nat)
  | closed
  deriving DecidableEq, Repr

/-- How scripts are run. -/
structure Manner where
  script : Script
  quiet : Bool := false
  /-- Each file is a stream of its own. -/
  separate : Bool := false
  /-- Files are changed; the text is put behind the names of copies. -/
  inPlace : Option Octets := none
  /-- What ends a line. -/
  stop : Char := '\n'
  width : Nat := 70

/-- How far an editor has come. -/
structure Editor where
  line : Line := {}
  held : Line := {}
  /-- The lines of the file that are left. -/
  lines : List Line := []
  inputs : List Input := []
  fileName : Octets := "-"
  number : Nat := 0
  substituted : Bool := false
  ranges : Array Range := #[]
  waiting : List Waiting := []
  /-- The lines that are left of files that are read line by line. -/
  readers : List (Octets × List Line) := []
  /-- The files that are written. -/
  outputs : List (Octets × Output) := []
  /-- What was printed, in reverse, with the descriptor. -/
  printed : List (Nat × Octets) := []
  /-- The last line that was printed was not ended. -/
  isOpen : Bool := false
  /-- The expression that was used last. -/
  last : Option Regex := none
  status : Nat := 0
  scene : Scene
  /-- Lines are written to a file in place of the output. -/
  replacing : Bool := false

/-- A step of an editor, which may fail for good. -/
abbrev Edit := ExceptT (Nat × Octets) (StateM Editor)

/-! ## Printing -/

/-- Prints to a descriptor. -/
def emit (descriptor : Nat) (s : Octets) : Edit Unit :=
  modify fun e => { e with printed := (descriptor, s) :: e.printed }

/-- The name under which what replaces a file is collected. -/
def replacement : Octets := ""

/-- Writes a text to what a name stands for, behind a line that was not ended. -/
def writeTo (name : Octets) (s : Octets) (ended : Bool) : Edit Unit := do
  let e ← get
  let toScreen : Bool := name = "/dev/stdout" || (name = replacement && !e.replacing)
  if toScreen then
    let lead := if e.isOpen then "\n" else ""
    set { e with printed := (1, lead ++ s) :: e.printed, isOpen := !ended }
  else if name = "/dev/stderr" then emit 2 s
  else
    let old := ((e.outputs.find? (·.1 = name)).map (·.2)).getD {}
    let lead := if old.isOpen then "\n" else ""
    let new : Output := ⟨(lead ++ s) :: old.written, !ended⟩
    set { e with outputs := (name, new) :: e.outputs.filter (·.1 != name) }

/-- Prints a text. -/
def printText (s : Octets) : Edit Unit :=
  writeTo replacement s true

/-- Writes a line to what a name stands for. -/
def writeLineTo (m : Manner) (name : Octets) (l : Line) : Edit Unit :=
  let text := String.ofList l.text
  writeTo name (if l.ended then text ++ String.singleton m.stop else text) l.ended

/-- Prints a line. -/
def printLine (m : Manner) (l : Line) : Edit Unit :=
  writeLineTo m replacement l

/-! ## Reading -/

/-- The lines of a text. -/
def linesOf (stop : Char) (cs : List Char) : List Line :=
  (Octets.endedPieces stop cs).map fun l =>
    if l.getLast? = some stop then ⟨l.dropLast, true⟩ else ⟨l, false⟩

/-- A file has lines. -/
def Input.hasLines (i : Input) : Bool :=
  match i.lines with
  | .ok ls => !ls.isEmpty
  | .error _ => false

/-- The line is the last one. -/
def isLast (m : Manner) : Edit Bool := do
  let e ← get
  return e.lines.isEmpty && (m.separate || !e.inputs.any Input.hasLines)

/-- No line follows in any file. -/
def isAtEnd : Edit Bool := do
  let e ← get
  return e.lines.isEmpty && !e.inputs.any Input.hasLines

/-- Prints what waits for the end of the cycle. -/
def printWaiting (m : Manner) : Edit Unit := do
  let e ← get
  set { e with waiting := [] }
  for w in e.waiting do
    match w with
    | .text s => printText s
    | .file name =>
      match (← get).scene.content name with
      | .ok text =>
        if text != "" then writeTo replacement text (text.endsWith (String.singleton m.stop))
      | .error _ => pure ()

/-- Puts what was written in the place of the file that was read. -/
def finishFile (m : Manner) : Edit Unit := do
  match m.inPlace with
  | none => return ()
  | some suffix =>
    let e ← get
    if e.replacing then
      let text := ((e.outputs.find? (·.1 = replacement)).map fun o =>
        String.join o.2.written.reverse).getD ""
      match e.scene.find e.fileName with
      | .ok (place, .file old) =>
        let tree := e.scene.machine.tree
        let tree := if suffix.isEmpty then tree
          else
            let base := FileName.base e.fileName
            let name := if suffix.toList.contains '*' then Text.replaced "*" base suffix
              else base ++ suffix
            tree.put (place.dropLast ++ [Octets.toText name]) (.file old)
        let tree := tree.put place (.file (Octets.toBytes text))
        set { e with scene := e.scene.withTree tree, replacing := false
                     outputs := e.outputs.filter (·.1 != replacement) }
      | _ => set { e with replacing := false }

/-- Opens the next file that can be read. -/
def openNext (m : Manner) : Nat → Edit Bool
  | 0 => return false
  | fuel + 1 => do
    finishFile m
    let e ← get
    match e.inputs with
    | [] => return false
    | i :: rest =>
      match i.lines with
      | .ok ls =>
        let fresh : Bool := m.separate
        set { e with
          inputs := rest, lines := ls, fileName := i.name
          number := if fresh then 0 else e.number
          ranges := if fresh then e.ranges.map fun _ => .outside else e.ranges
          replacing := m.inPlace.isSome }
        if ls.isEmpty then openNext m fuel else return true
      | .error fault =>
        set { e with inputs := rest }
        if fault = .isDirectory then
          if m.inPlace.isSome then
            emit 2 s!"sed: couldn't edit {i.name}: not a regular file\n"
            modify fun e => { e with status := 4 }
          else
            emit 2 s!"sed: read error on {i.name}: {fault.text}\n"
            modify fun e => { e with status := 4 }
        else
          emit 2 s!"sed: can't read {i.name}: {fault.text}\n"
          modify fun e => { e with status := 2 }
        openNext m fuel

/-- Takes the next line, in the place of the current one or behind it. -/
def takeLine (m : Manner) (behind : Bool) : Edit Bool := do
  printWaiting m
  let hasLine ← do
    let e ← get
    if e.lines.isEmpty then openNext m (e.inputs.length + 1) else pure true
  let e ← get
  match hasLine, e.lines with
  | true, l :: rest =>
    let line : Line := if behind then ⟨e.line.text ++ m.stop :: l.text, l.ended⟩ else l
    set { e with line, lines := rest, number := e.number + 1, substituted := false }
    return true
  | _, _ => return false

/-! ## Selecting lines -/

/-- The expression that is meant; it is used last from now on. -/
def meant (x : Expression) : Edit Regex := do
  match x with
  | some r =>
    modify fun e => { e with last := some r }
    return r
  | none =>
    match (← get).last with
    | some r => return r
    | none => throw (1, "sed: -e expression #1, char 0: no previous regular expression\n")

/-- The expression matches the line. -/
def matchesLine (x : Expression) : Edit Bool := do
  let r ← meant x
  return Regex.matches_ (← get).line.text.toArray r

/-- The address selects the line. -/
def holdsAt (m : Manner) (a : Address) : Edit Bool := do
  let n := (← get).number
  match a with
  | .line k => return n == k
  | .every first step => return decide (first ≤ n) && (n - first) % step == 0
  | .last => isLast m
  | .expression x => matchesLine x

/-- Sets where a range stands. -/
def setRange (index : Nat) (r : Range) : Edit Unit :=
  modify fun e => { e with ranges := e.ranges.setIfInBounds index r }

/-- The lines from the current one on belong to a range. -/
def enterRange (index : Nat) (isLine : Bool) (ending : Ending) : Edit Bool := do
  let n := (← get).number
  let upTo (stop : Nat) : Edit Bool := do
    if stop ≤ n then setRange index (if isLine then .closed else .outside)
    else setRange index (.inside (some stop))
    return true
  match ending with
  | .line k => upTo k
  | .after k => upTo (n + k)
  | .multiple k => upTo (if k = 0 then n else (n / k + 1) * k)
  | _ =>
    setRange index (.inside none)
    return true

/-- The line belongs to the range of a command. -/
def inRange (m : Manner) (index : Nat) (first : Address) (ending : Ending) : Edit Bool := do
  let e ← get
  let isLine : Bool := first matches .line _
  let after : Range := if isLine then .closed else .outside
  match (e.ranges[index]?).getD .outside with
  | .inside (some stop) =>
    if stop ≤ e.number then setRange index after
    return e.number ≤ stop
  | .inside none =>
    let ends ← match ending with
      | .last => isLast m
      | .expression x => matchesLine x
      | _ => pure true
    if ends then setRange index after
    return true
  | .closed => return false
  | .outside =>
    if ← holdsAt m first then enterRange index isLine ending else return false

/-- The line is one of those that a command is for. -/
def isSelected (m : Manner) (index : Nat) (s : Selection) : Edit Bool := do
  let inside ← match s.first, s.ending with
    | none, _ => pure true
    | some a, none => holdsAt m a
    | some a, some ending => inRange m index a ending
  return inside != s.negated

/-! ## Substituting -/

/-- A text that is put together, in reverse, with the case of what follows. -/
structure Replacing where
  done : List Char := []
  case : Case := .asIs
  next : Option Case := none

/-- A character in a case. -/
def Case.apply : Case → Char → Char
  | .asIs, c => c
  | .upper, c => c.toUpper
  | .lower, c => c.toLower

/-- Puts in a text. -/
def Replacing.put (r : Replacing) (cs : List Char) : Replacing :=
  match cs with
  | [] => r
  | c :: rest =>
    let first := ((r.next).getD r.case).apply c
    { r with done := (rest.map r.case.apply).reverse ++ first :: r.done, next := none }

/-- Puts in a piece. -/
def Replacing.piece (groups : Nat → List Char) (r : Replacing) : Piece → Replacing
  | .text cs => r.put cs
  | .group n => r.put (groups n)
  | .setCase c => { r with case := c, next := none }
  | .nextCase c => { r with next := some c }

/-- What is put in the place of a stretch. -/
def replacementOf (t : Regex.Subject) (r : Regex) (f : Regex.Found) (pieces : List Piece) :
    List Char :=
  let groups := Regex.groupTexts t r f
  (pieces.foldl (Replacing.piece groups) {}).done.reverse

/-- Replaces stretches from a position on; `done` is what stands before, in reverse. -/
def replaceFrom (t : Regex.Subject) (r : Regex) (s : Substitution) :
    Nat → Nat → Nat → Option Nat → List Char → Bool → List Char × Bool
  | 0, _, _, _, done, changed => (done.reverse, changed)
  | fuel + 1, i, count, last, done, changed =>
    let finish (done : List Char) (i : Nat) (changed : Bool) : List Char × Bool :=
      (done.reverse ++ Regex.slice t i t.size, changed)
    match Regex.find t r i with
    | none => finish done i changed
    | some f =>
      let before := (Regex.slice t i f.start).reverse ++ done
      let isEmpty : Bool := f.start == f.stop
      if isEmpty && last = some f.start then
        match t[f.start]? with
        | none => (before.reverse, changed)
        | some c => replaceFrom t r s fuel (f.start + 1) count none (c :: before) changed
      else
        let replaces : Bool := decide (s.number ≤ count)
        let put := if replaces then replacementOf t r f s.replacement
          else Regex.slice t f.start f.stop
        let done := put.reverse ++ before
        if replaces && !s.all then finish done f.stop true
        else
          let changed : Bool := changed || replaces
          if isEmpty then
            match t[f.stop]? with
            | none => (done.reverse, changed)
            | some c => replaceFrom t r s fuel (f.stop + 1) (count + 1) none (c :: done) changed
          else replaceFrom t r s fuel f.stop (count + 1) (some f.stop) done changed

/-- Substitutes in the line. -/
def substitute (m : Manner) (s : Substitution) : Edit Unit := do
  let r ← meant s.expression
  let t := (← get).line.text.toArray
  let (text, changed) := if Regex.matches_ t r then
      replaceFrom t r s (2 * t.size + 3) 0 1 none [] false
    else ([], false)
  if changed then
    modify fun e => { e with line := { e.line with text }, substituted := true }
    let line := (← get).line
    if s.prints then printLine m line
    match s.target with
    | some name => writeLineTo m name line
    | none => pure ()

/-! ## Commands -/

/-- A character as a listing shows it. -/
def listed (c : Char) : List Char :=
  match c with
  | '\\' => ['\\', '\\']
  | '\x07' => ['\\', 'a']
  | '\x08' => ['\\', 'b']
  | '\x0c' => ['\\', 'f']
  | '\n' => ['\\', 'n']
  | '\r' => ['\\', 'r']
  | '\t' => ['\\', 't']
  | '\x0b' => ['\\', 'v']
  | c =>
    if 32 ≤ c.toNat && c.toNat < 127 then [c]
    else
      let digits := Nat.toDigits 8 c.toNat
      '\\' :: (List.replicate (3 - digits.length) '0' ++ digits)

/-- A line as a listing shows it, in lines of a width. -/
def listing (width : Nat) (cs : List Char) : Octets :=
  let (shown, _) := cs.foldl
    (fun ((shown : List (List Char)), (column : Nat)) c =>
      let mark := listed c
      if 0 < width && width - 1 < column + mark.length then
        (mark :: ['\\', '\n'] :: shown, mark.length)
      else (mark :: shown, column + mark.length))
    ([], 0)
  String.ofList (shown.reverse.flatten ++ ['$', '\n'])

/-- How the commands go on. -/
inductive Flow where
  /-- With the next command. -/
  | on
  | jump (target : Nat)
  /-- With the next cycle, perhaps after printing the line. -/
  | cycle (prints : Bool)
  /-- With the first command and what is left of the line. -/
  | again
  | quit (prints : Bool) (status : Nat)

/-- Takes a line from a file that is read line by line. -/
def takeReaderLine (m : Manner) (name : Octets) : Edit (Option Line) := do
  let e ← get
  let lines := match e.readers.find? (·.1 = name) with
    | some (_, ls) => ls
    | none =>
      match e.scene.content name with
      | .ok text => linesOf m.stop text.toList
      | .error _ => []
  set { e with readers := (name, lines.tail) :: e.readers.filter (·.1 != name) }
  return lines.head?

/-- Lets something wait for the end of the cycle. -/
def wait (w : Waiting) : Edit Unit :=
  modify fun e => { e with waiting := e.waiting ++ [w] }

/-- Runs a command on a line that it is for. -/
def runAction (m : Manner) (index : Nat) (c : Command) : Edit Flow := do
  let e ← get
  let line := e.line
  let setLine (l : Line) : Edit Flow := do
    modify fun e => { e with line := l }
    return .on
  match c.action with
  | .block _ => return .on
  | .nothing => return .on
  | .append s =>
    wait (.text s)
    return .on
  | .insert s =>
    printText s
    return .on
  | .change s =>
    let goesOn : Bool := ((e.ranges[index]?).getD .outside) matches .inside _
    if c.selection.ending.isNone || c.selection.negated || !goesOn then printText s
    return .cycle false
  | .jump rule _ target =>
    let jumps : Bool := match rule with
      | .always => true
      | .substituted => e.substituted
      | .notSubstituted => !e.substituted
    if rule != .always then modify fun e => { e with substituted := false }
    if jumps then return (match target with
      | some t => .jump t
      | none => .cycle true)
    else return .on
  | .delete => return .cycle false
  | .deleteLine =>
    if line.text.contains '\n' then
      let rest := (line.text.dropWhile (· != '\n')).drop 1
      modify fun e => { e with line := { line with text := rest } }
      return .again
    else return .cycle false
  | .print =>
    printLine m line
    return .on
  | .printLine =>
    printLine m ⟨line.text.takeWhile (· != '\n'), true⟩
    return .on
  | .exchange =>
    set { e with line := e.held, held := line }
    return .on
  | .get => setLine e.held
  | .getMore => setLine { line with text := line.text ++ m.stop :: e.held.text }
  | .hold =>
    set { e with held := line }
    return .on
  | .holdMore =>
    set { e with held := { e.held with text := e.held.text ++ m.stop :: line.text } }
    return .on
  | .next =>
    if ← isAtEnd then return .quit true 0
    else
      if !m.quiet then printLine m line
      if ← takeLine m false then return .on else return .quit false 0
  | .nextMore =>
    if ← isAtEnd then return .quit true 0
    else if ← takeLine m true then return .on
    else return .quit true 0
  | .number =>
    printText s!"{e.number}\n"
    return .on
  | .fileName =>
    printText (e.fileName ++ "\n")
    return .on
  | .list width =>
    printText (listing (width.getD m.width) line.text)
    return .on
  | .quit prints status => return .quit prints status
  | .readFile name =>
    wait (.file name)
    return .on
  | .readLine name =>
    match ← takeReaderLine m name with
    | some l => wait (.text (String.ofList l.text ++ "\n"))
    | none => pure ()
    return .on
  | .write name =>
    writeLineTo m name line
    return .on
  | .writeLine name =>
    writeLineTo m name ⟨line.text.takeWhile (· != '\n'), true⟩
    return .on
  | .substitute s =>
    substitute m s
    return .on
  | .mapped table =>
    setLine { line with
      text := line.text.map fun c => ((table.find? (·.1 = c)).map (·.2)).getD c }
  | .clear => setLine { line with text := [] }

/-- Runs the commands from a number on, in at most `fuel` steps. -/
def runCommands (m : Manner) : Nat → Nat → Edit (Option Flow)
  | 0, _ => return none
  | fuel + 1, index => do
    match m.script.commands[index]? with
    | none => return some (.cycle true)
    | some c =>
      if ← isSelected m index c.selection then
        match ← runAction m index c with
        | .on => runCommands m fuel (index + 1)
        | .jump target => runCommands m fuel target
        | flow => return some flow
      else
        match c.action with
        | .block stop => runCommands m fuel (stop + 1)
        | _ => runCommands m fuel (index + 1)

/-- The commands that are run in a cycle before it counts as endless. -/
def maxSteps : Nat := 200000

/-- Ends a cycle. -/
def endCycle (m : Manner) (prints : Bool) : Edit Unit := do
  if prints && !m.quiet then printLine m (← get).line
  printWaiting m

/-- Runs the script on all lines; tells whether it came to an end. -/
def runCycles (m : Manner) : Nat → Bool → Edit Bool
  | 0, _ => return false
  | fuel + 1, keeps => do
    let hasLine ← if keeps then pure true else takeLine m false
    if !hasLine then return true
    else
      match ← runCommands m maxSteps 0 with
      | none => return false
      | some (.quit prints status) =>
        endCycle m prints
        if 0 < status then modify fun e => { e with status }
        return true
      | some .again =>
        endCycle m false
        runCycles m fuel true
      | some (.cycle prints) =>
        endCycle m prints
        runCycles m fuel false
      | some _ => return true

/-- Writes the files that were written to. -/
def writeOutputs (e : Editor) : FileTree :=
  e.outputs.foldr
    (fun (name, o) tree =>
      match e.scene.machine.locate e.scene.here name with
      | .ok place =>
        if Option.any (·.isDevice) (e.scene.machine.node? place) then tree
        else tree.put place (.file (Octets.toBytes (String.join o.written.reverse)))
      | .error _ => tree)
    e.scene.machine.tree

/-- The files that a script writes to. -/
def Script.targets (s : Script) : List Octets :=
  s.commands.toList.flatMap fun c => match c.action with
    | .write name => [name]
    | .writeLine name => [name]
    | .substitute x => x.target.toList
    | _ => []

/-- Runs a script on files. -/
def run (m : Manner) (names : List Octets) (scene : Scene) : Ran :=
  let names := if names.isEmpty then ["-"] else names
  let inputs : List Input := names.map fun name =>
    let content := if m.inPlace.isSome && name = "-" then .error .notFound else scene.content name
    ⟨name, content.map fun text => linesOf m.stop text.toList⟩
  let ranges := m.script.commands.map fun c =>
    if isZero c.selection.first then Range.inside none else .outside
  let outputs : List (Octets × Output) := m.script.targets.eraseDups.filterMap fun n =>
    if n = "/dev/stdout" || n = "/dev/stderr" then none else some (n, ({} : Output))
  let unwritable := outputs.findSome? fun (n, _) =>
    match scene.machine.locate scene.here n with
    | .error fault => some (n, fault)
    | .ok place =>
      if scene.machine.node? place = some .directory then some (n, .isDirectory) else none
  match unwritable with
  | some (n, fault) => .complaint 4 s!"sed: couldn't open file {n}: {fault.text}"
  | none =>
    let size := inputs.foldl (fun n i => match i.lines with
      | .ok ls => n + ls.foldl (fun n l => n + l.text.length + 2) 0
      | .error _ => n + 1) 100
    let start : Editor := { inputs, ranges, outputs, scene }
    let (result, e) := (do
      let ends ← runCycles m size false
      finishRest m
      return ends : Edit Bool).run start
    let left : List Char := (Text.joinText [] (e.lines.map fun l =>
      if l.ended then l.text ++ [m.stop] else l.text))
    let usesInput : Bool := names.any Scene.isInput
    let opened : Bool := usesInput && !(e.inputs.any fun i => Scene.isInput i.name)
    let unread := if opened then
        some (if scene.seekable && Scene.isInput e.fileName then left else [])
      else none
    let tree := some (writeOutputs e)
    match result with
    | .ok ends =>
      { printed := e.printed.reverse, status := e.status, tree, unread, endless := !ends }
    | .error (status, message) =>
      { printed := (e.printed.reverse ++ [(2, message)]), status, tree, unread }
where
  /-- Takes over the lines of a file in which the script ended. -/
  finishRest (m : Manner) : Edit Unit := do
    if m.inPlace.isSome then
      let lines := (← get).lines
      for l in lines do
        printLine m l
      modify fun e => { e with lines := [] }
      finishFile m

/-! ## The tool -/

/-- How the tool is called. -/
def usage : Octets :=
  "Usage: sed [OPTION]... {script-only-if-no-other-script} [input-file]...\n"

/-- The options of `sed`. The letter `i` may have a value in its own argument. -/
def table : OptionTable :=
  { flags := "nrEsuz", valued := "efl"
    long := [⟨"quiet", 'n', .never⟩, ⟨"silent", 'n', .never⟩, ⟨"expression", 'e', .always⟩,
      ⟨"file", 'f', .always⟩, ⟨"in-place", 'i', .maybe⟩, ⟨"line-length", 'l', .always⟩,
      ⟨"regexp-extended", 'E', .never⟩, ⟨"separate", 's', .never⟩, ⟨"unbuffered", 'u', .never⟩,
      ⟨"null-data", 'z', .never⟩, ⟨"posix", 'p', .never⟩, ⟨"debug", 'D', .never⟩,
      ⟨"sandbox", 'S', .never⟩, ⟨"help", 'h', .never⟩, ⟨"follow-symlinks", 'F', .never⟩] }

/-- Writes the option `i` as a word. -/
def withInPlace : Nat → List Octets → List Octets
  | _, [] => []
  | skip + 1, a :: rest => a :: withInPlace skip rest
  | 0, a :: rest =>
    if a = "--" then a :: rest
    else if a.startsWith "-" && !a.startsWith "--" then
      let letters := (a.toList.drop 1).takeWhile fun c => "nrEsuz".toList.contains c
      match a.toList.drop (1 + letters.length) with
      | 'i' :: suffix =>
        let own := if letters.isEmpty then [] else [String.ofList ('-' :: letters)]
        own ++ ("--in-place=" ++ String.ofList suffix) :: withInPlace 0 rest
      | [c] => a :: withInPlace (if "efl".toList.contains c then 1 else 0) rest
      | _ => a :: withInPlace 0 rest
    else a :: withInPlace 0 rest

/-- A part of a script: where it comes from, and its text. -/
structure Fragment where
  file : Option Octets := none
  text : Octets

/-- The parts of the script of a call and the operands that are left. -/
def fragmentsOf (call : Call) (scene : Scene) : Except Octets (List Fragment × List Octets) := do
  let given := call.options.filter fun o => o.name = "e" || o.name = "f"
  if given.isEmpty then
    match call.operands with
    | [] => .error usage
    | text :: names => return ([{ text }], names)
  else
    let fragments ← given.mapM fun o =>
      let value := o.value.getD ""
      if o.name = "e" then .ok { text := value }
      else
        match scene.content value with
        | .ok text =>
          let body := if text.endsWith "\n" then String.ofList text.toList.dropLast else text
          .ok { file := some value, text := body }
        | .error fault =>
          .error (s!"sed: couldn't open file {value}: {fault.text}\n")
    return (fragments, call.operands)

/-- Where a fault stands: the part of the script by its number, and the place in it. -/
def faultText (fragments : List Fragment) (f : ScriptFault) : Octets :=
  if f.isLate then s!"sed: {f.message}"
  else if f.position = 0 then s!"sed: -e expression #1, char 0: {f.message}"
  else
    let rec find (number start : Nat) : List Fragment → Octets
      | [] => s!"sed: {f.message}"
      | g :: rest =>
        let length := g.text.length
        if f.position ≤ start + length || rest.isEmpty then
          let own := f.position - start
          match g.file with
          | none => s!"sed: -e expression #{number}, char {own}: {f.message}"
          | some name =>
            let line := (g.text.toList.take (own - 1)).count '\n' + 1
            s!"sed: file {name} line {line}: {f.message}"
        else find (if g.file.isNone then number + 1 else number) (start + length + 1) rest
    find 1 0 fragments

/-- Edits the lines of files by a script. -/
def sed : Tool := fun args scene =>
  match table.read (withInPlace 0 args) with
  | .error m => .complaint 1 (m.text "sed" ++ "\n" ++ usage)
  | .ok call =>
    if call.has 'h' then .output usage
    else
      match fragmentsOf call scene with
      | .error message =>
        { printed := [(2, message)], status := if call.has 'f' then 4 else 1 }
      | .ok (fragments, names) =>
        let extended : Bool := call.has 'E' || call.has 'r'
        let text := Text.joined "\n" (fragments.map (·.text))
        match Script.read extended text with
        | .error fault =>
          .complaint (if fault.isLate then 4 else 1) (faultText fragments fault)
        | .ok script =>
          let inPlace : Option Octets := if call.has 'i' then some ((call.value? 'i').getD "")
            else none
          if inPlace.isSome && names.isEmpty then .complaint 4 "sed: no input files"
          else
            run
              { script, quiet := call.has 'n' || script.quiet
                separate := call.has 's' || inPlace.isSome, inPlace
                stop := if call.has 'z' then '\x00' else '\n'
                width := ((call.value? 'l').bind Amount.digits?).getD 70 } names scene

end Mender.Editing
