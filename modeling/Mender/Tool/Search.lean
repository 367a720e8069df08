import Mender.Tool.Regex
import Mender.Tool.Work
import Mender.Shell.Wildcard

/-!
# Searching

Finds the lines of files that expressions match, and prints them or tells of them.
-/

namespace Mender.Searching

/-- What is told of files that match. -/
inductive Told where
  | lines
  | stretches
  | counts
  | names
  | otherNames
  | nothing
  deriving DecidableEq, Repr

/-- How files are searched. -/
structure Search where
  expressions : List Regex
  /-- The lines that do not match count. -/
  inverted : Bool := false
  /-- An expression has to match a whole line, or whole words. -/
  wholeLines : Bool := false
  wholeWords : Bool := false
  told : Told := .lines
  most : Option Nat := none
  before : Option Nat := none
  after : Option Nat := none
  /-- The names of files, the numbers of lines, and the places of lines stand before lines. -/
  withNames : Bool := false
  withNumbers : Bool := false
  withPlaces : Bool := false
  /-- What stands behind the name of a file that is told alone. -/
  nameEnd : Octets := "\n"
  /-- Files that are no texts are searched as if they were. -/
  asText : Bool := false
  skipsBinary : Bool := false
  /-- What ends a line. -/
  stop : Char := '\n'
  label : Octets := "(standard input)"
  silent : Bool := false

namespace Search

/-- The stretch of a line counts. -/
def accepts (s : Search) (t : Regex.Subject) (i j : Nat) : Bool :=
  if s.wholeLines then i == 0 && j == t.size
  else if s.wholeWords then !Regex.before t Regex.isWord i && !Regex.at_ t Regex.isWord j
  else true

/-- The first and longest stretch of a line from a position. -/
def find (s : Search) (t : Regex.Subject) (i : Nat) : Option Regex.Found :=
  let found := s.expressions.filterMap fun r =>
    Regex.findFrom t r (s.accepts t) (t.size + 1 - i) i
  found.foldl
    (fun best f => match best with
      | none => some f
      | some b => if f.start < b.start || (f.start = b.start && b.stop < f.stop) then some f
        else best)
    none

/-- A line matches. -/
def matchesLine (s : Search) (t : Regex.Subject) : Bool :=
  if s.wholeLines || s.wholeWords then (s.find t 0).isSome
  else s.expressions.any (Regex.matches_ t)

/-- A line counts. -/
def selects (s : Search) (l : List Char) : Bool :=
  s.matchesLine l.toArray != s.inverted

/-- All stretches of a line that match, without those that are empty. -/
def stretches (s : Search) (t : Regex.Subject) : Nat → Nat → List Regex.Found
  | 0, _ => []
  | fuel + 1, i =>
    match s.find t i with
    | none => []
    | some f =>
      if f.stop = f.start then
        if t.size ≤ f.start then [] else stretches s t fuel (f.start + 1)
      else f :: stretches s t fuel f.stop

end Search

/-- A line of a file that is searched. -/
structure Line where
  number : Nat
  /-- The place of its first byte. -/
  place : Nat
  text : List Char
  selected : Bool

/-- The lines of a text. -/
def Search.lines (s : Search) (cs : List Char) : List Line :=
  let (done, _, _) := (Octets.pieces s.stop cs).foldl
    (fun ((done : List Line), (n : Nat), (place : Nat)) l =>
      (⟨n, place, l, s.selects l⟩ :: done, n + 1, place + l.length + 1))
    ([], 1, 0)
  done.reverse

/-- The lines up to the last one that counts, and the ones that follow it up to the next that
would count. -/
def cutAfter : Nat → List Line → List Line × List Line
  | _, [] => ([], [])
  | 0, ls => ([], ls.takeWhile fun l => !l.selected)
  | n + 1, l :: ls =>
    let (first, rest) := cutAfter (if l.selected then n else n + 1) ls
    (l :: first, rest)

/-- The lines that are shown: those that count with their neighbours. -/
def Search.shown (s : Search) (ls : List Line) : List Line :=
  let before := s.before.getD 0
  let after := s.after.getD 0
  let (kept, _) := ls.foldl
    (fun ((kept : List (Line × Bool)), (left : Nat)) l =>
      if l.selected then
        let near := (kept.take before).map fun k => (k.1, true)
        ((l, true) :: (near ++ kept.drop before), after)
      else ((l, 0 < left) :: kept, left - 1))
    ([], 0)
  (kept.filterMap fun (l, isShown) => if isShown then some l else none).reverse

/-- What stands before a line. -/
def Search.lead (s : Search) (name : Octets) (sign : Octets) (number place : Nat) : Octets :=
  (if s.withNames then name ++ sign else "") ++
    (if s.withNumbers then toString number ++ sign else "") ++
    if s.withPlaces then toString place ++ sign else ""

/-- The lines that are printed of a file. The flag says whether something was printed before. -/
def Search.printed (s : Search) (name : Octets) (used : Bool) (ls : List Line) : Octets × Bool :=
  let ending := String.singleton s.stop
  let context : Bool := s.before.isSome || s.after.isSome
  let (done, used, _) := ls.foldl
    (fun ((done : List Octets), (used : Bool), (last : Option Nat)) l =>
      let gap : Bool := context && used && last != some (l.number - 1)
      let done := if gap then "--\n" :: done else done
      let lead := s.lead name (if l.selected then ":" else "-") l.number l.place
      ((lead ++ String.ofList l.text ++ ending) :: done, true, some l.number))
    ([], used, none)
  (String.join done.reverse, used)

/-- The stretches that are printed of a file. -/
def Search.printedStretches (s : Search) (name : Octets) (ls : List Line) : Octets :=
  String.join (ls.flatMap fun l =>
    if s.inverted then []
    else
      let t := l.text.toArray
      (s.stretches t (t.size + 1) 0).map fun f =>
        s.lead name ":" l.number (l.place + f.start) ++
          String.ofList (Regex.slice t f.start f.stop) ++ "\n")

/-- What a search has found. -/
structure Result where
  printed : List (Nat × Octets) := []
  /-- Some line counted. -/
  found : Bool := false
  failed : Bool := false
  /-- Lines were printed. -/
  used : Bool := false
  inputTaken : Bool := false

/-- Searches a text. -/
def Search.file (s : Search) (r : Result) (name : Octets) (text : Octets) : Result :=
  let isBinary : Bool := !s.asText && s.stop == '\n' && text.toList.contains '\x00'
  let cs := if isBinary then text.toList.map fun c => if c == '\x00' then '\n' else c
    else text.toList
  let lines := if isBinary && s.skipsBinary then [] else s.lines cs
  let all := lines.filter (·.selected)
  let counted := match s.most with
    | some n => all.take n
    | none => all
  let found := !counted.isEmpty
  let tell (told : Octets) : Result :=
    { r with printed := (1, told) :: r.printed, found := r.found || found }
  let nothing : Result := { r with found := r.found || found }
  match s.told with
  | .nothing => nothing
  | .names => if found then tell (name ++ s.nameEnd) else nothing
  | .otherNames => if found then nothing else tell (name ++ s.nameEnd)
  | .counts => tell ((if s.withNames then name ++ ":" else "") ++ s!"{counted.length}\n")
  | told =>
    if !found then nothing
    else if isBinary then
      { nothing with printed := (2, s!"grep: {name}: binary file matches\n") :: r.printed }
    else if told = .stretches then tell (s.printedStretches name counted)
    else
      let kept := match s.most with
        | some n =>
          let (first, rest) := cutAfter n lines
          first ++ rest
        | none => lines
      let (text, used) := s.printed name r.used (s.shown kept)
      { tell text with used }

/-- A file that is searched, by its name and how it is told. -/
structure Target where
  name : Octets
  label : Octets
  withNames : Bool

/-- Searches files until nothing more has to be found. -/
def Search.through (s : Search) (scene : Scene) (targets : List Target) : Result :=
  targets.foldl
    (fun r target =>
      if s.told = .nothing && r.found then r
      else
        let s := { s with withNames := target.withNames }
        let fail (message : Octets) : Result :=
          { r with
            printed := if s.silent then r.printed else (2, message) :: r.printed
            failed := true }
        let isOutput : Bool := (s.told = .lines || s.told = .stretches) &&
          scene.outputPlace.isSome &&
          ((scene.find target.name).toOption.map (·.1)) = scene.outputPlace
        if target.name = "-" then
          let input := if r.inputTaken then "" else String.ofList scene.input
          { s.file r s.label input with inputTaken := true }
        else if isOutput then
          fail s!"grep: {Naming.shown target.label}: input file is also the output\n"
        else
          match scene.content target.name with
          | .ok text => s.file r target.label text
          | .error fault => fail s!"grep: {Naming.shown target.label}: {fault.text}\n")
    {}

/-- Which files below directories are searched. -/
structure Choice where
  included : List Octets := []
  excluded : List Octets := []
  excludedDirectories : List Octets := []

/-- A file below a directory is searched. -/
def Choice.holds (c : Choice) (name : Octets) : Bool :=
  let matchesOne (globs : List Octets) : Bool := globs.any fun g =>
    Shell.Wildcard.matchesAll g.toList name.toList
  (c.included.isEmpty || matchesOne c.included) && !matchesOne c.excluded

/-- The files below a directory; the depth of the tree is bounded by `fuel`. -/
def filesBelow (c : Choice) (s : Scene) : Nat → Octets → TreePlace → List Octets
  | 0, _, _ => []
  | fuel + 1, name, place =>
    (s.machine.names place).flatMap fun child =>
      let path := if name.isEmpty then child else FileName.join name child
      let inside := place ++ [Octets.toText child]
      match s.machine.node? inside with
      | some .directory =>
        let isExcluded := c.excludedDirectories.any fun g =>
          Shell.Wildcard.matchesAll g.toList child.toList
        if isExcluded then []
        else filesBelow c s fuel path inside
      | some (.file _) => if c.holds child then [path] else []
      | _ => []

/-- The options of `grep`. -/
def table : OptionTable :=
  { flags := "EFGPivwxclLqshHnbozZaUIrRTyu0123456789", valued := "efmABCDd"
    long := [⟨"extended-regexp", 'E', .never⟩, ⟨"fixed-strings", 'F', .never⟩,
      ⟨"basic-regexp", 'G', .never⟩, ⟨"perl-regexp", 'P', .never⟩, ⟨"regexp", 'e', .always⟩,
      ⟨"file", 'f', .always⟩, ⟨"ignore-case", 'i', .never⟩, ⟨"no-ignore-case", 'j', .never⟩,
      ⟨"word-regexp", 'w', .never⟩, ⟨"line-regexp", 'x', .never⟩, ⟨"null-data", 'z', .never⟩,
      ⟨"no-messages", 's', .never⟩, ⟨"invert-match", 'v', .never⟩, ⟨"max-count", 'm', .always⟩,
      ⟨"byte-offset", 'b', .never⟩, ⟨"line-number", 'n', .never⟩,
      ⟨"line-buffered", 'u', .never⟩, ⟨"with-filename", 'H', .never⟩,
      ⟨"no-filename", 'h', .never⟩, ⟨"label", 'X', .always⟩, ⟨"only-matching", 'o', .never⟩,
      ⟨"quiet", 'q', .never⟩, ⟨"silent", 'q', .never⟩, ⟨"binary-files", 'Y', .always⟩,
      ⟨"text", 'a', .never⟩, ⟨"recursive", 'r', .never⟩,
      ⟨"dereference-recursive", 'R', .never⟩, ⟨"include", 'M', .always⟩,
      ⟨"exclude", 'N', .always⟩, ⟨"exclude-dir", 'O', .always⟩,
      ⟨"files-without-match", 'L', .never⟩, ⟨"files-with-matches", 'l', .never⟩,
      ⟨"count", 'c', .never⟩, ⟨"initial-tab", 'T', .never⟩, ⟨"null", 'Z', .never⟩,
      ⟨"before-context", 'B', .always⟩, ⟨"after-context", 'A', .always⟩,
      ⟨"context", 'C', .always⟩, ⟨"color", 'K', .maybe⟩, ⟨"colour", 'K', .maybe⟩] }

/-- How the tool is called. -/
def usage : Octets :=
  "Usage: grep [OPTION]... PATTERNS [FILE]...\nTry 'grep --help' for more information."

/-- The patterns of a call and the operands that are left, or what is wrong. -/
def patternsOf (call : Call) (scene : Scene) : Except Octets (List Octets × List Octets) := do
  let given := call.options.filter fun o => o.name = "e" || o.name = "f"
  if given.isEmpty then
    match call.operands with
    | [] => .error usage
    | p :: names => return ((Text.splitText ['\n'] p.toList).map String.ofList, names)
  else
    let groups ← given.mapM fun o => do
      let value := o.value.getD ""
      if o.name = "e" then return (Text.splitText ['\n'] value.toList).map String.ofList
      else
        match scene.content value with
        | .ok text => return Octets.toLines text
        | .error fault => .error s!"grep: {Naming.shown value}: {fault.text}"
    return (groups.flatten, call.operands)

/-- Reads the expressions of a call; also returns the warnings about them. -/
def expressionsOf (call : Call) (patterns : List Octets) :
    Except Octets (List Regex × List Octets) := do
  let kind := (call.last? "EFGP").getD 'G'
  let form : Regex.Form :=
    { extended := kind = 'E' || kind = 'P', fold := call.last? "iyj" matches some 'i' | some 'y'
      digits := kind = 'P' }
  if kind = 'F' then return (patterns.map (Regex.fixed form), [])
  else
    let expressions ← patterns.mapM fun p =>
      match Regex.read form p with
      | .ok (r, _) => .ok r
      | .error fault => .error s!"grep: {fault.text}"
    let strays := if kind = 'E' then
        patterns.flatMap fun p => Regex.strayRepetitions (p.length + 1) true p.toList
      else []
    return (expressions, strays.map fun sign => s!"grep: warning: {sign} at start of expression")

/-- The number of lines around a match that an option asks for. -/
def contextOf (call : Call) (letter : Char) : Except Octets (Option Nat) :=
  let digits := String.join ((call.options.filter fun o => o.name.all Char.isDigit).map (·.name))
  let common := (call.value? 'C').orElse fun _ => if digits.isEmpty then none else some digits
  match (call.value? letter).orElse fun _ => common with
  | none => .ok none
  | some v =>
    match Amount.digits? v with
    | some n => .ok (some n)
    | none => .error s!"grep: {v}: invalid context length argument"

/-- Reads a call: the search, the operands and the warnings. -/
def ofCall (call : Call) (scene : Scene) :
    Except Octets (Search × List Octets × List Octets) := do
  let after ← contextOf call 'A'
  let before ← contextOf call 'B'
  let most ← match call.value? 'm' with
    | none => pure none
    | some v =>
      match Shell.Numeral.whole? v with
      | some n => pure (if n < 0 then none else some n.toNat)
      | none => .error "grep: invalid max count"
  let (patterns, names) ← patternsOf call scene
  let (expressions, warnings) ← expressionsOf call patterns
  let told : Told :=
    if call.has 'q' then .nothing
    else match call.last? "lL" with
      | some 'l' => .names
      | some _ => .otherNames
      | none => if call.has 'c' then .counts else if call.has 'o' then .stretches else .lines
  return (
    { expressions, inverted := call.has 'v', wholeLines := call.has 'x', wholeWords := call.has 'w'
      told, most, before, after, withNumbers := call.has 'n', withPlaces := call.has 'b'
      nameEnd := if call.has 'Z' then "\x00" else "\n"
      asText := call.has 'a' || call.value? 'Y' = some "text"
      skipsBinary := call.has 'I' || call.value? 'Y' = some "without-match"
      stop := if call.has 'z' then '\x00' else '\n'
      label := (call.value? 'X').getD "(standard input)", silent := call.has 's' },
    names, warnings)

/-- The files that operands name. -/
def targetsOf (call : Call) (scene : Scene) (names : List Octets) : List Target :=
  let recursive : Bool := call.has 'r' || call.has 'R'
  let choice : Choice :=
    { included := call.values 'M', excluded := call.values 'N'
      excludedDirectories := call.values 'O' }
  let forced : Option Bool := (call.last? "hH").map (· == 'H')
  if recursive && names.isEmpty then
    (filesBelow choice scene 1000 "" scene.here).map fun n => ⟨n, n, forced.getD true⟩
  else
    let names := if names.isEmpty then ["-"] else names
    let many : Bool := 1 < names.length
    names.flatMap fun name =>
      match recursive, scene.find name with
      | true, .ok (place, .directory) =>
        (filesBelow choice scene 1000 name place).map fun n => ⟨n, n, forced.getD true⟩
      | _, _ =>
        if name != "-" && !choice.holds (FileName.base name) then []
        else [⟨name, name, forced.getD many⟩]

/-- Searches files. -/
def search (call : Call) (scene : Scene) : Ran :=
  match ofCall call scene with
  | .error message => .complaint 2 message
  | .ok (s, names, warnings) =>
    let r := s.through scene (targetsOf call scene names)
    let status := if r.found && (s.told = .nothing || !r.failed) then 0
      else if r.failed then 2 else 1
    let stopsEarly : Bool := s.told = .nothing || s.told = .names
    let ran : Ran :=
      { printed := warnings.map (fun w => (2, w ++ "\n")) ++ r.printed.reverse, status
        unread := if r.inputTaken then some [] else none }
    if r.inputTaken && s.most.isSome && scene.seekable && !stopsEarly then
      { ran with unread := some (leftAfter s scene.input) }
    else ran
where
  /-- What a search that ends early leaves of an input that can be set back. -/
  leftAfter (s : Search) (input : List Char) : List Char :=
    let lines := s.lines input
    match ((lines.filter (·.selected)).take (s.most.getD 0)).getLast? with
    | some l => if (lines.filter (·.selected)).length < s.most.getD 0 then []
        else input.drop (l.place + l.text.length + 1)
    | none => if s.most = some 0 then input else []

/-- Searches files, with options that stand for themselves. -/
def grepWith (options : List Octets) : Tool := fun args scene =>
  match table.read (options ++ args) with
  | .error m => .complaint 2 (m.text "grep" ++ "\n" ++ usage)
  | .ok call => search call scene

/-- Searches files. -/
def grep : Tool := grepWith []

/-- Searches files for extended expressions. -/
def egrep : Tool := grepWith ["-E"]

/-- Searches files for texts. -/
def fgrep : Tool := grepWith ["-F"]

end Mender.Searching
