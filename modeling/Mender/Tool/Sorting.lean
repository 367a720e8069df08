import Mender.Tool.Columns
import Mender.Tool.Counting

/-!
# Sorting

Puts lines in order by keys, and leaves out or counts repeated lines.
-/

namespace Mender

namespace Sorting

/-- What a key is compared by. -/
inductive Rule where
  | text
  | numeric
  | general
  | human
  | month
  | version
  deriving DecidableEq, Repr

/-- How keys are compared. -/
structure Order where
  rule : Rule := .text
  /-- Only blanks, letters and digits count. -/
  dictionary : Bool := false
  /-- Only characters that can be printed count. -/
  printable : Bool := false
  /-- Letters of both cases are the same. -/
  fold : Bool := false
  reverse : Bool := false
  /-- Blanks at the start of a key do not count. -/
  skipsStart : Bool := false
  /-- Blanks before the end of a key do not count. -/
  skipsEnd : Bool := false
  deriving DecidableEq, Repr

/-- Where a key begins or ends: a field and a character in it. -/
structure Point where
  field : Nat
  char : Nat
  deriving DecidableEq, Repr

/-- A key: a part of each line. -/
structure Key where
  start : Point := ⟨0, 0⟩
  stop : Option Point := none
  order : Order := {}
  deriving DecidableEq, Repr

/-- A blank between fields. -/
def isBlank (c : Char) : Bool :=
  c == ' ' || c == '\t' || c == '\n'

/-- Drops fields; without a delimiter a field begins with the blanks before it. -/
def dropFields (delimiter : Option Char) : Nat → List Char → List Char
  | 0, cs => cs
  | n + 1, cs =>
    match delimiter with
    | some d => dropFields delimiter n ((cs.dropWhile (· != d)).drop 1)
    | none => dropFields delimiter n ((cs.dropWhile isBlank).dropWhile fun c => !isBlank c)

/-- The part of a line from the start of a key. -/
def Key.fromStart (k : Key) (delimiter : Option Char) (cs : List Char) : List Char :=
  let cs := dropFields delimiter k.start.field cs
  let cs := if k.order.skipsStart then cs.dropWhile isBlank else cs
  cs.drop k.start.char

/-- What follows the end of a key in a line. -/
def Key.fromStop (k : Key) (delimiter : Option Char) (cs : List Char) : List Char :=
  match k.stop with
  | none => []
  | some ⟨field, 0⟩ =>
    match delimiter with
    | some d => (dropFields delimiter field cs).dropWhile (· != d)
    | none => dropFields delimiter (field + 1) cs
  | some ⟨field, char⟩ =>
    let cs := dropFields delimiter field cs
    let cs := if k.order.skipsEnd then cs.dropWhile isBlank else cs
    cs.drop char

/-- The part of a line that is a key. -/
def Key.of (k : Key) (delimiter : Option Char) (cs : List Char) : List Char :=
  let start := k.fromStart delimiter cs
  let stop := k.fromStop delimiter cs
  start.take (start.length - stop.length)

/-- A number: its units in some places behind the point. -/
structure Value where
  negative : Bool
  whole : Nat
  fraction : List Char
  deriving DecidableEq, Repr

/-- Reads a number at the start of a key; without digits it is zero. -/
def readValue (cs : List Char) : Value × List Char :=
  let (negative, cs) : Bool × List Char := match cs.dropWhile isBlank with
    | '-' :: cs => (true, cs)
    | cs => (false, cs)
  let whole := cs.takeWhile Char.isDigit
  match cs.drop whole.length with
  | '.' :: rest =>
    let fraction := rest.takeWhile Char.isDigit
    (⟨negative, Octets.value whole, fraction⟩, rest.drop fraction.length)
  | rest => (⟨negative, Octets.value whole, []⟩, rest)

/-- The number in units of a place. -/
def Value.inPlaces (v : Value) (places : Nat) : Int :=
  let zeros := List.replicate (places - v.fraction.length) '0'
  let units : Nat := v.whole * Nat.pow 10 places + Octets.value (v.fraction ++ zeros)
  if v.negative then -(units : Int) else units

/-- Compares numbers. -/
def compareValues (a b : Value) : Ordering :=
  let places := max a.fraction.length b.fraction.length
  compare (a.inPlaces places) (b.inPlaces places)

/-- The place of a unit among the units for large numbers. -/
def unitRank (v : Value) (rest : List Char) : Int :=
  let rank : Nat := match rest with
    | c :: _ => (("KMGTPEZYRQ".toList.idxOf? (if c = 'k' then 'K' else c)).map (· + 1)).getD 0
    | [] => 0
  if v.inPlaces v.fraction.length = 0 then 0 else if v.negative then -(rank : Int) else rank

/-- The number of a month by the first letters of its name. -/
def monthRank (cs : List Char) : Nat :=
  let name := String.ofList (((cs.dropWhile isBlank).take 3).map Char.toUpper)
  ((["JAN", "FEB", "MAR", "APR", "MAY", "JUN", "JUL", "AUG", "SEP", "OCT", "NOV", "DEC"].idxOf?
    name).map (· + 1)).getD 0

/-- Compares texts by their bytes. -/
def compareTexts : List Char → List Char → Ordering
  | [], [] => .eq
  | [], _ => .lt
  | _, [] => .gt
  | a :: as, b :: bs => if a < b then .lt else if b < a then .gt else compareTexts as bs

/-- The rank of a character that is no digit in a version: a tilde, the end, letters, others. -/
def versionRank : Option Char → Int
  | none => 0
  | some '~' => -2
  | some c => if c.isDigit then 0 else if c.isAlpha then c.toNat else (c.toNat + 256 : Nat)

/-- Compares versions, in which numbers count by their values. -/
def compareVersions : Nat → List Char → List Char → Ordering
  | 0, _, _ => .eq
  | _, [], [] => .eq
  | fuel + 1, as, bs =>
    let notDigit (c : Option Char) : Bool := c.any fun c => !c.isDigit
    if notDigit as.head? || notDigit bs.head? then
      match compare (versionRank as.head?) (versionRank bs.head?) with
      | .eq => compareVersions fuel as.tail bs.tail
      | o => o
    else
      let first := as.takeWhile Char.isDigit
      let second := bs.takeWhile Char.isDigit
      match compare (Octets.value first) (Octets.value second) with
      | .eq => compareVersions fuel (as.drop first.length) (bs.drop second.length)
      | o => o

/-- A suffix of a file name: a point, a letter, and letters and digits, perhaps some times. -/
def isSuffix (cs : List Char) : Bool :=
  ((Text.splitText ['.'] cs).drop 1).all fun part =>
    match part with
    | c :: rest => (c.isAlpha || c == '~') && rest.all fun d => d.isAlphanum || d == '~'
    | [] => false

/-- A file name without its suffixes. -/
def withoutSuffix (cs : List Char) : List Char :=
  let points := (List.range cs.length).filter fun i => 0 < i && cs[i]? = some '.'
  match points.find? fun i => isSuffix (cs.drop i) with
  | some i => cs.take i
  | none => cs

/-- Compares file names by the versions in them. -/
def compareNames (a b : List Char) : Ordering :=
  let hidden (cs : List Char) : Bool := cs.head? = some '.'
  if a.isEmpty || b.isEmpty then compare a.length b.length
  else if hidden a != hidden b then if hidden a then .lt else .gt
  else
    match compareVersions (a.length + b.length + 1) (withoutSuffix a) (withoutSuffix b) with
    | .eq => compareVersions (a.length + b.length + 1) a b
    | o => o

/-- The characters of a key that count, as they are compared. -/
def Order.visible (o : Order) (cs : List Char) : List Char :=
  let cs := if o.dictionary then cs.filter fun c => isBlank c || c.isAlphanum else cs
  let cs := if o.printable then cs.filter fun c => 32 ≤ c.toNat && c.toNat < 127 else cs
  if o.fold then cs.map Char.toUpper else cs

/-- A double for an order: what is no number comes first. -/
def generalRank (cs : List Char) : Nat × Float :=
  let (x, rest) := Shell.Numeral.readReal cs
  if rest.length = cs.length then (0, 0.0) else if Binary64.isNaN x then (1, 0.0) else (2, x)

/-- Compares keys. -/
def Order.compare (o : Order) (a b : List Char) : Ordering :=
  let result := match o.rule with
    | .text => compareTexts (o.visible a) (o.visible b)
    | .numeric => compareValues (readValue a).1 (readValue b).1
    | .general =>
      let x := generalRank a
      let y := generalRank b
      if x.1 ≠ y.1 then Ord.compare x.1 y.1
      else if x.2 < y.2 then .lt else if y.2 < x.2 then .gt else .eq
    | .human =>
      let (v, restA) := readValue a
      let (w, restB) := readValue b
      match Ord.compare (unitRank v restA) (unitRank w restB) with
      | .eq => compareValues v w
      | r => r
    | .month => Ord.compare (monthRank a) (monthRank b)
    | .version =>
      match compareNames (o.visible a) (o.visible b) with
      | r => r
  if o.reverse then result.swap else result

/-- How lines are sorted. -/
structure Plan where
  keys : List Key := []
  delimiter : Option Char := none
  /-- The order of whole lines, and of keys that have none of their own. -/
  order : Order := {}
  unique : Bool := false
  stable : Bool := false

/-- A line with its keys. -/
structure Line where
  text : List Char
  keys : List (List Char)

/-- Compares lines by their keys alone. -/
def Plan.compareKeys (p : Plan) (a b : Line) : Ordering :=
  (p.keys.zip (a.keys.zip b.keys)).foldl
    (fun o (k, x, y) => match o with
      | .eq => k.order.compare x y
      | o => o)
    .eq

/-- Compares lines; those with equal keys are compared as a whole. -/
def Plan.compare (p : Plan) (a b : Line) : Ordering :=
  match p.compareKeys a b with
  | .eq =>
    if p.unique || p.stable then
      if p.keys.isEmpty then compareTexts a.text b.text else .eq
    else
      let o := compareTexts a.text b.text
      if p.order.reverse then o.swap else o
  | o => o

/-- A line with its keys. -/
def Plan.line (p : Plan) (cs : List Char) : Line :=
  ⟨cs, p.keys.map fun k => k.of p.delimiter cs⟩

/-- Leaves out lines that are equal to the one before. -/
def withoutRepeats (same : Line → Line → Bool) : List Line → List Line → List Line
  | done, [] => done.reverse
  | [], l :: ls => withoutRepeats same [l] ls
  | d :: done, l :: ls =>
    if same d l then withoutRepeats same (d :: done) ls
    else withoutRepeats same (l :: d :: done) ls

/-- Sorts lines. -/
def Plan.sorted (p : Plan) (ls : List (List Char)) : List (List Char) :=
  let lines := (ls.map p.line).mergeSort fun a b => p.compare a b != .gt
  let lines := if p.unique then withoutRepeats (fun a b => p.compare a b == .eq) [] lines
    else lines
  lines.map (·.text)

/-- Takes the lines of all files, each time the least of those that stand first. -/
def Plan.merged (p : Plan) : Nat → List (List Line) → List Line → List Line
  | 0, _, done => done.reverse
  | fuel + 1, files, done =>
    let files := files.filter (!·.isEmpty)
    let least := files.foldl
      (fun (least : Option Line) f => match least, f with
        | some l, m :: _ => if p.compare m l == .lt then some m else some l
        | none, m :: _ => some m
        | l, [] => l)
      none
    match least with
    | none => done.reverse
    | some l =>
      let i := files.findIdx fun f => (f.head?.map fun m => p.compare m l == .eq).getD false
      p.merged fuel (files.modify i List.tail) (l :: done)

/-- Merges files whose lines are in order. -/
def Plan.mergedLines (p : Plan) (files : List (List (List Char))) : List (List Char) :=
  let count := files.foldl (fun n f => n + f.length) 0
  let lines := p.merged (count + 1) (files.map fun f => f.map p.line) []
  let lines := if p.unique then withoutRepeats (fun a b => p.compare a b == .eq) [] lines
    else lines
  lines.map (·.text)

/-- The first line that is out of order, with its number. -/
def Plan.disorder? (p : Plan) : Nat → List Line → Option (Nat × List Char)
  | n, a :: b :: rest =>
    let o := p.compare a b
    if o = .gt || (p.unique && o = .eq) then some (n + 1, b.text)
    else disorder? p (n + 1) (b :: rest)
  | _, _ => none

/-- Sets an option of an order by its letter. -/
def Order.withLetter? (o : Order) : Char → Option Order
  | 'b' => some { o with skipsStart := true, skipsEnd := true }
  | 'd' => some { o with dictionary := true }
  | 'f' => some { o with fold := true }
  | 'g' => some { o with rule := .general }
  | 'h' => some { o with rule := .human }
  | 'i' => some { o with printable := true }
  | 'M' => some { o with rule := .month }
  | 'n' => some { o with rule := .numeric }
  | 'r' => some { o with reverse := true }
  | 'V' => some { o with rule := .version }
  | _ => none

/-- Reads the letters behind a position of a key. Where `b` stands says which end it is for. -/
def readLetters (atStart : Bool) : Order → List Char → Order × List Char
  | o, [] => (o, [])
  | o, c :: cs =>
    if c = 'b' then
      readLetters atStart
        (if atStart then { o with skipsStart := true } else { o with skipsEnd := true }) cs
    else
      match o.withLetter? c with
      | some o => readLetters atStart o cs
      | none => (o, c :: cs)

/-- What is said of a key that cannot be read. -/
def badKey (reason : Octets) (spec : List Char) : Octets :=
  s!"{reason}: invalid field specification '{String.ofList spec}'"

/-- Reads a count in a key. -/
def readCount (place : Octets) (cs : List Char) : Except Octets (Nat × List Char) :=
  let digits := cs.takeWhile Char.isDigit
  if digits.isEmpty then
    .error s!"invalid number {place}: invalid count at start of '{String.ofList cs}'"
  else .ok (Octets.value digits, cs.drop digits.length)

/-- Reads a key. -/
def readKey (spec : Octets) : Except Octets Key := do
  let cs := spec.toList
  let (field, rest) ← readCount "at field start" cs
  if field = 0 then .error (badKey "field number is zero" cs)
  let (char, rest) ← match rest with
    | '.' :: rest => do
      let (n, rest) ← readCount "after '.'" rest
      if n = 0 then .error (badKey "character offset is zero" cs)
      pure (n - 1, rest)
    | rest => pure (0, rest)
  let (order, rest) := readLetters true {} rest
  let start : Point := ⟨field - 1, char⟩
  match rest with
  | [] => return { start, order }
  | ',' :: rest =>
    let (field, rest) ← readCount "after ','" rest
    if field = 0 then .error (badKey "field number is zero" cs)
    let (char, rest) ← match rest with
      | '.' :: rest => readCount "after '.'" rest
      | rest => pure (0, rest)
    let (order, rest) := readLetters false order rest
    if rest.isEmpty then return { start, stop := some ⟨field - 1, char⟩, order }
    else .error (badKey "stray character in field spec" cs)
  | _ => .error (badKey "stray character in field spec" cs)

/-- A key without an order of its own takes the common one. -/
def Key.inheriting (k : Key) (common : Order) : Key :=
  if { k.order with skipsStart := false, skipsEnd := false } = {} &&
      !k.order.skipsStart && !k.order.skipsEnd then { k with order := common }
  else k

/-- The options of `sort`. -/
def table : OptionTable :=
  { flags := "bcCdfghiMnRrsuVmz", valued := "koStT"
    long := [⟨"ignore-leading-blanks", 'b', .never⟩, ⟨"check", 'c', .maybe⟩,
      ⟨"dictionary-order", 'd', .never⟩, ⟨"ignore-case", 'f', .never⟩,
      ⟨"general-numeric-sort", 'g', .never⟩, ⟨"human-numeric-sort", 'h', .never⟩,
      ⟨"ignore-nonprinting", 'i', .never⟩, ⟨"month-sort", 'M', .never⟩,
      ⟨"numeric-sort", 'n', .never⟩, ⟨"reverse", 'r', .never⟩, ⟨"stable", 's', .never⟩,
      ⟨"unique", 'u', .never⟩, ⟨"version-sort", 'V', .never⟩, ⟨"merge", 'm', .never⟩,
      ⟨"zero-terminated", 'z', .never⟩, ⟨"key", 'k', .always⟩, ⟨"output", 'o', .always⟩,
      ⟨"field-separator", 't', .always⟩] }

/-- The character that an option stands for as a delimiter. -/
def readDelimiter (s : Octets) : Except Octets Char :=
  match s.toList with
  | [] => .error "empty tab"
  | [c] => .ok c
  | ['\\', '0'] => .ok '\x00'
  | _ => .error s!"multi-character tab '{s}'"

/-- The letters of rules that cannot be used together. -/
def conflict? (call : Call) : Option Octets :=
  let letters := "ghMnV".toList.filter call.has
  let letters := letters ++
    if !letters.isEmpty then (['d', 'i'].filter call.has) else []
  if 1 < letters.length then
    some (String.ofList (letters.mergeSort fun a b => a.toLower ≤ b.toLower))
  else none

/-- How a call wants lines to be sorted. -/
def planOf (call : Call) : Except Octets Plan := do
  let order := call.options.foldl
    (fun (o : Order) g => (o.withLetter? (g.name.toList.headD ' ')).getD o) {}
  let keys ← (call.values 'k').mapM readKey
  let delimiter ← (call.value? 't').mapM readDelimiter
  match conflict? call with
  | some letters => .error s!"options '-{letters}' are incompatible"
  | none => pure ()
  let keys := keys.map fun k => k.inheriting order
  let keys := if keys.isEmpty && { order with reverse := false } ≠ {} then [{ order }]
    else if keys.isEmpty && order.reverse && (call.has 's' || call.has 'u') then [{ order }]
    else keys
  return { keys, delimiter, order, unique := call.has 'u', stable := call.has 's' }

/-- Sorts the lines of all files together. -/
def sort : Tool := .withOptions "sort" 2 table fun call scene =>
  match planOf call with
  | .error e => .complaint 2 s!"sort: {e}"
  | .ok plan =>
    let stop : Char := if call.has 'z' then '\x00' else '\n'
    let names := if call.operands.isEmpty then ["-"] else call.operands
    let contents : Except Ran (List Octets) := names.mapM fun name =>
      match scene.content name with
      | .ok text => .ok text
      | .error .isDirectory => .error (.complaint 2 s!"sort: read failed: {name}: Is a directory")
      | .error fault => .error (.complaint 2 s!"sort: cannot read: {name}: {fault.text}")
    match contents with
    | .error r => r
    | .ok texts =>
      let lines := texts.flatMap fun s => Octets.pieces stop s.toList
      let taking (r : Ran) : Ran := if names.any Scene.isInput then r.takingAll else r
      if (call.has 'c' || call.has 'C') && 1 < names.length then
        let letter := if call.has 'c' then "c" else "C"
        let name := Naming.quoted ((names.drop 1).headD "")
        .complaint 2 s!"sort: extra operand {name} not allowed with -{letter}"
      else if call.has 'c' || call.has 'C' then
        match plan.disorder? 1 (lines.map plan.line) with
        | some (n, l) =>
          if call.has 'C' then .ended 1
          else
            let name := names.headD "-"
            .complaint 1 s!"sort: {name}:{n}: disorder: {String.ofList l}"
        | none => taking {}
      else
        let sorted := if call.has 'm' then
            plan.mergedLines (texts.map fun s => Octets.pieces stop s.toList)
          else plan.sorted lines
        let text := String.ofList (sorted.flatMap (· ++ [stop]))
        match call.value? 'o' with
        | none => taking (.output text)
        | some target =>
          match scene.machine.locate scene.here target with
          | .error fault => .complaint 2 s!"sort: open failed: {target}: {fault.text}"
          | .ok place =>
            if scene.machine.node? place = some .directory then
              .complaint 2 s!"sort: open failed: {target}: Is a directory"
            else taking { tree := some (scene.machine.tree.put place
              (.file (Octets.toBytes text))) }

end Sorting

namespace Repeats

/-- Which lines count as equal: what is skipped and what is compared. -/
structure Equality where
  fields : Nat := 0
  chars : Nat := 0
  width : Option Nat := none
  fold : Bool := false

/-- The part of a line that is compared. -/
def Equality.part (e : Equality) (l : List Char) : List Char :=
  let cs := (Sorting.dropFields none e.fields l).drop e.chars
  let cs := match e.width with
    | some w => cs.take w
    | none => cs
  if e.fold then cs.map Char.toLower else cs

/-- Groups of equal lines after one another; the groups and their lines are read in reverse. -/
def groups (e : Equality) (ls : List (List Char)) : List (List (List Char)) :=
  let done := ls.foldl
    (fun (done : List (List (List Char))) l =>
      match done with
      | (m :: g) :: rest => if e.part m = e.part l then (l :: m :: g) :: rest else [l] :: done
      | _ => [l] :: done)
    []
  (done.map List.reverse).reverse

/-- The options of `uniq`. -/
def table : OptionTable :=
  { flags := "cdDiuz", valued := "fsw"
    long := [⟨"count", 'c', .never⟩, ⟨"repeated", 'd', .never⟩, ⟨"all-repeated", 'D', .maybe⟩,
      ⟨"ignore-case", 'i', .never⟩, ⟨"unique", 'u', .never⟩, ⟨"skip-fields", 'f', .always⟩,
      ⟨"skip-chars", 's', .always⟩, ⟨"check-chars", 'w', .always⟩, ⟨"group", 'g', .maybe⟩] }

/-- What is printed of a group of equal lines. -/
def shown (call : Call) (g : List (List Char)) : List Octets :=
  let first := String.ofList (g.headD [])
  if call.has 'D' then if 1 < g.length then g.map String.ofList else []
  else if (call.has 'd' && g.length = 1) || (call.has 'u' && 1 < g.length) then []
  else if call.has 'c' then
    [Showing.rightAligned 7 (toString g.length) ++ " " ++ first]
  else [first]

/-- Lines with an empty line between groups, and in front or at the end when a method says so. -/
def spaced (method : Octets) (groups : List (List Octets)) : List Octets :=
  let groups := groups.filter (!·.isEmpty)
  if groups.isEmpty || method = "none" then groups.flatten
  else
    let front := method = "prepend" || method = "both"
    let back := method = "append" || method = "both"
    (if front then [""] else []) ++ (groups.intersperse [""]).flatten ++ if back then [""] else []

/-- What is printed of all groups. -/
def shownGroups (call : Call) (groups : List (List (List Char))) : List Octets :=
  if call.has 'g' then
    spaced ((call.value? 'g').getD "separate") (groups.map fun g => g.map String.ofList)
  else if call.has 'D' then
    spaced ((call.value? 'D').getD "none") (groups.map (shown call))
  else groups.flatMap (shown call)

/-- Options of the kind `-1` and `+1` in their other form. -/
def withCounts (args : List Octets) : List Octets :=
  args.map fun a => match a.toList with
    | '-' :: d :: cs => if d.isDigit then String.ofList ('-' :: 'f' :: d :: cs) else a
    | '+' :: d :: cs => if d.isDigit then String.ofList ('-' :: 's' :: d :: cs) else a
    | _ => a

/-- A method that a call cannot have, with the option and the methods that it can. -/
def badMethod? (call : Call) : Option (Octets × Octets × List Octets) :=
  let check (c : Char) (option : Octets) (methods : List Octets) :
      Option (Octets × Octets × List Octets) :=
    match call.value? c with
    | some v => if methods.contains v then none else some (option, v, methods)
    | none => none
  (check 'D' "--all-repeated" ["none", "prepend", "separate"]).orElse fun _ =>
    check 'g' "--group" ["prepend", "append", "separate", "both"]

/-- Leaves out repeated lines. -/
def uniq : Tool := fun args scene => Tool.withOptions "uniq" 1 table (fun call scene =>
  let misuse (s : Octets) : Ran :=
    .complaint 1 s!"uniq: {s}\nTry 'uniq --help' for more information."
  if let some (option, v, methods) := badMethod? call then
    misuse (s!"invalid argument {Naming.quoted v} for {Naming.quoted option}\n" ++
      "Valid arguments are:\n" ++ Text.joined "\n" (methods.map fun m => s!"  - '{m}'"))
  else if call.has 'g' && (["c", "d", "D", "u"].any fun n => call.options.any (·.name = n)) then
    misuse "--group is mutually exclusive with -c/-d/-D/-u"
  else if call.has 'c' && call.has 'D' then
    misuse "printing all duplicated lines and repeat counts is meaningless"
  else
  let number (c : Char) : Option Nat := (call.value? c).bind Amount.digits?
  let e : Equality :=
    { fields := (number 'f').getD 0, chars := (number 's').getD 0, width := number 'w'
      fold := call.has 'i' }
  let wrong := call.options.find? fun o => o.value.any fun v =>
    o.name != "D" && o.name != "g" && (Amount.digits? v).isNone
  match wrong, call.operands with
  | some o, _ =>
    let what := if o.name = "f" then "fields to skip"
      else if o.name = "s" then "bytes to skip" else "bytes to compare"
    let value := o.value.getD ""
    .complaint 1 s!"uniq: {value}: invalid number of {what}"
  | none, _ :: _ :: extra :: _ =>
    .complaint 1 s!"uniq: extra operand '{extra}'\nTry 'uniq --help' for more information."
  | none, operands =>
    let name := operands.headD "-"
    match scene.content name with
    | .error .isDirectory =>
      .complaint 1 s!"uniq: error reading {Naming.quoted name}: Is a directory"
    | .error fault => .unreadable "uniq" 1 name fault
    | .ok text =>
      let stop : Char := if call.has 'z' then '\x00' else '\n'
      let lines := shownGroups call (groups e (Octets.pieces stop text.toList))
      let text := String.join (lines.map (· ++ String.singleton stop))
      let taking (r : Ran) : Ran := if Scene.isInput name then r.takingAll else r
      match operands with
      | [_, target] =>
        match scene.machine.locate scene.here target with
        | .error fault => .unreadable "uniq" 1 target fault
        | .ok place =>
          if scene.machine.node? place = some .directory then
            .unreadable "uniq" 1 target .isDirectory
          else taking { tree := some (scene.machine.tree.put place
            (.file (Octets.toBytes text))) }
      | _ => taking (.output text)) (withCounts args) scene

end Repeats

end Mender
