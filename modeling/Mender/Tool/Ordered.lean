import Mender.Tool.Showing
import Mender.Tool.FileChanges
import Mender.Tool.Sorting

/-!
# Lines and words in order

Tools that need lines in an order, and tools that put words or lines into one.
-/

namespace Mender

/-!
## Two files in order

Tools that read two files whose lines are in order side by side. A line that is out of order is
told of once for each file; lines are only looked at once something had no partner, unless a call
wants otherwise.
-/

/-- Whether lines are to be in order. -/
inductive OrderCheck where
  | never
  /-- After something had no partner. -/
  | late
  /-- From the start; the first line that is out of order ends all. -/
  | strict
  deriving DecidableEq, Repr

/-- How far two files have been read. -/
structure SideBySide (α : Type) where
  /-- What was printed, in reverse. -/
  printed : List Octets := []
  /-- Something had no partner. -/
  unpaired : Bool := false
  /-- The lines that were found out of order, by file. -/
  wrong : List (Nat × α) := []
  stopped : Bool := false

namespace SideBySide

variable {α : Type}

/-- Prints lines. -/
def print (s : SideBySide α) (lines : List Octets) : SideBySide α :=
  if s.stopped then s else { s with printed := lines.reverse ++ s.printed }

/-- Looks at two lines that follow each other in a file. -/
def look (s : SideBySide α) (check : OrderCheck) (greater : α → α → Bool) (file : Nat)
    (a b : α) : SideBySide α :=
  let looks : Bool := check = .strict || (check = .late && s.unpaired)
  if !s.stopped && looks && s.wrong.all (·.1 ≠ file) && greater a b then
    { s with wrong := s.wrong ++ [(file, b)], stopped := check = .strict }
  else s

/-- A line has no partner. -/
def missPartner (s : SideBySide α) : SideBySide α :=
  { s with unpaired := true }

end SideBySide

namespace Common

/-- The options of `comm`. -/
def table : OptionTable :=
  { flags := "123z"
    long := [⟨"output-delimiter", 'O', .always⟩, ⟨"check-order", 'k', .never⟩,
      ⟨"nocheck-order", 'n', .never⟩, ⟨"total", 'T', .never⟩,
      ⟨"zero-terminated", 'z', .never⟩] }

/-- A line and the files that hold it: the first, the second or both. -/
inductive Side where
  | first
  | second
  | both
  deriving DecidableEq, Repr

/-- What a comparison prints, and what it counts. -/
structure Course where
  check : OrderCheck
  line : Side → List Char → List Octets
  counts : Nat × Nat × Nat := (0, 0, 0)
  run : SideBySide (List Char) := {}

/-- A line comes after another one. -/
def isAfter (a b : List Char) : Bool :=
  Sorting.compareTexts a b == .gt

/-- Goes on in a file behind a line; at its end the last two lines are looked at again. -/
def Course.pass (c : Course) (file : Nat) (before : Option (List Char)) (l : List Char) :
    List (List Char) → Course
  | next :: _ => { c with run := c.run.look c.check isAfter file l next }
  | [] =>
    match before with
    | some b => { c with run := c.run.look c.check isAfter file b l }
    | none => c

/-- Prints a line. -/
def Course.tell (c : Course) (side : Side) (l : List Char) : Course :=
  let (x, y, z) := c.counts
  let counts := match side with
    | .first => (x + 1, y, z)
    | .second => (x, y + 1, z)
    | .both => (x, y, z + 1)
  let run := c.run.print (c.line side l)
  { c with counts, run := if side = .both then run else run.missPartner }

/-- Compares two files; the lines before the first ones are known too. -/
def Course.follow : Nat → Course → Option (List Char) → List (List Char) → Option (List Char) →
    List (List Char) → Course
  | 0, c, _, _, _, _ => c
  | _, c, _, [], _, [] => c
  | fuel + 1, c, p, a :: as, q, [] =>
    follow fuel ((c.tell .first a).pass 1 p a as) (some a) as q []
  | fuel + 1, c, p, [], q, b :: bs =>
    follow fuel ((c.tell .second b).pass 2 q b bs) p [] (some b) bs
  | fuel + 1, c, p, a :: as, q, b :: bs =>
    if c.run.stopped then c
    else
      match Sorting.compareTexts a b with
      | .lt => follow fuel ((c.tell .first a).pass 1 p a as) (some a) as q (b :: bs)
      | .gt => follow fuel ((c.tell .second b).pass 2 q b bs) p (a :: as) (some b) bs
      | .eq => follow fuel (((c.tell .both a).pass 1 p a as).pass 2 q b bs) (some a) as (some b) bs

/-- Compares two files whose lines are in order. -/
def comm : Tool := .withOptions "comm" 1 table fun call scene =>
  let misuse (s : Octets) : Ran :=
    .complaint 1 s!"comm: {s}\nTry 'comm --help' for more information."
  match call.operands with
  | [] => misuse "missing operand"
  | [a] => misuse s!"missing operand after {Naming.quoted a}"
  | _ :: _ :: c :: _ => misuse s!"extra operand {Naming.quoted c}"
  | [a, b] =>
    match scene.content a, scene.content b with
    | .error fault, _ => .unreadable "comm" 1 a fault
    | _, .error fault => .unreadable "comm" 1 b fault
    | .ok textA, .ok textB =>
      let stop : Char := if call.has 'z' then '\x00' else '\n'
      let as := Octets.pieces stop textA.toList
      let bs := Octets.pieces stop (if Scene.isInput a && Scene.isInput b then [] else textB.toList)
      let between := (call.value? 'O').getD "\t"
      let lead (shown : Bool) : Octets := if shown then between else ""
      let ended (s : Octets) : Octets := s ++ String.singleton stop
      let line (side : Side) (l : List Char) : List Octets :=
        let l := String.ofList l
        match side with
        | .first => if call.has '1' then [] else [ended l]
        | .second => if call.has '2' then [] else [ended (lead (!call.has '1') ++ l)]
        | .both => if call.has '3' then []
            else [ended (lead (!call.has '1') ++ lead (!call.has '2') ++ l)]
      let check : OrderCheck := match call.last? "kn" with
        | some 'k' => .strict
        | some _ => .never
        | none => .late
      let c := Course.follow (as.length + bs.length + 1) { check, line } none as none bs
      let (x, y, z) := c.counts
      let counts := if call.has 'T' then
          ended (Text.joined between [toString x, toString y, toString z, "total"])
        else ""
      let complaints := c.run.wrong.map fun (file, _) =>
        s!"comm: file {file} is not in sorted order"
      let last := if c.run.wrong.isEmpty || c.run.stopped then []
        else ["comm: input is not in sorted order"]
      let r : Ran :=
        { printed := [(2, Octets.lines complaints),
            (1, String.join c.run.printed.reverse ++ if c.run.stopped then "" else counts),
            (2, Octets.lines last)]
          status := if c.run.wrong.isEmpty then 0 else 1 }
      if Scene.isInput a || Scene.isInput b then r.takingAll else r

end Common

namespace Joining

/-- The options of `join`. -/
def table : OptionTable :=
  { flags := "iz", valued := "12jtaveo"
    long := [⟨"ignore-case", 'i', .never⟩, ⟨"check-order", 'k', .never⟩,
      ⟨"nocheck-order", 'n', .never⟩, ⟨"header", 'h', .never⟩,
      ⟨"zero-terminated", 'z', .never⟩] }

/-- A line by its key and its fields. -/
structure Entry where
  key : Octets
  fields : List Octets
  text : Octets
  number : Nat
  deriving DecidableEq, Repr

/-- Splits a line into fields. Without a character between them there are blanks, and blanks at the
end have an empty field behind them. -/
def fieldsOf (delimiter : Option Char) (l : Octets) : List Octets :=
  match delimiter with
  | some d => (Text.splitText [d] l.toList).map String.ofList
  | none =>
    let isBlank (c : Char) : Bool := c == ' ' || c == '\t' || c == '\n'
    let pieces := Text.splitText [' '] (l.toList.map fun c => if isBlank c then ' ' else c)
    let fields := (pieces.filter (!·.isEmpty)).map String.ofList
    let endsBlank : Bool := l.toList.getLast?.any isBlank
    fields ++ if endsBlank && !fields.isEmpty then [""] else []

/-- Reads the lines of a file. -/
def entries (delimiter : Option Char) (stop : Char) (key : Nat) (fold : Bool) (text : Octets) :
    List Entry :=
  let lines := Octets.pieces stop text.toList
  ((List.range lines.length).zip lines).map fun (i, cs) =>
    let l := String.ofList cs
    let fields := fieldsOf delimiter l
    let k := (fields[key - 1]?).getD ""
    ⟨if fold then k.toLower else k, fields, l, i + 1⟩

/-- What a call asks to be printed. -/
structure Shown where
  between : Octets
  keys : Nat × Nat
  empty : Octets
  /-- Fields by the number of their file, and zero for the key. -/
  fields : Option (List (Nat × Nat))

/-- The line for a pair, of which one may be missing. -/
def Shown.line (s : Shown) (a b : Option Entry) : Octets :=
  let field (e : Option Entry) (i : Nat) : Octets :=
    let f := (e.bind fun e => e.fields[i - 1]?).getD ""
    if f.isEmpty then s.empty else f
  let key : Octets := match a, b with
    | some a, _ => field (some a) s.keys.1
    | none, b => field b s.keys.2
  match s.fields with
  | some fields => Text.joined s.between (fields.map fun (file, i) =>
      if file = 0 then key else field (if file = 1 then a else b) i)
  | none =>
    let filled (e : Entry) : List Octets := e.fields.map fun f => if f.isEmpty then s.empty else f
    let others (e : Option Entry) (k : Nat) : List Octets :=
      (e.map fun e => (filled e).eraseIdx (k - 1)).getD []
    Text.joined s.between (key :: (others a s.keys.1 ++ others b s.keys.2))

/-- What is shown, and how files are read. -/
structure Course where
  check : OrderCheck
  shown : Shown
  /-- Lines of the first and of the second file without a partner are shown, and pairs are. -/
  first : Bool
  second : Bool
  pairs : Bool
  run : SideBySide Entry := {}

/-- Prints lines if they are wanted. -/
def Course.print (c : Course) (wanted : Bool) (lines : List Octets) : Course :=
  if wanted then { c with run := c.run.print lines } else c

/-- Goes on in a file behind a line. -/
def Course.pass (c : Course) (file : Nat) (l : Entry) (rest : List Entry) : Course :=
  match rest with
  | next :: _ => { c with run := c.run.look c.check (fun a b => b.key < a.key) file l next }
  | [] => c

/-- Goes through the lines of a file when the other one has ended. -/
def Course.finish (c : Course) (file : Nat) (entries : List Entry) : Course :=
  let wanted := if file = 1 then c.first else c.second
  let rec go (c : Course) : List Entry → Course
    | [] => c
    | e :: rest =>
      let line := if file = 1 then c.shown.line (some e) none else c.shown.line none (some e)
      go ((c.print wanted [line]).pass file e rest) rest
  go c entries

/-- Joins lines with equal keys. -/
def Course.follow : Nat → Course → List Entry → List Entry → Course
  | 0, c, _, _ => c
  | _, c, as, [] => c.finish 1 as
  | _, c, [], bs => c.finish 2 bs
  | fuel + 1, c, a :: as, b :: bs =>
    if c.run.stopped then c
    else if a.key < b.key then
      let c := (c.print c.first [c.shown.line (some a) none]).pass 1 a as
      follow fuel { c with run := c.run.missPartner } as (b :: bs)
    else if b.key < a.key then
      let c := (c.print c.second [c.shown.line none (some b)]).pass 2 b bs
      follow fuel { c with run := c.run.missPartner } (a :: as) bs
    else
      let same₁ := a :: as.takeWhile (·.key = a.key)
      let same₂ := b :: bs.takeWhile (·.key = a.key)
      let rest₁ := as.drop (same₁.length - 1)
      let rest₂ := bs.drop (same₂.length - 1)
      let lines := same₁.flatMap fun x => same₂.map fun y => c.shown.line (some x) (some y)
      let c := (c.pass 1 (same₁.getLastD a) rest₁).pass 2 (same₂.getLastD b) rest₂
      follow fuel (c.print c.pairs lines) rest₁ rest₂

/-- Reads the fields that are to be printed. -/
def readFields (s : Octets) : Except Octets (List (Nat × Nat)) :=
  let specs := (fieldsOf (some ',') (String.ofList (s.toList.map fun c =>
    if c == ' ' || c == '\t' then ',' else c))).filter (· != "")
  specs.mapM fun f =>
    match Text.splitText ['.'] f.toList with
    | [['0']] => .ok (0, 0)
    | [file, i] =>
      if file != ['1'] && file != ['2'] then
        .error s!"invalid file number in field spec: {Naming.quoted f}"
      else
        match Amount.digits? (String.ofList i) with
        | some (n + 1) => .ok (Octets.value file, n + 1)
        | _ => .error s!"invalid field number: {Naming.quoted (String.ofList i)}"
    | _ =>
      if f.startsWith "0" then .error s!"invalid field specifier: {Naming.quoted f}"
      else if f.startsWith "1" || f.startsWith "2" then
        .error s!"invalid field specifier: {Naming.quoted f}"
      else .error s!"invalid file number in field spec: {Naming.quoted f}"

/-- Reads the number of a field. -/
def readField (s : Octets) : Except Octets Nat :=
  match Amount.digits? s with
  | some (n + 1) => .ok (n + 1)
  | _ => .error s!"invalid field number: {Naming.quoted s}"

/-- The fields that files are joined by. -/
def keysOf (call : Call) : Except Octets (Nat × Nat) := do
  let both ← (call.value? 'j').mapM readField
  let one (c : Char) : Except Octets Nat := do
    match ← (call.value? c).mapM readField, both with
    | some n, some m => if n = m then .ok n else .error s!"incompatible join fields {m}, {n}"
    | some n, none => .ok n
    | none, m => .ok (m.getD 1)
  return (← one '1', ← one '2')

/-- The character between fields. -/
def delimiterOf (call : Call) : Except Octets (Option Char) :=
  match (call.value? 't').map String.toList with
  | none => .ok none
  | some [] => .ok (some '\n')
  | some [c] => .ok (some c)
  | some ['\\', '0'] => .ok (some '\x00')
  | some cs => .error s!"multi-character tab {Naming.quoted (String.ofList cs)}"

/-- The files whose lines without a partner are shown. -/
def unpairedOf (call : Call) : Except Octets (List Octets) := do
  for v in call.values 'a' ++ call.values 'v' do
    if v != "1" && v != "2" then .error s!"invalid field number: {Naming.quoted v}"
  return call.values 'a' ++ call.values 'v'

/-- Joins the lines of two files by a field. -/
def join : Tool := .withOptions "join" 1 table fun call scene =>
  let misuse (s : Octets) : Ran :=
    .complaint 1 s!"join: {s}\nTry 'join --help' for more information."
  let read : Except Octets
      ((Nat × Nat) × Option Char × List Octets × Option (List (Nat × Nat))) := do
    let fields ← ((call.value? 'o').filter (· != "auto")).mapM readFields
    return (← keysOf call, ← delimiterOf call, ← unpairedOf call, fields)
  match read, call.operands with
  | .error message, _ => .complaint 1 s!"join: {message}"
  | _, [] => misuse "missing operand"
  | _, [a] => misuse s!"missing operand after {Naming.quoted a}"
  | _, _ :: _ :: c :: _ => misuse s!"extra operand {Naming.quoted c}"
  | .ok ((key₁, key₂), delimiter, unpaired, fields), [a, b] =>
    if a = "-" && b = "-" then .complaint 1 "join: both files cannot be standard input"
    else
    match scene.content a, scene.content b with
    | .error fault, _ => .unreadable "join" 1 a fault
    | _, .error fault => .unreadable "join" 1 b fault
    | .ok textA, .ok textB =>
      let stop : Char := if call.has 'z' then '\x00' else '\n'
      let as := entries delimiter stop key₁ (call.has 'i') textA
      let bs := entries delimiter stop key₂ (call.has 'i') textB
      let width (es : List Entry) : Nat := (es.head?.map fun e => e.fields.length).getD 0
      let others (file key n : Nat) : List (Nat × Nat) :=
        ((List.range n).map (· + 1)).filterMap fun i => if i = key then none else some (file, i)
      let fields := if call.value? 'o' = some "auto" then
          some ((0, 0) :: (others 1 key₁ (width as) ++ others 2 key₂ (width bs)))
        else fields
      let shown : Shown :=
        { between := (delimiter.map String.singleton).getD " ", keys := (key₁, key₂)
          empty := (call.value? 'e').getD "", fields }
      let c : Course :=
        { check := match call.last? "kn" with
            | some 'k' => .strict
            | some _ => .never
            | none => .late
          shown, first := unpaired.contains "1", second := unpaired.contains "2"
          pairs := !call.has 'v' }
      let titled : Bool := call.has 'h' && !(as.isEmpty && bs.isEmpty)
      let c := c.print titled [shown.line as.head? bs.head?]
      let (as, bs) := if titled then (as.tail, bs.tail) else (as, bs)
      let c := c.follow (as.length + bs.length + 1) as bs
      let complaints := c.run.wrong.map fun (file, e) =>
        let name := if file = 1 then a else b
        s!"join: {name}:{e.number}: is not sorted: {e.text}"
      let last := if c.run.wrong.isEmpty || c.run.stopped then []
        else ["join: input is not in sorted order"]
      let lines := c.run.printed.reverse.map (· ++ String.singleton stop)
      let r : Ran :=
        { printed := [(2, Octets.lines complaints), (1, String.join lines), (2, Octets.lines last)]
          status := if c.run.wrong.isEmpty then 0 else 1 }
      if Scene.isInput a || Scene.isInput b then r.takingAll else r

end Joining

/-!
## Orders of lines

Puts words in an order in which none stands before a word that has to come first, and lines in an
order that means nothing.
-/

namespace Order

/-- A word before another, as they are read. -/
structure Relation where
  /-- All words in the order of their bytes. -/
  words : List Octets
  /-- Pairs of different words: the first has to come before the second. The latest pair is first.
  -/
  pairs : List (Octets × Octets)

/-- The relation that words tell of in pairs; a word with itself only tells that it is there. -/
def Relation.ofWords (words : List Octets) : Relation :=
  { words := words.eraseDups.mergeSort (· ≤ ·), pairs := (pairs words).reverse }
where
  /-- The pairs of different words. -/
  pairs : List Octets → List (Octets × Octets)
    | a :: b :: rest => if a = b then pairs rest else (a, b) :: pairs rest
    | _ => []

/-- Takes the words of a queue; a word joins it when the last pair before it is gone. Returns the
words in order and the pairs that are left. -/
def takeWords : Nat → List Octets → List (Octets × Octets) → List Octets × List (Octets × Octets)
  | 0, _, pairs => ([], pairs)
  | _, [], pairs => ([], pairs)
  | fuel + 1, w :: queue, pairs =>
    let gone := pairs.filter (·.1 = w)
    let left := pairs.filter (·.1 ≠ w)
    let free := (gone.map (·.2)).reverse.eraseDups.reverse.filter fun b => left.all (·.2 ≠ b)
    let (ws, pairs) := takeWords fuel (queue ++ free) left
    (w :: ws, pairs)

/-- Puts words in an order. -/
def tsort : Tool := .withOptions "tsort" 1 {} fun call scene =>
  match call.operands with
  | _ :: a :: _ => FileChanges.refused "tsort" s!"extra operand {Naming.quoted a}"
  | operands =>
    scene.overNamedFiles operands (Ran.unreadable "tsort" 1) fun name text =>
      let words := (Text.splitText ['\n'] (text.toList.map fun c =>
        if Octets.isSpace c then '\n' else c)).map String.ofList |>.filter (· != "")
      if words.length % 2 = 1 then
        .complaint 1 s!"tsort: {name}: input contains an odd number of tokens"
      else
        let r := Relation.ofWords words
        let (ordered, left) := takeWords (r.words.length + 1)
          (r.words.filter fun w => r.pairs.all (·.2 ≠ w)) r.pairs
        let rest := r.words.filter (!ordered.contains ·)
        if left.isEmpty then .output (Octets.lines ordered)
        else
          let loop := rest.filter fun w => left.any (·.1 = w)
          let complaint := s!"tsort: {name}: input contains a loop:" ::
            loop.map fun w => s!"tsort: {w}"
          { printed := [(1, Octets.lines ordered), (2, Octets.lines complaint),
              (1, Octets.lines rest)]
            status := 1 }

/-- The numbers of a range. -/
def readRange? (s : Octets) : Option (Nat × Nat) :=
  match (Text.splitText ['-'] s.toList).map fun cs => Amount.digits? (String.ofList cs) with
  | [some low, some high] => if low ≤ high + 1 then some (low, high) else none
  | _ => none

/-- Prints lines in an order that means nothing. -/
def shuf : Tool :=
  .withOptions "shuf" 1
    { flags := "erz", valued := "nio"
      long := [⟨"echo", 'e', .never⟩, ⟨"input-range", 'i', .always⟩, ⟨"head-count", 'n', .always⟩,
        ⟨"output", 'o', .always⟩, ⟨"repeat", 'r', .never⟩, ⟨"zero-terminated", 'z', .never⟩,
        ⟨"random-source", 's', .always⟩] }
    fun call scene =>
      let count := (call.value? 'n').map fun v => (v, Amount.digits? v)
      let cut (lines : List Octets) : List Octets := match count with
        | some (_, some n) => lines.take n
        | _ => lines
      let shown (lines : List Octets) : Ran := match call.value? 'o' with
        | none => .output (Octets.lines (cut lines))
        | some file => Working.run (do
            match ← FileChanges.writeTo false (Octets.lines (cut lines)) file with
            | some fault => Working.complain s!"shuf: {Naming.shown file}: {fault.text}"
            | none => pure ()) scene
      match count, (call.value? 'i').map fun v => (v, readRange? v) with
      | some (v, none), _ => .complaint 1 s!"shuf: invalid line count: {Naming.quoted v}"
      | _, some (v, none) => .complaint 1 s!"shuf: invalid input range: {Naming.quoted v}"
      | _, some (_, some (low, high)) =>
        shown ((List.range (high + 1 - low)).map fun i => toString (low + i))
      | _, none =>
        if call.has 'e' then shown call.operands
        else
          match call.operands with
          | _ :: a :: _ => FileChanges.refused "shuf" s!"extra operand {Naming.quoted a}"
          | operands =>
            scene.overFiles operands (Ran.unreadable "shuf" 1) fun text =>
              shown (Octets.toLines text)

end Order

end Mender
