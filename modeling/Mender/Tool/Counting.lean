import Mender.Number.Layout
import Mender.Tool.Showing

/-!
# Counting

Counts what files hold, and counts from one number to another.
-/

namespace Mender

namespace WordCount

/-- What is counted in a text. -/
structure Counts where
  lines : Nat := 0
  words : Nat := 0
  bytes : Nat := 0
  /-- The longest line, by the columns that it takes. -/
  longest : Nat := 0
  deriving DecidableEq, Repr

/-- Both counts together. -/
def Counts.add (a b : Counts) : Counts :=
  ⟨a.lines + b.lines, a.words + b.words, a.bytes + b.bytes, max a.longest b.longest⟩

/-- How far a text has been counted. -/
structure Progress where
  lines : Nat := 0
  words : Nat := 0
  longest : Nat := 0
  inWord : Bool := false
  column : Nat := 0

/-- Ends a word. -/
def Progress.endWord (p : Progress) : Progress :=
  if p.inWord then { p with words := p.words + 1, inWord := false } else p

/-- Goes back to the first column. -/
def Progress.endLine (p : Progress) : Progress :=
  { p with longest := max p.longest p.column, column := 0 }

/-- Counts a character. -/
def Progress.step (p : Progress) (c : Char) : Progress :=
  if c = '\n' then
    let q := p.endWord.endLine
    { q with lines := q.lines + 1 }
  else if c = '\r' || c = '\x0c' then p.endWord.endLine
  else if c = '\t' then { p.endWord with column := p.column + 8 - p.column % 8 }
  else if c = ' ' then { p.endWord with column := p.column + 1 }
  else if c = '\x0b' then p.endWord
  else if 32 ≤ c.toNat && c.toNat < 127 then { p with inWord := true, column := p.column + 1 }
  else p

/-- Counts a text. -/
def Counts.ofText (s : Octets) : Counts :=
  let p := (s.toList.foldl Progress.step {}).endWord.endLine
  ⟨p.lines, p.words, s.length, p.longest⟩

/-- The options of `wc`. -/
def table : OptionTable :=
  { flags := "cmlwL"
    long := [⟨"bytes", 'c', .never⟩, ⟨"chars", 'm', .never⟩, ⟨"lines", 'l', .never⟩,
      ⟨"words", 'w', .never⟩, ⟨"max-line-length", 'L', .never⟩] }

/-- The counts that a call asks for, in the order in which they are printed. -/
def shown (call : Call) (c : Counts) : List Nat :=
  let all : Bool := call.options.isEmpty
  (if all || call.has 'l' then [c.lines] else []) ++
    (if all || call.has 'w' then [c.words] else []) ++
    (if call.has 'm' then [c.bytes] else []) ++
    (if all || call.has 'c' then [c.bytes] else []) ++
    if call.has 'L' then [c.longest] else []

/-- A row of counts. -/
def row (width : Nat) (counts : List Nat) (name : Option Octets) : Octets :=
  let numbers := counts.map fun n => Showing.rightAligned width (toString n)
  Text.joined " " (numbers ++ name.toList) ++ "\n"

/-- The size of a file, if it is one. -/
def size? (scene : Scene) (name : Octets) : Except PathFault (Option Nat) :=
  if Scene.isInput name then
    .ok (if scene.seekable then some scene.input.length else none)
  else
    match scene.find name with
    | .ok (_, .file content) => .ok (some content.length)
    | .ok _ => .ok none
    | .error fault => .error fault

/-- The width of the counts: enough for all bytes of the files. -/
def widthFor (scene : Scene) (call : Call) (names : List Octets) : Nat :=
  if names.length ≤ 1 && (shown call {}).length = 1 then 1
  else
    let sizes := names.filterMap fun name => (size? scene name).toOption
    let total := sizes.foldl (fun n s => n + s.getD 0) 0
    let least := if sizes.any Option.isNone then 7 else 1
    max least (toString total).length

/-- Counts lines, words and bytes. -/
def wc : Tool := .withOptions "wc" 1 table fun call scene =>
  let names := if call.operands.isEmpty then ["-"] else call.operands
  let width := widthFor scene call names
  let label (name : Octets) : Option Octets := if call.operands.isEmpty then none else some name
  let (r, total, _) := names.foldl
    (fun (r, (total : Counts), (scene : Scene)) name =>
      match scene.content name with
      | .ok text =>
        let counts := Counts.ofText text
        let r := r.then_ (.output (row width (shown call counts) (label name)))
        if Scene.isInput name then (r.takingAll, total.add counts, { scene with input := [] })
        else (r, total.add counts, scene)
      | .error fault =>
        let r := r.then_ (.unreadable "wc" 1 name fault)
        if fault = .isDirectory then
          (r.then_ (.output (row width (shown call {}) (label name))), total, scene)
        else (r, total, scene))
    (({} : Ran), ({} : Counts), scene)
  if 1 < names.length then r.then_ (.output (row width (shown call total) (some "total"))) else r

end WordCount

namespace Sequence

/-- A number with some places behind its point. -/
structure Fixed where
  /-- The number in units of its last place. -/
  units : Int
  places : Nat
  /-- How many characters wrote it. -/
  width : Nat
  deriving DecidableEq, Repr

/-- Reads the exponent at the end of a number. -/
def exponent? : List Char → Option Int
  | [] => some 0
  | e :: cs =>
    let (negative, digits) : Bool × List Char := match cs with
      | '-' :: cs => (true, cs)
      | '+' :: cs => (false, cs)
      | cs => (false, cs)
    if (e = 'e' || e = 'E') && !digits.isEmpty && digits.all Char.isDigit && digits.length < 4 then
      some (if negative then -(Octets.value digits : Int) else Octets.value digits)
    else none

/-- Reads a number. -/
def Fixed.read? (s : Octets) : Option Fixed := do
  let (negative, cs) : Bool × List Char := match s.toList.dropWhile Octets.isSpace with
    | '-' :: cs => (true, cs)
    | '+' :: cs => (false, cs)
    | cs => (false, cs)
  let whole := cs.takeWhile Char.isDigit
  let rest := cs.drop whole.length
  let (pointed, fraction) : Bool × List Char := match rest with
    | '.' :: rest => (true, rest.takeWhile Char.isDigit)
    | _ => (false, [])
  if whole.isEmpty && fraction.isEmpty then none
  let tail := rest.drop (fraction.length + if pointed then 1 else 0)
  let power ← exponent? tail
  let magnitude := Octets.value (whole ++ fraction)
  let shift := power - fraction.length
  let scaled : Nat := if 0 ≤ shift then magnitude * Nat.pow 10 shift.toNat else magnitude
  let places := (-shift).toNat
  let written := cs.length + if negative then 1 else 0
  let written := written - (if pointed && fraction.isEmpty then 1 else 0)
  let written := written + if whole.isEmpty then 1 else 0
  let width := if tail.isEmpty then written
    else (toString scaled).length + (if places = 0 then 0 else 1) + if negative then 1 else 0
  return ⟨if negative then -(scaled : Int) else scaled, places, width⟩

/-- A number in units of a place. -/
def Fixed.inPlaces (x : Fixed) (places : Nat) : Int :=
  x.units * (Nat.pow 10 (places - x.places) : Nat)

/-- The text of a number in units of a place. -/
def text (places : Nat) (n : Int) : Octets :=
  let digits := Nat.toDigits 10 n.natAbs
  let digits := List.replicate (places + 1 - digits.length) '0' ++ digits
  let whole := digits.take (digits.length - places)
  let fraction := digits.drop (digits.length - places)
  String.ofList ((if n < 0 then ['-'] else []) ++ whole ++
    if places = 0 then [] else '.' :: fraction)

/-- A text with zeros behind its sign up to a width. -/
def zeroFilled (width : Nat) (s : Octets) : Octets :=
  let fill := List.replicate (width - s.length) '0'
  match s.toList with
  | '-' :: cs => String.ofList ('-' :: (fill ++ cs))
  | cs => String.ofList (fill ++ cs)

/-- The layout of numbers: what stands before and after them, and the conversion. -/
structure Format where
  before : List Char
  layout : Layout
  conversion : Char
  after : List Char

/-- A text with doubled percent signs as one; also returns what follows at a single one. -/
def literal : List Char → List Char × List Char
  | '%' :: '%' :: cs =>
    let (text, rest) := literal cs
    ('%' :: text, rest)
  | '%' :: cs => ([], '%' :: cs)
  | c :: cs =>
    let (text, rest) := literal cs
    (c :: text, rest)
  | [] => ([], [])

/-- Reads the layout of numbers. -/
def Format.read (s : Octets) : Except Octets Format := do
  let (before, rest) := literal s.toList
  match rest with
  | '%' :: cs =>
    let (layout, cs) := ({} : Layout).takeFlags cs
    let width := cs.takeWhile Char.isDigit
    let cs := cs.drop width.length
    let (precision, cs) : Option Nat × List Char := match cs with
      | '.' :: cs =>
        let digits := cs.takeWhile Char.isDigit
        (some (Octets.value digits), cs.drop digits.length)
      | cs => (none, cs)
    match cs with
    | [] => .error s!"format '{s}' ends in %"
    | c :: cs =>
      if "efgEFG".toList.contains c then
        let (after, rest) := literal cs
        if rest.isEmpty then
          return ⟨before, { layout with width := Octets.value width, precision }, c, after⟩
        else .error s!"format '{s}' has too many % directives"
      else .error s!"format '{s}' has unknown %{c} directive"
  | _ => .error s!"format '{s}' has no % directive"

/-- A number in units of a place as a double. -/
def toFloat (places : Nat) (n : Int) : Float :=
  Binary64.ofDecimal (n < 0) n.natAbs (-(places : Int))

/-- The most numbers that are printed. -/
def mostNumbers : Nat := 2000000

/-- The numbers from one to another. -/
def numbers (first step last : Int) : List Int :=
  let count : Nat :=
    if 0 < step then if last < first then 0 else ((last - first) / step).toNat + 1
    else if first < last then 0
    else ((first - last) / -step).toNat + 1
  (List.range (min count mostNumbers)).map fun (i : Nat) => first + step * (i : Int)

/-- The options of `seq`. -/
def table : OptionTable :=
  { flags := "w", valued := "fs", inOrder := true
    long := [⟨"equal-width", 'w', .never⟩, ⟨"format", 'f', .always⟩,
      ⟨"separator", 's', .always⟩] }

/-- A number below zero, which is no option. -/
def isNegative (a : Octets) : Bool :=
  match a.toList with
  | '-' :: c :: _ => c == '.' || c.isDigit
  | _ => false

/-- Prints the numbers that a call asks for. -/
def run (call : Call) : Ran :=
  let misuse (s : Octets) : Ran :=
    .complaint 1 s!"seq: {s}\nTry 'seq --help' for more information."
  let wrong := call.operands.find? fun a => (Fixed.read? a).isNone
  match call.operands, wrong with
  | [], _ => misuse "missing operand"
  | _ :: _ :: _ :: extra :: _, _ => misuse s!"extra operand '{extra}'"
  | _, some a => misuse s!"invalid floating point argument: '{a}'"
  | operands, none =>
    let one : Fixed := ⟨1, 0, 1⟩
    let (first, step, last) := match operands.filterMap Fixed.read? with
      | [a] => (one, one, a)
      | [a, b] => (a, one, b)
      | a :: s :: b :: _ => (a, s, b)
      | [] => (one, one, one)
    if step.units = 0 then
      let given := (operands[1]?).getD ""
      misuse s!"invalid Zero increment value: '{given}'"
    else
      let places := max first.places step.places
      let common := max places last.places
      let ns := numbers (first.inPlaces common) (step.inPlaces common) (last.inPlaces common)
      let scale : Nat := Nat.pow 10 (common - places)
      let plain (n : Int) : Octets := text places (n / scale)
      let widthOf (x : Fixed) : Nat :=
        if places = 0 then x.width - (if x.places = 0 then 0 else x.places + 1)
        else if x.places = 0 then x.width + places + 1
        else x.width + places - x.places
      let width := max (widthOf first) (widthOf last)
      let print (show_ : Int → Octets) : Ran :=
        if ns.isEmpty then {}
        else .output (Text.joined ((call.value? 's').getD "\n") (ns.map show_) ++ "\n")
      match call.value? 'f' with
      | some f =>
        match Format.read f with
        | .error s => .complaint 1 s!"seq: {s}"
        | .ok f => print fun n => String.ofList (f.before ++
            f.layout.double f.conversion (toFloat common n) ++ f.after)
      | none => print fun n => if call.has 'w' then zeroFilled width (plain n) else plain n

/-- Counts from one number to another. -/
def seq : Tool := fun args scene =>
  let isOperand (a : Octets) : Bool := isNegative a
  let start := args.takeWhile fun a => !isOperand a
  let rest := args.drop start.length
  Tool.withOptions "seq" 1 table
    (fun call _ => run { call with operands := call.operands ++ rest }) start scene

end Sequence

end Mender
