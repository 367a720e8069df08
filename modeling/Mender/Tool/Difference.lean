import Mender.Tool.Difference.Alignment
import Mender.Tool.Directories

/-!
# Differences

Compares files byte by byte and line by line.
-/

namespace Mender.Difference

/-! ## Bytes -/

/-- The options of `cmp`. -/
def bytesTable : OptionTable :=
  { flags := "bls", valued := "in"
    long := [⟨"print-bytes", 'b', .never⟩, ⟨"verbose", 'l', .never⟩, ⟨"quiet", 's', .never⟩,
      ⟨"silent", 's', .never⟩, ⟨"bytes", 'n', .always⟩, ⟨"ignore-initial", 'i', .always⟩] }

/-- A byte in octal digits, at the right end of three places. -/
def octal (c : Char) : Octets :=
  Showing.rightAligned 3 (String.ofList (Nat.toDigits 8 c.toNat))

/-- The pairs of bytes that differ, with their numbers. -/
def differing (n : Nat) : List Char → List Char → List (Nat × Char × Char)
  | a :: as, b :: bs =>
    if a = b then differing (n + 1) as bs else (n, a, b) :: differing (n + 1) as bs
  | _, _ => []

/-- The first byte that differs, and the number of line feeds before it. -/
def firstDifference (n lines : Nat) : List Char → List Char → Nat × Nat × Option (Char × Char)
  | a :: as, b :: bs =>
    if a = b then firstDifference (n + 1) (if a = '\n' then lines + 1 else lines) as bs
    else (n, lines, some (a, b))
  | _, _ => (n, lines, none)

/-- Compares two texts byte by byte. -/
def compareBytes (call : Call) (a b : Octets) (as bs : List Char) : Ran :=
  let silent : Bool := call.has 's'
  let ended (name : Octets) (n lines : Nat) (partial_ : Bool) : Ran :=
    if silent then .ended 1
    else if n = 0 then .complaint 1 s!"cmp: EOF on {Naming.shown name} which is empty"
    else if call.has 'l' then .complaint 1 s!"cmp: EOF on {Naming.shown name} after byte {n}"
    else
      let where_ := if partial_ then s!"in line {lines + 1}" else s!"line {lines}"
      .complaint 1 s!"cmp: EOF on {Naming.shown name} after byte {n}, {where_}"
  let endOf (n lines : Nat) : Ran :=
    if as.length = bs.length then {}
    else
      let isPartial (cs : List Char) : Bool := cs.getLast? != some '\n'
      if as.length < bs.length then ended a n lines (isPartial as)
      else ended b n lines (isPartial bs)
  if call.has 'l' && !silent then
    let shorter := min as.length bs.length
    let width := (toString (max as.length bs.length)).length
    let lines := (differing 1 as bs).map fun (n, x, y) =>
      Showing.rightAligned width (toString n) ++ s!" {octal x} {octal y}"
    let r := Ran.output (Octets.lines lines)
    (if lines.isEmpty then r else r.withStatus 1).then_
      (endOf shorter ((as.take shorter).count '\n'))
  else
    match firstDifference 0 0 as bs with
    | (n, lines, some (x, y)) =>
      if silent then .ended 1
      else
        let bytes := if call.has 'b' then
            s!" is {octal x} {String.singleton x} {octal y} {String.singleton y}"
          else ""
        let word := if call.has 'b' then "byte" else "char"
        (Ran.output s!"{a} {b} differ: {word} {n + 1}, line {lines + 1}{bytes}\n").withStatus 1
    | (n, lines, none) => endOf n lines

/-- Compares two files byte by byte. -/
def cmp : Tool := .withOptions "cmp" 2 bytesTable fun call scene =>
  let misuse (s : Octets) : Ran :=
    .complaint 2 s!"cmp: {s}\ncmp: Try 'cmp --help' for more information."
  let limit := (call.value? 'n').bind Amount.digits?
  let skip := ((call.value? 'i').bind Amount.digits?).getD 0
  let part (s : Octets) : List Char :=
    let cs := s.toList.drop skip
    match limit with
    | some n => cs.take n
    | none => cs
  match call.operands with
  | [] => misuse "missing operand after 'cmp'"
  | _ :: _ :: _ :: _ :: extra :: _ => misuse s!"extra operand '{extra}'"
  | a :: rest =>
    let b := rest.headD "-"
    match scene.content a, scene.content b with
    | .error fault, _ => if call.has 's' then .ended 2 else .unreadable "cmp" 2 a fault
    | _, .error fault => if call.has 's' then .ended 2 else .unreadable "cmp" 2 b fault
    | .ok textA, .ok textB =>
      let r := if a = b then {} else compareBytes call a b (part textA) (part textB)
      if Scene.isInput a || Scene.isInput b then r.takingAll else r

/-! ## Lines -/

/-- A line as it is compared, and as it is shown. -/
structure Line where
  key : Octets
  text : Octets
  /-- The last line of a text that has no line feed behind it. -/
  unended : Bool := false
  deriving DecidableEq, Repr

/-- What is ignored in lines. -/
structure Ignored where
  case : Bool := false
  /-- How many blanks there are, or blanks at all. -/
  blankCount : Bool := false
  blanks : Bool := false
  blankEnds : Bool := false
  deriving Repr

/-- Makes runs of blanks one blank. -/
def oneBlank : List Char → List Char
  | [] => []
  | c :: cs =>
    let rest := oneBlank cs
    if Octets.isSpace c then if rest.head? = some ' ' then rest else ' ' :: rest
    else c :: rest

/-- Drops blanks at the end. -/
def withoutEndBlanks (cs : List Char) : List Char :=
  (cs.reverse.dropWhile Octets.isSpace).reverse

/-- A line as it is compared. -/
def Ignored.key (i : Ignored) (l : Octets) : Octets :=
  let cs := l.toList
  let cs := if i.case then cs.map Char.toLower else cs
  let cs := if i.blanks then cs.filter fun c => !Octets.isSpace c
    else if i.blankCount then oneBlank (withoutEndBlanks cs)
    else if i.blankEnds then withoutEndBlanks cs else cs
  String.ofList cs

/-- The lines of a text. A line that nothing ends differs from one that a line feed ends. -/
def linesOf (i : Ignored) (text : Octets) : Array Line :=
  let ls := Octets.toLines text
  let open_ : Bool := text != "" && !text.endsWith "\n"
  let count := ls.length
  (ls.mapIdx fun n l =>
    let unended : Bool := open_ && n + 1 == count
    let mark := if unended && !(i.blanks || i.blankCount || i.blankEnds) then "\n" else ""
    ⟨i.key l ++ mark, l, unended⟩).toArray

/-- A change: lines of the first text that became lines of the second. -/
structure Hunk where
  start₁ : Nat
  stop₁ : Nat
  start₂ : Nat
  stop₂ : Nat
  deriving DecidableEq, Repr

/-- The changes between two texts, from the marks of their lines. -/
def hunks (m : Alignment.Marks) : Nat → Nat → Nat → List Hunk
  | 0, _, _ => []
  | fuel + 1, i, j =>
    let run (marks : Array Bool) (i : Nat) : Nat :=
      i + ((List.range (marks.size - i)).takeWhile fun k => (marks[i + k]?).getD false).length
    let i' := run m.first i
    let j' := run m.second j
    if i' = i && j' = j then
      if m.first.size ≤ i && m.second.size ≤ j then [] else hunks m fuel (i + 1) (j + 1)
    else ⟨i, i', j, j'⟩ :: hunks m fuel i' j'

/-- The changes between two texts of which at most `margin` common lines at the ends count. -/
def changes (margin : Nat) (as bs : Array Line) : List Hunk :=
  hunks (Alignment.marks margin (as.map (·.key)) (bs.map (·.key))) (as.size + bs.size + 2) 0 0

/-- The lines of a text with a sign before each. -/
def signed (sign : Octets) (ls : Array Line) (start stop : Nat) : List Octets :=
  (ls.extract start stop).toList.flatMap fun l =>
    (sign ++ l.text) :: if l.unended then ["\\ No newline at end of file"] else []

/-- Lines from one to another, by their numbers. -/
def rangeText (start stop : Nat) : Octets :=
  if stop ≤ start + 1 then toString stop else s!"{start + 1},{stop}"

/-- A change with a letter between the numbers of its lines. -/
def Hunk.plain (h : Hunk) (as bs : Array Line) : List Octets :=
  let removes : Bool := h.start₁ < h.stop₁
  let adds : Bool := h.start₂ < h.stop₂
  let letter := if removes && adds then "c" else if removes then "d" else "a"
  let range (start stop : Nat) : Octets :=
    if start < stop then rangeText start stop else toString start
  (range h.start₁ h.stop₁ ++ letter ++ range h.start₂ h.stop₂) ::
    (signed "< " as h.start₁ h.stop₁ ++ (if removes && adds then ["---"] else []) ++
      signed "> " bs h.start₂ h.stop₂)

/-- Changes whose surroundings meet, as groups. -/
def grouped (context : Nat) : List Hunk → List (List Hunk)
  | [] => []
  | h :: hs =>
    match grouped context hs with
    | (g :: gs) :: rest =>
      if g.start₁ ≤ h.stop₁ + 2 * context then (h :: g :: gs) :: rest else [h] :: (g :: gs) :: rest
    | rest => [h] :: rest

/-- A number of lines behind the number of the first, for a heading. -/
def spanText (start stop : Nat) : Octets :=
  let count := stop - start
  if count = 0 then s!"{start},0"
  else if count = 1 then toString (start + 1) else s!"{start + 1},{count}"

/-- A group of changes with the lines around them. -/
def unifiedGroup (context : Nat) (as bs : Array Line) (g : List Hunk) : List Octets :=
  match g, g.getLast? with
  | h :: _, some l =>
    let start₁ := h.start₁ - context
    let start₂ := h.start₂ - min context h.start₁
    let stop₁ := min as.size (l.stop₁ + context)
    let stop₂ := min bs.size (l.stop₂ + context)
    let (lines, at_) := g.foldl
      (fun ((lines : List Octets), (i : Nat)) h =>
        (lines ++ signed " " as i h.start₁ ++ signed "-" as h.start₁ h.stop₁ ++
          signed "+" bs h.start₂ h.stop₂, h.stop₁))
      ([], start₁)
    s!"@@ -{spanText start₁ stop₁} +{spanText start₂ stop₂} @@" ::
      (lines ++ signed " " as at_ stop₁)
  | _, _ => []

/-- How differences are told. -/
structure Style where
  brief : Bool := false
  same : Bool := false
  unified : Option Nat := none
  ignored : Ignored := {}
  ignoresBlankLines : Bool := false
  recursive : Bool := false
  absentIsEmpty : Bool := false
  labels : List Octets := []
  /-- The options as they are told between files of directories. -/
  options : Octets := ""

/-- The time that is told of a file. -/
def timeText : Octets :=
  "1970-01-01 00:00:00.000000000 +0000"

/-- The line that tells a file. -/
def headingOf (sign name : Octets) (label : Option Octets) : Octets :=
  match label with
  | some l => s!"{sign} {l}"
  | none => s!"{sign} {name}\t{timeText}"

/-- The lines that tell the differences of two texts; none when there are none. -/
def Style.compare (s : Style) (a b : Octets) (textA textB : Octets) : List Octets :=
  if textA == textB then
    if s.same then [s!"Files {a} and {b} are identical"] else []
  else
    let as := linesOf s.ignored textA
    let bs := linesOf s.ignored textB
    let isBinary (t : Octets) : Bool := t.toList.contains '\x00'
    let counts (h : Hunk) : Bool := !s.ignoresBlankLines ||
      ((as.extract h.start₁ h.stop₁).toList ++ (bs.extract h.start₂ h.stop₂).toList).any
        (·.text != "")
    let hs := (changes (s.unified.getD 0) as bs).filter counts
    if hs.isEmpty && !isBinary textA && !isBinary textB then []
    else if s.brief then [s!"Files {a} and {b} differ"]
    else if isBinary textA || isBinary textB then [s!"Binary files {a} and {b} differ"]
    else
      match s.unified with
      | some context =>
        headingOf "---" a s.labels[0]? :: headingOf "+++" b s.labels[1]? ::
          (grouped context hs).flatMap (unifiedGroup context as bs)
      | none => hs.flatMap (·.plain as bs)

/-- What a comparison has found: the lines that are printed in order, and whether some differ. -/
structure Told where
  printed : List (Nat × Octets) := []
  status : Nat := 0

/-- Tells one thing after another. -/
def Told.and (a b : Told) : Told :=
  ⟨a.printed ++ b.printed, max a.status b.status⟩

/-- Tells lines; if there are any, files differ. -/
def Told.ofLines (ls : List Octets) (differ : Bool) : Told :=
  ⟨ls.map fun l => (1, l ++ "\n"), if differ then 1 else 0⟩

/-- Complains. -/
def Told.complaint (s : Octets) : Told :=
  ⟨[(2, s ++ "\n")], 2⟩

/-- The kind of what is at a place, in words. -/
def kindOf (n : Shell.Node) : Octets :=
  match n with
  | .directory => "directory"
  | .file [] => "regular empty file"
  | .file _ => "regular file"
  | _ => "character special file"

/-- Compares what two names lead to; the depth of the trees is bounded by `fuel`. The flag says that
the names come from directories. -/
def Style.compareNames (s : Style) (scene : Scene) : Nat → Bool → Octets → Octets → Told
  | 0, _, _, _ => {}
  | fuel + 1, inside, a, b =>
    let nodeOf (name : Octets) : Except PathFault Shell.Node :=
      if name = "-" then .ok (.file (Octets.toBytes (String.ofList scene.input)))
      else (scene.find name).map (·.2)
    let textOf (n : Shell.Node) : Octets := match n with
      | .file content => Octets.ofBytes content
      | _ => ""
    match nodeOf a, nodeOf b with
    | .error f, .error g =>
      (Told.complaint s!"diff: {Naming.shown a}: {f.text}").and
        (.complaint s!"diff: {Naming.shown b}: {g.text}")
    | .error f, .ok n =>
      if s.absentIsEmpty && f = .notFound then underHeading inside a b (withText a b "" (textOf n))
      else .complaint s!"diff: {Naming.shown a}: {f.text}"
    | .ok n, .error f =>
      if s.absentIsEmpty && f = .notFound then underHeading inside a b (withText a b (textOf n) "")
      else .complaint s!"diff: {Naming.shown b}: {f.text}"
    | .ok .directory, .ok .directory => directories fuel inside a b
    | .ok .directory, .ok m =>
      if inside then differentKinds a .directory b m
      else compareNames s scene fuel inside (FileName.join a (FileName.base b)) b
    | .ok n, .ok .directory =>
      if inside then differentKinds a n b .directory
      else compareNames s scene fuel inside a (FileName.join b (FileName.base a))
    | .ok n, .ok m => underHeading inside a b (withText a b (textOf n) (textOf m))
where
  /-- Files of different kinds. -/
  differentKinds (a : Octets) (n : Shell.Node) (b : Octets) (m : Shell.Node) : Told :=
    .ofLines [s!"File {a} is a {kindOf n} while file {b} is a {kindOf m}"] true
  /-- Tells between files of directories which files differ. -/
  underHeading (inside : Bool) (a b : Octets) (told : Told) : Told :=
    if inside && !s.brief && told.status != 0 then
      (Told.ofLines [s!"diff{s.options} {a} {b}"] true).and told
    else told
  /-- Compares texts. -/
  withText (a b textA textB : Octets) : Told :=
    let lines := s.compare a b textA textB
    .ofLines lines (!lines.isEmpty && textA != textB)
  /-- Compares what directories hold. -/
  directories (fuel : Nat) (inside : Bool) (a b : Octets) : Told :=
    if inside && !s.recursive then
      .ofLines [s!"Common subdirectories: {a} and {b}"] false
    else
      let namesIn (name : Octets) : List Octets :=
        match scene.find name with
        | .ok (place, _) => scene.machine.names place
        | .error _ => []
      let as := namesIn a
      let bs := namesIn b
      let all := (as ++ bs.filter fun n => !as.contains n).mergeSort (· ≤ ·)
      all.foldl
        (fun told name =>
          let next : Told :=
            if s.absentIsEmpty || (as.contains name && bs.contains name) then
              compareNames s scene fuel true (FileName.join a name) (FileName.join b name)
            else
              let owner := FileName.withoutSlashes (if as.contains name then a else b)
              .ofLines [s!"Only in {owner}: {name}"] true
          told.and next)
        {}

/-- The options of `diff`. -/
def table : OptionTable :=
  { flags := "abBdeEHinNpqrstTuwcyZ", valued := "CFILSUWx"
    long := [⟨"brief", 'q', .never⟩, ⟨"report-identical-files", 's', .never⟩,
      ⟨"unified", 'U', .maybe⟩, ⟨"context", 'C', .maybe⟩, ⟨"ignore-case", 'i', .never⟩,
      ⟨"ignore-all-space", 'w', .never⟩, ⟨"ignore-space-change", 'b', .never⟩,
      ⟨"ignore-blank-lines", 'B', .never⟩, ⟨"ignore-trailing-space", 'Z', .never⟩,
      ⟨"recursive", 'r', .never⟩, ⟨"new-file", 'N', .never⟩, ⟨"label", 'L', .always⟩,
      ⟨"text", 'a', .never⟩, ⟨"minimal", 'd', .never⟩, ⟨"strip-trailing-cr", 'R', .never⟩,
      ⟨"color", 'K', .maybe⟩, ⟨"normal", 'O', .never⟩] }

/-- How a call wants differences to be told. -/
def styleOf (call : Call) (args : List Octets) : Style :=
  let unified : Option Nat :=
    if call.has 'U' then some (((call.value? 'U').bind Amount.digits?).getD 3)
    else if call.has 'u' then some 3 else none
  { brief := call.has 'q', same := call.has 's', unified
    ignored := { case := call.has 'i', blankCount := call.has 'b', blanks := call.has 'w'
                 blankEnds := call.has 'Z' }
    ignoresBlankLines := call.has 'B', recursive := call.has 'r', absentIsEmpty := call.has 'N'
    labels := call.values 'L'
    options := String.join ((args.filter (·.startsWith "-")).map (" " ++ ·)) }

/-- Compares two files line by line. -/
def diff : Tool := fun args scene =>
  let misuse (s : Octets) : Ran :=
    .complaint 2 s!"diff: {s}\ndiff: Try 'diff --help' for more information."
  match table.read args with
  | .error m => .complaint 2 (m.text "diff" ++
      "\ndiff: Try 'diff --help' for more information.")
  | .ok call =>
    let s := styleOf call args
    match call.operands with
    | [] => misuse "missing operand after 'diff'"
    | [a] => misuse s!"missing operand after '{a}'"
    | _ :: _ :: extra :: _ => misuse s!"extra operand '{extra}'"
    | [a, b] =>
      let told := s.compareNames scene 1000 false a b
      let r : Ran := { printed := told.printed, status := told.status }
      if a = "-" || b = "-" then r.takingAll else r

end Mender.Difference
