import Mender.Tool.Basic

/-!
# Showing files

Tools that print their files: whole, with numbers, with marks for what cannot be seen or backwards,
or only their first or last lines or bytes.
-/

namespace Mender

/-- How a text is shown. -/
structure Showing where
  /-- Lines have numbers. -/
  numbered : Bool := false
  /-- Lines that hold something have numbers. -/
  numbersText : Bool := false
  /-- Of empty lines after one another only the first is shown. -/
  squeezed : Bool := false
  /-- A mark ends each line. -/
  ends : Bool := false
  /-- Tabs have a mark. -/
  tabs : Bool := false
  /-- Characters that cannot be seen have marks. -/
  marks : Bool := false
  deriving DecidableEq, Repr

namespace Showing

/-- How far a text has been shown. -/
structure Progress where
  /-- The number of the last line that has one. -/
  number : Nat := 0
  /-- At the start of a line, the number of empty lines before it. -/
  blanks : Option Nat := some 0
  deriving DecidableEq, Repr

/-- A number at the right end of a width. -/
def rightAligned (width : Nat) (s : Octets) : Octets :=
  String.ofList (List.replicate (width - s.length) ' ') ++ s

/-- A character below 128 that may not be seen. -/
def visible (n : Nat) : List Char :=
  if n < 32 then ['^', Char.ofNat (n + 64)]
  else if n = 127 then ['^', '?']
  else [Char.ofNat n]

/-- A character as it is shown. -/
def mark (s : Showing) (c : Char) (next : Option Char) : List Char :=
  if c = '\t' then if s.tabs then ['^', 'I'] else [c]
  else if s.marks then
    if c.toNat < 128 then visible c.toNat else 'M' :: '-' :: visible (c.toNat - 128)
  else if s.ends && c = '\r' && next = some '\n' then ['^', 'M']
  else [c]

/-- The number before a line. -/
def numberText (n : Nat) : List Char :=
  (rightAligned 6 (toString n)).toList ++ ['\t']

/-- Shows a text; what was shown is returned in reverse. -/
def showFrom (s : Showing) : Progress → List Char → List Char → List Char × Progress
  | p, shown, [] => (shown, p)
  | p, shown, c :: cs =>
    if c = '\n' then
      let stop : List Char := if s.ends then ['\n', '$'] else ['\n']
      match p.blanks with
      | none => showFrom s { p with blanks := some 0 } (stop ++ shown) cs
      | some k =>
        if s.squeezed && 1 ≤ k then showFrom s p shown cs
        else if s.numbered && !s.numbersText then
          let number := (numberText (p.number + 1)).reverse
          showFrom s ⟨p.number + 1, some (k + 1)⟩ (stop ++ number ++ shown) cs
        else showFrom s { p with blanks := some (k + 1) } (stop ++ shown) cs
    else
      let mark := (s.mark c cs.head?).reverse
      if p.blanks.isSome && (s.numbered || s.numbersText) then
        showFrom s ⟨p.number + 1, none⟩ (mark ++ (numberText (p.number + 1)).reverse ++ shown) cs
      else showFrom s { p with blanks := none } (mark ++ shown) cs

/-- Shows a text. -/
def shown (s : Showing) (p : Progress) (text : Octets) : Octets × Progress :=
  if s = {} then (text, p)
  else
    let (cs, p) := s.showFrom p [] text.toList
    (String.ofList cs.reverse, p)

/-- The options of `cat`. -/
def table : OptionTable :=
  { flags := "AbeEnstTuv"
    long := [⟨"show-all", 'A', .never⟩, ⟨"number-nonblank", 'b', .never⟩, ⟨"number", 'n', .never⟩,
      ⟨"show-ends", 'E', .never⟩, ⟨"squeeze-blank", 's', .never⟩, ⟨"show-tabs", 'T', .never⟩,
      ⟨"show-nonprinting", 'v', .never⟩] }

/-- How a call wants texts to be shown. -/
def ofCall (call : Call) : Showing :=
  let any (cs : Octets) : Bool := cs.toList.any call.has
  { numbered := any "n", numbersText := any "b", squeezed := any "s", ends := any "AeE"
    tabs := any "AtT", marks := any "Aetv" }

/-- Prints files after one another. -/
def cat : Tool := .withOptions "cat" 1 table fun call scene =>
  let s := ofCall call
  let names := if call.operands.isEmpty then ["-"] else call.operands
  let isOutput (name : Octets) : Bool :=
    match scene.outputPlace, scene.find name with
    | some place, .ok (other, .file content) => place = other && !content.isEmpty
    | _, _ => false
  let (r, _, _) := names.foldl
    (fun (r, (p : Progress), (scene : Scene)) name =>
      if name = "-" && !scene.hasInput then
        (r.then_ (.complaint 1 "cat: -: Bad file descriptor"), p, scene)
      else if isOutput name then
        (r.then_ (.complaint 1 s!"cat: {name}: input file is output file"), p, scene)
      else
        match scene.content name with
        | .ok text =>
          let (text, p) := s.shown p text
          if Scene.isInput name then
            ((r.then_ (.output text)).takingAll, p, { scene with input := [] })
          else (r.then_ (.output text), p, scene)
        | .error fault => (r.then_ (.unreadable "cat" 1 name fault), p, scene))
    (({} : Ran), ({} : Progress), scene)
  if call.operands.isEmpty && !scene.hasInput then
    .complaint 1 "cat: -: Bad file descriptor\ncat: closing standard input: Bad file descriptor"
  else r

end Showing

/-- The pieces of a text that a mark ends, each with its mark. -/
def piecesEndedBy (mark : List Char) (cs : List Char) : List (List Char) :=
  let pieces := Text.splitText mark cs
  let whole := pieces.dropLast.map (· ++ mark)
  match pieces.getLast? with
  | some [] => whole
  | some piece => whole ++ [piece]
  | none => whole

/-- The pieces of a text that a mark starts, each with its mark. -/
def piecesStartedBy (mark : List Char) (cs : List Char) : List (List Char) :=
  match Text.splitText mark cs with
  | [] => []
  | first :: rest => (if first.isEmpty then [] else [first]) ++ rest.map (mark ++ ·)

/-- Prints the lines of each file backwards. -/
def tac : Tool :=
  let table : OptionTable :=
    { flags := "br", valued := "s"
      long := [⟨"before", 'b', .never⟩, ⟨"separator", 's', .always⟩] }
  .withOptions "tac" 1 table fun call scene =>
    let mark := ((call.value? 's').getD "\n").toList
    let refuse (name : Octets) (fault : PathFault) : Ran :=
      if fault = .isDirectory then .complaint 1 s!"tac: {name}: read error: Invalid argument"
      else .complaint 1 
        s!"tac: failed to open {Naming.quoted name} for reading: {fault.text}"
    scene.overFiles call.operands refuse fun text =>
      let pieces := if call.has 'b' then piecesStartedBy mark text.toList
        else if mark = ['\n'] then Octets.fullLines text.toList
        else piecesEndedBy mark text.toList
      .output (String.ofList pieces.reverse.flatten)

/-- Prints each line backwards. -/
def rev : Tool := fun args scene =>
  let refuse (name : Octets) (fault : PathFault) : Ran :=
    if fault = .isDirectory then .complaint 1 s!"rev: {name}: Is a directory"
    else .complaint 1 s!"rev: cannot open {name}: {fault.text}"
  scene.overFiles args refuse fun text =>
    .output (String.ofList ((Octets.fullLines text.toList).flatMap fun l =>
      if l.getLast? = some '\n' then l.dropLast.reverse ++ ['\n'] else l.reverse))

namespace Numbering

/-- The options of `nl`. -/
def table : OptionTable :=
  { flags := "p", valued := "bdfhilnsvw"
    long := [⟨"body-numbering", 'b', .always⟩, ⟨"line-increment", 'i', .always⟩,
      ⟨"number-format", 'n', .always⟩, ⟨"number-separator", 's', .always⟩,
      ⟨"starting-line-number", 'v', .always⟩, ⟨"number-width", 'w', .always⟩] }

/-- A number in a format and a width. -/
def numberText (format : Octets) (width : Nat) (n : Int) : Octets :=
  let digits := toString n
  let fill (c : Char) : Octets := String.ofList (List.replicate (width - digits.length) c)
  if format = "ln" then digits ++ fill ' '
  else if format = "rz" then
    if n < 0 then "-" ++ fill '0' ++ toString n.natAbs else fill '0' ++ digits
  else fill ' ' ++ digits

/-- Prints files with numbers before their lines. -/
def nl : Tool := .withOptions "nl" 1 table fun call scene =>
  let style := (call.value? 'b').getD "t"
  let width := ((call.value? 'w').bind Amount.digits?).getD 6
  let between := (call.value? 's').getD "\t"
  let whole (c : Char) (otherwise : Int) : Int :=
    ((call.value? c).bind Shell.Numeral.whole?).getD otherwise
  let step := whole 'i' 1
  let format := (call.value? 'n').getD "rn"
  let blank := String.ofList (List.replicate (width + between.length) ' ')
  let names := if call.operands.isEmpty then ["-"] else call.operands
  let (r, _) := names.foldl
    (fun (r, (n : Int)) name =>
      match scene.content name with
      | .ok text =>
        let (n, lines) := (Octets.toLines text).foldl
          (fun ((n : Int), lines) l =>
            if style = "a" || (style = "t" && l != "") then
              (n + step, (numberText format width n ++ between ++ l) :: lines)
            else (n, (blank ++ l) :: lines))
          (n, [])
        let r := r.then_ (.output (Octets.lines lines.reverse))
        (if Scene.isInput name then r.takingAll else r, n)
      | .error fault => (r.then_ (.unreadable "nl" 1 name fault), n))
    (({} : Ran), whole 'v' 1)
  r

end Numbering

/-! ## The ends of files -/

namespace Ends

/-- What is counted. -/
inductive Measure where
  | lines
  | bytes
  deriving DecidableEq, Repr

/-- What a text is counted in. -/
def Measure.name : Measure → Octets
  | .lines => "lines"
  | .bytes => "bytes"

/-- How much is printed. -/
structure Wanted where
  measure : Measure := .lines
  amount : Amount := { count := 10 }
  deriving DecidableEq, Repr

/-- The first lines of a text behind what was taken in reverse, and the rest of it. -/
def splitLinesInto (taken : List Char) : Nat → List Char → List Char × List Char
  | _, [] => (taken.reverse, [])
  | 0, cs => (taken.reverse, cs)
  | n + 1, c :: cs => splitLinesInto (c :: taken) (if c = '\n' then n else n + 1) cs

/-- The first lines of a text, and the rest of it. -/
def splitLines (n : Nat) (cs : List Char) : List Char × List Char :=
  splitLinesInto [] n cs

/-- How many lines a text has; the last need not be ended. -/
def lineCount (cs : List Char) : Nat :=
  cs.count '\n' + if cs.getLast?.any (· != '\n') then 1 else 0

/-- The first lines or bytes of a text, and the rest of it. -/
def split (m : Measure) (n : Nat) (cs : List Char) : List Char × List Char :=
  match m with
  | .lines => splitLines n cs
  | .bytes => (cs.take n, cs.drop n)

/-- The number of lines or bytes. -/
def size (m : Measure) (cs : List Char) : Nat :=
  match m with
  | .lines => lineCount cs
  | .bytes => cs.length

/-- The first part of a text, and the rest; a negative amount leaves out so much at the end. -/
def first (w : Wanted) (cs : List Char) : List Char × List Char :=
  let n := if w.amount.negative then size w.measure cs - w.amount.count else w.amount.count
  split w.measure n cs

/-- The last part of a text; an amount with a plus sign says where it starts. -/
def last (w : Wanted) (cs : List Char) : List Char :=
  let n := if w.amount.positive then w.amount.count - 1
    else size w.measure cs - w.amount.count
  (split w.measure n cs).2

/-- The characters that a tool has read at once from an input that cannot be set back. -/
def readAtOnce : Nat := 8192

/-- What is left of an input of which a part was used. -/
def leftOf (scene : Scene) (input rest : List Char) : List Char :=
  if scene.seekable then rest
  else
    let used := input.length - rest.length
    input.drop ((used + readAtOnce - 1) / readAtOnce * readAtOnce)

/-- Where a file stands in the output. -/
structure Heading where
  shown : Bool
  isFirst : Bool := true

/-- The heading of a file. -/
def Heading.text (h : Heading) (name : Octets) : Octets :=
  let name := if name = "-" then "standard input" else name
  if h.shown then (if h.isFirst then "" else "\n") ++ s!"==> {name} <==\n" else ""

/-- Prints a part of each file under its heading; `part` also returns what is left of the input. -/
def overHeaded (tool : Octets) (call : Call) (scene : Scene)
    (part : List Char → List Char × List Char) : Ran :=
  let names := if call.operands.isEmpty then ["-"] else call.operands
  let shown : Bool := match call.last? "qv" with
    | some 'q' => false
    | some _ => true
    | none => 1 < names.length
  let (r, _, _) := names.foldl
    (fun (r, (h : Heading), (scene : Scene)) name =>
      let next : Heading := { h with isFirst := false }
      match scene.content name with
      | .ok text =>
        let (cs, rest) := part text.toList
        let r := r.then_ (.output (h.text name ++ String.ofList cs))
        if Scene.isInput name then
          let left := leftOf scene text.toList rest
          ({ r with unread := some left }, next, { scene with input := left })
        else (r, next, scene)
      | .error .isDirectory =>
        let r := r.then_ (.output (h.text name))
        (r.then_ (.unopened tool name .isDirectory), next, scene)
      | .error fault => (r.then_ (.unopened tool name fault), h, scene))
    (({} : Ran), ({ shown } : Heading), scene)
  r

/-- The options of both tools. -/
def table : OptionTable :=
  { flags := "qv", valued := "cn"
    long := [⟨"bytes", 'c', .always⟩, ⟨"lines", 'n', .always⟩, ⟨"quiet", 'q', .never⟩,
      ⟨"silent", 'q', .never⟩, ⟨"verbose", 'v', .never⟩] }

/-- How much a call wants to be printed. -/
def wantedOf (tool : Octets) (call : Call) : Except Ran Wanted :=
  match call.options.reverse.find? fun o => o.name = "c" || o.name = "n" with
  | none => .ok {}
  | some o =>
    let measure : Measure := if o.name = "c" then .bytes else .lines
    let value := o.value.getD ""
    match Amount.read? value with
    | some amount => .ok { measure, amount }
    | none => .error (.complaint 1 s!"{tool}: invalid number of {measure.name}: '{value}'")

/-- A number behind a hyphen, which may stand for an option, as that option. -/
def withNumber : List Octets → List Octets
  | a :: rest =>
    match a.toList with
    | '-' :: d :: cs =>
      if d.isDigit then
        let digits := (d :: cs).takeWhile Char.isDigit
        let letters := (d :: cs).drop digits.length
        let measure := if letters.contains 'c' then "-c" else "-n"
        let others := letters.filter fun c => c = 'q' || c = 'v'
        let flags := if others.isEmpty then [] else [String.ofList ('-' :: others)]
        flags ++ measure :: String.ofList digits :: rest
      else a :: rest
    | _ => a :: rest
  | [] => []

/-- Prints the first parts of files. -/
def head : Tool := fun args scene =>
  Tool.withOptions "head" 1 table (fun call scene =>
    match wantedOf "head" call with
    | .error r => r
    | .ok w => overHeaded "head" call scene (first w)) (withNumber args) scene

/-- A number with its sign in front, as an option that says where the last part starts. -/
def withSignedNumber (args : List Octets) : List Octets :=
  match args with
  | a :: rest =>
    match a.toList with
    | '+' :: d :: cs =>
      if d.isDigit && rest.length ≤ 1 then
        let digits := (d :: cs).takeWhile Char.isDigit
        let measure := if ((d :: cs).drop digits.length).contains 'c' then "-c" else "-n"
        measure :: String.ofList ('+' :: digits) :: rest
      else args
    | _ => withNumber args
  | [] => []

/-- Prints the last parts of files. -/
def tail : Tool := fun args scene =>
  let table : OptionTable :=
    { table with
      flags := "qvfFz", valued := "cns"
      long := table.long ++ [⟨"follow", 'f', .maybe⟩, ⟨"retry", 'F', .never⟩,
        ⟨"zero-terminated", 'z', .never⟩] }
  Tool.withOptions "tail" 1 table (fun call scene =>
    match wantedOf "tail" call with
    | .error r => r
    | .ok w =>
      let r := overHeaded "tail" call scene fun cs => (last w cs, [])
      let follows : Bool := (call.has 'f' || call.has 'F') && !call.operands.isEmpty
      { r with endless := follows && r.status = 0 }) (withSignedNumber args) scene

end Ends

end Mender
