import Mender.Shell.Numeral
import Mender.Tool.Basic

/-!
# Dumps

Shows the bytes of files as numbers or characters, in rows of blocks. Each row starts with the place
of its first byte; each kind of showing has a line of its own in a row, and the lines stand column
under column.
-/

namespace Mender.Dump

/-- How bytes are shown. -/
inductive Form where
  /-- As characters; those that cannot be printed by a letter or digits. -/
  | character
  /-- By the names of characters. -/
  | named
  /-- As numbers of some bytes each, in a base. -/
  | number (size base : Nat)
  /-- As numbers with a sign. -/
  | signed (size : Nat)
  deriving DecidableEq, Repr

/-- A kind of showing. -/
structure Spec where
  form : Form
  /-- The characters that can be printed follow the row. -/
  withText : Bool := false

namespace Form

/-- The bytes of one field. -/
def size : Form → Nat
  | .number n _ => n
  | .signed n => n
  | _ => 1

/-- The columns of one field, without the blank before it. -/
def width : Form → Nat
  | .number n 8 => [0, 3, 6, 8, 11, 14, 16, 19, 22].getD n 3
  | .number n 16 => 2 * n
  | .number n _ => [0, 3, 5, 8, 10, 13, 15, 17, 20].getD n 3
  | .signed n => [1, 4, 6, 8, 11, 13, 16, 18, 20].getD n 4
  | _ => 3

end Form

/-- The names of the first characters. -/
def controlNames : List Octets :=
  ["nul", "soh", "stx", "etx", "eot", "enq", "ack", "bel", "bs", "ht", "nl", "vt", "ff", "cr", "so",
    "si", "dle", "dc1", "dc2", "dc3", "dc4", "nak", "syn", "etb", "can", "em", "sub", "esc", "fs",
    "gs", "rs", "us", "sp"]

/-- A number in a base with at least some digits. -/
def digits (base width n : Nat) : Octets :=
  let ds := Nat.toDigits base n
  String.ofList (List.replicate (width - ds.length) '0' ++ ds)

/-- The name of a byte. -/
def nameOf (c : Char) : Octets :=
  let n := c.toNat % 128
  if n = 127 then "del"
  else controlNames.getD n (String.singleton (Char.ofNat n))

/-- A byte as a character. -/
def characterOf (c : Char) : Octets :=
  let letter : Option Char := match c with
    | '\x00' => some '0'
    | '\x07' => some 'a'
    | '\x08' => some 'b'
    | '\x0c' => some 'f'
    | '\n' => some 'n'
    | '\r' => some 'r'
    | '\t' => some 't'
    | '\x0b' => some 'v'
    | _ => none
  match letter with
  | some l => String.ofList ['\\', l]
  | none => if Naming.isPrintable c then String.singleton c else digits 8 3 c.toNat

/-- The number that bytes stand for, the least significant first. -/
def numberOf (bytes : List Char) : Nat :=
  bytes.foldr (fun c n => 256 * n + c.toNat) 0

/-- One field. -/
def field (form : Form) (bytes : List Char) : Octets :=
  match form with
  | .character => characterOf (bytes.headD '\x00')
  | .named => nameOf (bytes.headD '\x00')
  | .number n base =>
    if base = 10 then toString (numberOf bytes)
    else digits base (Form.number n base).width (numberOf bytes)
  | .signed n =>
    let limit := Nat.pow 256 n
    let value := numberOf bytes
    if limit ≤ 2 * value then toString ((value : Int) - limit) else toString value

/-- Cuts characters into pieces of a size. -/
def piecesOf (size : Nat) : Nat → List Char → List (List Char)
  | 0, _ => []
  | _, [] => []
  | fuel + 1, cs => cs.take size :: piecesOf size fuel (cs.drop size)

/-- The fields of a row, each with its share of the blanks that the row has in front of others. -/
def fields (spec : Spec) (rowSize rowWidth : Nat) (bytes : List Char) : Octets :=
  let size := spec.form.size
  let count := rowSize / size
  let pad := rowWidth - count * (spec.form.width + 1)
  let missing := size * ((bytes.length + size - 1) / size) - bytes.length
  let padded := bytes ++ List.replicate missing '\x00'
  let shown := (piecesOf size padded.length padded).mapIdx fun i piece =>
    let before := pad * (count - i) / count
    let after := pad * (count - i - 1) / count
    let text := field spec.form piece
    let width := spec.form.width + 1 + (before - after)
    String.ofList (List.replicate (width - text.length) ' ') ++ text
  let line := String.join shown
  if spec.withText then
    let missing := rowWidth - line.length
    let text := bytes.map fun c => if Naming.isPrintable c then c else '.'
    line ++ String.ofList (List.replicate missing ' ') ++ "  >" ++ String.ofList text ++ "<"
  else line

/-- How a dump is laid out. -/
structure Plan where
  /-- The base of places and their least number of digits, if they are shown. -/
  places : Option (Nat × Nat) := some (8, 7)
  specs : List Spec
  rowSize : Nat
  /-- Rows that are the same as the one before are shown, too. -/
  verbose : Bool := false
  start : Nat := 0

namespace Plan

/-- A place. -/
def place (p : Plan) (n : Nat) : Octets :=
  match p.places with
  | some (base, width) => digits base width n
  | none => ""

/-- The columns of a row. -/
def rowWidth (p : Plan) : Nat :=
  p.specs.foldl
    (fun w s => max w (p.rowSize / s.form.size * (s.form.width + 1))) 0

/-- A row at a place. -/
def row (p : Plan) (n : Nat) (bytes : List Char) : Octets :=
  let blank := String.ofList (List.replicate (p.place n).length ' ')
  Octets.lines (p.specs.mapIdx fun i s =>
    (if i = 0 then p.place n else blank) ++ fields s p.rowSize p.rowWidth bytes)

/-- The rows from a place on. The flags say what the row before held and whether rows were left
out. -/
def rows (p : Plan) : Nat → Option (List Char) → Bool → List (List Char) → List Octets
  | n, _, _, [] =>
    if p.places.isSome then [p.place n ++ "\n"] else []
  | n, before, leftOut, bytes :: rest =>
    let isSame : Bool := !p.verbose && before = some bytes && bytes.length = p.rowSize
    if isSame then
      (if leftOut then [] else ["*\n"]) ++ rows p (n + bytes.length) before true rest
    else p.row n bytes :: rows p (n + bytes.length) (some bytes) false rest

/-- A dump of characters. -/
def dump (p : Plan) (cs : List Char) : Octets :=
  String.join (p.rows p.start none false (piecesOf p.rowSize cs.length cs))

end Plan

/-! ## Options -/

/-- The bytes of a size that a letter or digits name, and what follows. -/
def readSize (usual : Nat) (cs : List Char) : Except Octets (Nat × List Char) :=
  match cs with
  | 'C' :: rest => .ok (1, rest)
  | 'S' :: rest => .ok (2, rest)
  | 'I' :: rest => .ok (4, rest)
  | 'L' :: rest => .ok (8, rest)
  | cs =>
    let ds := cs.takeWhile Char.isDigit
    let n := Octets.value ds
    if ds.isEmpty then .ok (usual, cs)
    else if [1, 2, 4, 8].contains n then .ok (n, cs.drop ds.length)
    else .error s!"this system doesn't provide a {n}-byte integral type"

/-- Reads the kinds of showing of one argument. -/
def readSpecs (whole : Octets) : Nat → List Char → Except Octets (List Spec)
  | 0, _ => .ok []
  | _, [] => .ok []
  | fuel + 1, c :: cs => do
    let sized (cs : List Char) (make : Nat → Form) : Except Octets (Form × List Char) :=
      match readSize 4 cs with
      | .ok (n, rest) => .ok (make n, rest)
      | .error e => .error s!"invalid type string {Naming.quoted whole};\n{e}"
    let (kind, rest) ← match c with
      | 'a' => Except.ok (Form.named, cs)
      | 'c' => .ok (.character, cs)
      | 'd' => sized cs .signed
      | 'o' => sized cs (.number · 8)
      | 'u' => sized cs (.number · 10)
      | 'x' => sized cs (.number · 16)
      | c => .error (s!"invalid character '{c}' in type string {Naming.quoted whole}")
    let (withText, rest) := match rest with
      | 'z' :: rest => (true, rest)
      | rest => (false, rest)
    let others ← readSpecs whole fuel rest
    return ⟨kind, withText⟩ :: others

/-- The kinds of showing that letters stand for. -/
def letterSpec? : Char → Option Form
  | 'a' => some .named
  | 'b' => some (.number 1 8)
  | 'c' => some .character
  | 'd' => some (.number 2 10)
  | 'i' => some (.signed 4)
  | 'l' => some (.signed 8)
  | 'o' => some (.number 2 8)
  | 's' => some (.signed 2)
  | 'x' => some (.number 2 16)
  | _ => none

/-- The options of `od`. -/
def table : OptionTable :=
  { flags := "abcdilosxv", valued := "AjNtw"
    long := [⟨"address-radix", 'A', .always⟩, ⟨"skip-bytes", 'j', .always⟩,
      ⟨"read-bytes", 'N', .always⟩, ⟨"format", 't', .always⟩, ⟨"width", 'w', .maybe⟩,
      ⟨"output-duplicates", 'v', .never⟩] }

/-- The kinds of showing that a call asks for. -/
def specsOf (call : Call) : Except Octets (List Spec) := do
  let specs ← call.options.mapM fun o =>
    match o.name.toList, o.value with
    | ['t'], some v => readSpecs v v.length v.toList
    | [c], _ => .ok ((letterSpec? c).toList.map fun n => { form := n })
    | _, _ => .ok []
  let specs := specs.flatten
  return if specs.isEmpty then [{ form := .number 2 8 }] else specs

/-- How the places of a call are shown. -/
def placesOf (call : Call) : Except Octets (Option (Nat × Nat)) :=
  match (call.value? 'A').map fun v => v.toList.head? with
  | none => .ok (some (8, 7))
  | some (some 'd') => .ok (some (10, 7))
  | some (some 'o') => .ok (some (8, 7))
  | some (some 'x') => .ok (some (16, 6))
  | some (some 'n') => .ok none
  | some c =>
    let told := c.elim "" String.singleton
    .error s!"invalid output address radix '{told}'; it must be one character from [doxn]"

/-- An argument that is an amount of bytes. -/
def amountOf (call : Call) (letter : Char) : Except Octets (Option Nat) :=
  match call.value? letter with
  | none => .ok none
  | some v =>
    match Amount.magnitude? v.toList with
    | some n => .ok (some n)
    | none => .error s!"invalid -{letter} argument {Naming.quoted v}"

/-- Dumps the bytes of files. -/
def od : Tool := .withOptions "od" 1 table fun call scene =>
  let read : Except Octets (Plan × Option Nat) := do
    let places ← placesOf call
    let skip ← amountOf call 'j'
    let count ← amountOf call 'N'
    let specs ← specsOf call
    let width ← amountOf call 'w'
    let largest := specs.foldl (fun n s => max n s.form.size) 1
    let rowSize := width.getD (if call.has 'w' then 32 else 16)
    let rowSize := if rowSize = 0 || rowSize % largest != 0 then largest else rowSize
    return ({ places, specs, rowSize, verbose := call.has 'v', start := skip.getD 0 }, count)
  match read with
  | .error message => .complaint 1 ("od: " ++ message)
  | .ok (plan, count) =>
    let names := if call.operands.isEmpty then ["-"] else call.operands
    let parts := names.map fun name => (name, scene.content name)
    let complaints := parts.filterMap fun (name, r) =>
      match r with
      | .error .isDirectory => some s!"od: {Naming.shown name}: read error: Is a directory"
      | .error f => some s!"od: {Naming.shown name}: {f.text}"
      | .ok _ => none
    let all := parts.flatMap fun (_, r) => (r.toOption.getD "").toList
    if parts.all fun (_, r) => r.toOption.isNone then .complaint 1 (Text.joined "\n" complaints)
    else if all.length < plan.start then .complaint 1 "od: cannot skip past end of combined input"
    else
      let rest := all.drop plan.start
      let text := plan.dump (count.elim rest rest.take)
      { printed := [(2, Octets.lines complaints), (1, text)]
        status := if complaints.isEmpty then 0 else 1
        unread := if names.any Scene.isInput then some [] else none }

end Mender.Dump
