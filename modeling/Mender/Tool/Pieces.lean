import Mender.Tool.Showing
import Mender.Tool.FileChanges

/-!
# Pieces of files

Writes a file piece by piece to others, and copies blocks of files.
-/

namespace Mender.Pieces

open Working Naming

/-! ## Splitting -/

/-- The suffix of a piece: its number in so many letters of an alphabet. -/
def suffix (alphabet : List Char) : Nat → Nat → List Char → List Char
  | 0, _, cs => cs
  | width + 1, n, cs =>
    suffix alphabet width (n / alphabet.length)
      ((alphabet[n % alphabet.length]?).getD 'a' :: cs)

/-- The pieces of a text that have so many lines or bytes. -/
def piecesOf (m : Ends.Measure) (size : Nat) : Nat → List Char → List (List Char)
  | 0, _ => []
  | _, [] => []
  | fuel + 1, cs =>
    let (piece, rest) := Ends.split m size cs
    piece :: piecesOf m size fuel rest

/-- So many pieces of about the same number of bytes; the last takes what is left over. -/
def partsOf (count : Nat) (cs : List Char) : List (List Char) :=
  let size := cs.length / count
  (List.range count).map fun i =>
    if i + 1 = count then cs.drop (i * size) else (cs.drop (i * size)).take size

/-- The options of the tool that splits files. -/
def splitTable : OptionTable :=
  { flags := "dx", valued := "lbnat"
    long := [⟨"lines", 'l', .always⟩, ⟨"bytes", 'b', .always⟩, ⟨"number", 'n', .always⟩,
      ⟨"suffix-length", 'a', .always⟩, ⟨"numeric-suffixes", 'd', .maybe⟩,
      ⟨"additional-suffix", 's', .always⟩, ⟨"verbose", 'v', .never⟩] }

/-- What a call says of the size of pieces, or why it cannot be. -/
def sizeOf (call : Call) (text : List Char) : Except Octets (List (List Char)) :=
  let fuel := text.length + 1
  let positive (what value : Octets) (use : Nat → List (List Char)) :
      Except Octets (List (List Char)) :=
    match (Amount.read? value).filter fun a => 0 < a.count && !a.negative with
    | some a => .ok (use a.count)
    | none => .error s!"invalid number of {what}: {quoted value}"
  match call.value? 'b', call.value? 'n', call.value? 'l' with
  | some v, _, _ => positive "bytes" v fun n => piecesOf .bytes n fuel text
  | _, some v, _ => positive "chunks" v fun n => partsOf n text
  | _, _, some v => positive "lines" v fun n => piecesOf .lines n fuel text
  | _, _, _ => .ok (piecesOf .lines 1000 fuel text)

/-- Writes the lines or bytes of a file piece by piece to others. -/
def split : Tool := .withOptions "split" 1 splitTable fun call scene =>
  match call.operands with
  | _ :: _ :: a :: _ => FileChanges.refused "split" s!"extra operand {quoted a}"
  | operands =>
    let name := operands.headD "-"
    let start := (operands.drop 1).headD "x"
    match scene.content name with
    | .error .isDirectory => .complaint 1 s!"split: {shown name}: Is a directory"
    | .error fault => .unopened "split" name fault
    | .ok text =>
      match sizeOf call text.toList with
      | .error message => .complaint 1 s!"split: {message}"
      | .ok pieces =>
        let alphabet := if call.has 'd' then "0123456789".toList
          else if call.has 'x' then "0123456789abcdef".toList
          else "abcdefghijklmnopqrstuvwxyz".toList
        let width := ((call.value? 'a').bind Amount.digits?).getD 2
        let room := Nat.pow alphabet.length width
        let r := Working.run (do
          for (i, piece) in (List.range pieces.length).zip (pieces.take room) do
            let file := start ++ String.ofList (suffix alphabet width i []) ++
              (call.value? 's').getD ""
            if call.has 'v' then say s!"creating file {quoted file}"
            match ← FileChanges.writeTo false (String.ofList piece) file with
            | some fault => complain s!"split: {shown file}: {fault.text}"
            | none => pure ()
          if room < pieces.length then complain "split: output file suffixes exhausted") scene
        if Scene.isInput name then r.takingAll else r

/-! ## Blocks -/

/-- The value of an operand that names what it says. -/
def told? (name : Octets) (operands : List Octets) : Option Octets :=
  (operands.reverse.find? (·.startsWith (name ++ "="))).map fun a =>
    String.ofList (a.toList.drop (name.length + 1))

/-- The names of operands. -/
def toldNames : List Octets :=
  ["if", "of", "bs", "ibs", "obs", "cbs", "count", "skip", "seek", "status", "conv", "iflag",
    "oflag"]

/-- Changes of a text by name. -/
def converted (names : List Octets) (cs : List Char) : List Char :=
  if names.contains "ucase" then cs.map Char.toUpper
  else if names.contains "lcase" then cs.map Char.toLower
  else cs

/-- How many whole blocks and how many others a text has. -/
def blockCount (size length : Nat) : Octets :=
  let rest := if length % size = 0 then 0 else 1
  s!"{length / size}+{rest}"

/-- Copies blocks. -/
def dd : Tool := fun operands scene =>
  let unknown := operands.filter fun a =>
    !(toldNames.any fun n => a.startsWith (n ++ "=")) && a != "--"
  let number (name : Octets) (usual : Nat) : Except Octets Nat :=
    match told? name operands with
    | none => .ok usual
    | some v =>
      match (Amount.read? v).filter (!·.negative) with
      | some a => .ok a.count
      | none => .error s!"invalid number: {quoted v}"
  let numbers : Except Octets (Nat × Nat × Option Nat × Nat × Nat) := do
    let both ← number "bs" 512
    let given := (told? "bs" operands).isSome
    let from_ ← if given then .ok both else number "ibs" both
    let to_ ← if given then .ok both else number "obs" both
    let count ← number "count" 0
    if from_ = 0 || to_ = 0 then .error ("invalid number: " ++ quoted "0")
    return (from_, to_, (told? "count" operands).map fun _ => count, ← number "skip" 0,
      ← number "seek" 0)
  match unknown, numbers with
  | a :: _, _ => FileChanges.refused "dd" s!"unrecognized operand {quoted a}"
  | [], .error message => .complaint 1 s!"dd: {message}"
  | [], .ok (from_, to_, count, skip, seek) =>
    let source := told? "if" operands
    match scene.content (source.getD "-") with
    | .error .isDirectory =>
      .complaint 1 ("dd: error reading " ++ quoted (source.getD "") ++ ": Is a directory")
    | .error fault =>
      .complaint 1 ("dd: failed to open " ++ quoted (source.getD "") ++ ": " ++ fault.text)
    | .ok text =>
      let behind := text.toList.drop (skip * from_)
      let taken := match count with
        | some n => behind.take (n * from_)
        | none => behind
      let changes := ((told? "conv" operands).map (·.splitOn ",")).getD []
      let written := converted changes taken
      let status := (told? "status" operands).getD ""
      let n := taken.length
      let report : Octets :=
        if status = "none" then ""
        else
          s!"{blockCount from_ n} records in\n{blockCount to_ n} records out\n" ++
            if status = "noxfer" then ""
            else s!"{n} bytes copied, 0.0001 s, 1.0 MB/s\n"
      let r : Ran := match told? "of" operands with
        | none => .output (String.ofList written)
        | some target =>
          let old := if changes.contains "notrunc" || 0 < seek then
              match scene.content target with
              | .ok old => old.toList
              | .error _ => []
            else []
          let front := old.take (seek * to_)
          let gap := List.replicate (seek * to_ - front.length) '\x00'
          let rest := if changes.contains "notrunc" then
              old.drop (seek * to_ + written.length)
            else []
          Working.run (do
            match ← FileChanges.writeTo false (String.ofList (front ++ gap ++ written ++ rest))
              target with
            | some fault => complain s!"dd: failed to open {quoted target}: {fault.text}"
            | none => pure ()) scene
      let r := if r.status = 0 then r.then_ { printed := [(2, report)] } else r
      if source.isNone then
        { r with unread := some (behind.drop n) }
      else r

end Mender.Pieces
