import Mender.Shell.Builtin
import Mender.Tool.Showing

/-!
# Columns

Tools that take lines apart into bytes and fields, and that put lines side by side.
-/

namespace Mender

namespace Cutting

/-- Positions from one to another; without a last one, all that follow. -/
structure Span where
  first : Nat
  last : Option Nat
  deriving DecidableEq, Repr

/-- What is selected. -/
inductive Element where
  | bytes
  | fields
  deriving DecidableEq, Repr

/-- Reads one range of a list. -/
def Span.read (u : Element) (cs : List Char) : Except Octets Span := do
  let s := String.ofList cs
  let what := if u = .fields then "field value" else "byte/character position"
  let refuse : Except Octets Span := .error s!"invalid {what} '{s}'"
  let zero : Except Octets Span :=
    .error (if u = .fields then "fields are numbered from 1"
      else "byte/character positions are numbered from 1")
  let low := cs.takeWhile Char.isDigit
  match cs.drop low.length with
  | [] =>
    if low.isEmpty then zero
    else if Octets.value low = 0 then zero
    else return ⟨Octets.value low, some (Octets.value low)⟩
  | '-' :: rest =>
    let first := if low.isEmpty then 1 else Octets.value low
    if !low.isEmpty && first = 0 then zero
    else if rest.isEmpty then
      if low.isEmpty then .error "invalid range with no endpoint: -" else return ⟨first, none⟩
    else if rest.all Char.isDigit then
      if Octets.value rest < first then .error "invalid decreasing range"
      else return ⟨first, some (Octets.value rest)⟩
    else
      let bad := String.ofList (rest.dropWhile Char.isDigit)
      if bad.startsWith "-" then .error (if u = .fields then "invalid field range"
        else "invalid byte or character range")
      else .error s!"invalid {what} '{bad}'"
  | bad =>
    if low.isEmpty then refuse else .error s!"invalid {what} '{String.ofList bad}'"

/-- A range ends before another begins. -/
def Span.endsBefore (a b : Span) : Bool :=
  match a.last with
  | some n => decide (n < b.first)
  | none => false

/-- Joins ranges that overlap; they are sorted by their first positions. -/
def joined : List Span → List Span
  | [] => []
  | a :: rest =>
    match joined rest with
    | [] => [a]
    | b :: more =>
      if a.endsBefore b then a :: b :: more
      else
        let last := match a.last, b.last with
          | some m, some n => some (max m n)
          | _, _ => none
        ⟨a.first, last⟩ :: more

/-- The positions that are in no range. -/
def complement (start : Nat) : List Span → List Span
  | [] => [⟨start, none⟩]
  | a :: rest =>
    let gap := if start < a.first then [(⟨start, some (a.first - 1)⟩ : Span)] else []
    match a.last with
    | some n => gap ++ complement (n + 1) rest
    | none => gap

/-- Reads a list of ranges. -/
def readSpans (u : Element) (complements : Bool) (s : Octets) : Except Octets (List Span) := do
  let items := (Text.splitText [','] (s.toList.map fun c =>
    if c == ' ' || c == '\t' then ',' else c))
  let spans ← items.mapM (Span.read u)
  let sorted := joined (spans.mergeSort fun a b => a.first ≤ b.first)
  return if complements then complement 1 sorted else sorted

/-- The elements at the positions of a range. -/
def Span.of {α : Type} (s : Span) (xs : List α) : List α :=
  let xs := xs.drop (s.first - 1)
  match s.last with
  | some n => xs.take (n + 1 - s.first)
  | none => xs

/-- Takes over bytes of a line. -/
def cutBytes (spans : List Span) (between : Option Octets) (l : List Char) : List Char :=
  match between with
  | none => spans.flatMap fun s => s.of l
  | some b => Text.joinText b.toList ((spans.map fun s => s.of l).filter fun p => !p.isEmpty)

/-- Takes over fields of a line; a line without a delimiter is taken over as it is, or not at
all. -/
def cutFields (spans : List Span) (delimiter : Char) (between : Octets) (onlyDelimited : Bool)
    (l : List Char) : Option (List Char) :=
  if !l.contains delimiter then if onlyDelimited then none else some l
  else
    let fields := Text.splitText [delimiter] l
    some (Text.joinText between.toList (spans.flatMap fun s => s.of fields))

/-- The options of `cut`. -/
def table : OptionTable :=
  { flags := "nsz", valued := "bcdf"
    long := [⟨"bytes", 'b', .always⟩, ⟨"characters", 'c', .always⟩, ⟨"fields", 'f', .always⟩,
      ⟨"delimiter", 'd', .always⟩, ⟨"only-delimited", 's', .never⟩,
      ⟨"output-delimiter", 'O', .always⟩, ⟨"complement", 'C', .never⟩,
      ⟨"zero-terminated", 'z', .never⟩] }

/-- Takes over a part of each line. -/
def cut : Tool := .withOptions "cut" 1 table fun call scene =>
  let misuse (s : Octets) : Ran :=
    .complaint 1 s!"cut: {s}\nTry 'cut --help' for more information."
  let lists := call.options.filter fun o => o.name = "b" || o.name = "c" || o.name = "f"
  match lists with
  | [] => misuse "you must specify a list of bytes, characters, or fields"
  | _ :: _ :: _ => misuse "only one list may be specified"
  | [o] =>
    let unit : Element := if o.name = "f" then .fields else .bytes
    let delimiter := call.value? 'd'
    if unit = .bytes && delimiter.isSome then
      misuse "an input delimiter may be specified only when operating on fields"
    else if unit = .bytes && call.has 's' then
      misuse "suppressing non-delimited lines makes sense\n\tonly when operating on fields"
    else if delimiter.any (1 < ·.length) then misuse "the delimiter must be a single character"
    else
      match readSpans unit (call.has 'C') (o.value.getD "") with
      | .error e => misuse e
      | .ok spans =>
        let d : Char := (delimiter.getD "\t").toList.headD '\x00'
        let stop : Char := if call.has 'z' then '\x00' else '\n'
        let between := call.value? 'O'
        let part (l : List Char) : Option (List Char) :=
          match unit with
          | .bytes => some (cutBytes spans between l)
          | .fields => cutFields spans d (between.getD (String.singleton d)) (call.has 's') l
        scene.overFiles call.operands (.unreadable "cut" 1) fun text =>
          .output (String.ofList ((Octets.pieces stop text.toList).flatMap fun l =>
            match part l with
            | some cs => cs ++ [stop]
            | none => []))

end Cutting

namespace Pasting

/-- Reads a list of delimiters; some of them are nothing. -/
def readDelimiters : List Char → Except Octets (List (List Char))
  | [] => .ok []
  | ['\\'] => .error "delimiter list ends with an unescaped backslash: "
  | '\\' :: c :: cs => do
    let rest ← readDelimiters cs
    let d : List Char := if c = '0' then [] else [(Shell.escapeOf? c).getD c]
    return d :: rest
  | c :: cs => do return [c] :: (← readDelimiters cs)

/-- Lines with delimiters between them, which are used in turn. -/
def withDelimiters (ds : Array (List Char)) (i : Nat) : List (List Char) → List Char
  | [] => []
  | [l] => l
  | l :: ls => l ++ (ds[i % ds.size]?).getD [] ++ withDelimiters ds (i + 1) ls

/-- The lines of a file, or none for the input. -/
abbrev Source := Option (List (List Char))

/-- A line of each source. -/
structure Row where
  lines : List (List Char)
  /-- The sources without these lines. -/
  sources : List Source
  /-- What is left of the input. -/
  input : List (List Char)
  /-- Some source had a line. -/
  found : Bool

/-- Takes a line of each source; those that are the input take its lines in turn. -/
def takeRow (input : List (List Char)) : List Source → Row
  | [] => ⟨[], [], input, false⟩
  | none :: rest =>
    let row := takeRow input.tail rest
    { row with
      lines := input.headD [] :: row.lines, sources := none :: row.sources
      found := row.found || !input.isEmpty }
  | some ls :: rest =>
    let row := takeRow input rest
    { row with
      lines := ls.headD [] :: row.lines, sources := some ls.tail :: row.sources
      found := row.found || !ls.isEmpty }

/-- Lines side by side, in at most some rows. -/
def rows (ds : Array (List Char)) : Nat → List Source → List (List Char) →
    List (List Char) → List (List Char)
  | 0, _, _, done => done.reverse
  | fuel + 1, sources, input, done =>
    let row := takeRow input sources
    if row.found then
      rows ds fuel row.sources row.input (withDelimiters ds 0 row.lines :: done)
    else done.reverse

/-- Puts lines of files side by side. -/
def paste : Tool :=
  let table : OptionTable :=
    { flags := "sz", valued := "d"
      long := [⟨"serial", 's', .never⟩, ⟨"delimiters", 'd', .always⟩] }
  .withOptions "paste" 1 table fun call scene =>
    let given := (call.value? 'd').getD "\t"
    match readDelimiters given.toList with
    | .error e => .complaint 1 s!"paste: {e}{given}"
    | .ok ds =>
      let ds := if ds.isEmpty then #[[]] else ds.toArray
      let linesOf (text : Octets) : List (List Char) := Octets.pieces '\n' text.toList
      if call.has 's' then
        scene.overFiles call.operands (.unreadable "paste" 1) fun text =>
          .output (String.ofList (withDelimiters ds 0 (linesOf text) ++ ['\n']))
      else
        let names := if call.operands.isEmpty then ["-"] else call.operands
        let sources : Except (Octets × PathFault) (List Source) := names.mapM fun name =>
          if Scene.isInput name then .ok none
          else match scene.content name with
            | .ok text => .ok (some (linesOf text))
            | .error fault => .error (name, fault)
        match sources with
        | .error (name, fault) => .unreadable "paste" 1 name fault
        | .ok sources =>
          let input := Octets.pieces '\n' scene.input
          let most := sources.foldl (fun n s => max n (s.elim 0 List.length)) input.length
          let r := Ran.output (Octets.lines ((rows ds (most + 1) sources input []).map
            String.ofList))
          if sources.contains none then r.takingAll else r

end Pasting

end Mender
