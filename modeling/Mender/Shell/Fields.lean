import Mender.Shell.Process
import Mender.Shell.Wildcard

/-!
# Fields

What a word expands to is a row of stretches. Some stretches may be split into fields at the
separators that are set; fields with wildcards become the names of files.
-/

namespace Mender.Shell

/-- A character of an expansion, or an edge of quotes, which keeps an empty field. -/
inductive Cell where
  | char (c : Char) (quoted : Bool)
  | edge
  deriving DecidableEq, Repr

/-- Where a stretch may be split. -/
inductive Splitting where
  | never
  | separators
  /-- Only between arguments. -/
  | arguments
  deriving DecidableEq, Repr

/-- A stretch of an expansion. -/
structure Stretch where
  cells : List Cell
  splitting : Splitting
  deriving Repr

/-- What a word expands to. -/
abbrev Expansion := List Stretch

namespace Cell

/-- The text of cells. -/
def text (cells : List Cell) : Octets :=
  String.ofList (cells.filterMap fun
    | .char c _ => some c
    | .edge => none)

/-- The cells of a text. -/
def ofText (quoted : Bool) (s : Octets) : List Cell :=
  s.toList.map (.char · quoted)

/-- The pattern of cells after a backslash that is not quoted, or not. -/
def patternAfter : Bool → List Cell → List Char
  | _, [] => []
  | _, .edge :: rest => patternAfter false rest
  | escaped, .char c quoted :: rest =>
    if quoted then
      if escaped then c :: patternAfter false rest else '\\' :: c :: patternAfter false rest
    else c :: patternAfter (c == '\\') rest

/-- The pattern that cells write: what is quoted stands for itself. A backslash right before the
first quoted character does not escape it. -/
def pattern (cells : List Cell) : List Char :=
  let isPlain : Cell → Bool
    | .char _ quoted => !quoted
    | .edge => false
  (cells.takeWhile isPlain).filterMap
    (fun
      | .char c _ => some c
      | .edge => none) ++ patternAfter false (cells.dropWhile isPlain)

end Cell

namespace Expansion

/-- All cells. -/
def cells (e : Expansion) : List Cell :=
  e.flatMap (·.cells)

/-- The text of an expansion. -/
def text (e : Expansion) : Octets :=
  Cell.text e.cells

end Expansion

/-- The state of splitting. The cells of the current field are in reverse. -/
structure Splitter where
  field : List Cell := []
  fields : List (List Cell) := []
  /-- A field has ended at a blank, and more blanks belong to its end. -/
  afterBlank : Bool := false
  /-- The current stretch is split between arguments only; so was the one before it. -/
  nulls : Bool := false
  afterNulls : Bool := false
  /-- How many fields may still be split off. -/
  left : Option Nat := none
  /-- How many cells of the last field are kept. -/
  keep : Option Nat := none

namespace Splitter

/-- Adds a cell to the current field. -/
def add (s : Splitter) (c : Cell) : Splitter :=
  { s with field := c :: s.field }

/-- Ends the current field. -/
def endField (s : Splitter) : Splitter :=
  { s with field := [], fields := s.field.reverse :: s.fields }

/-- Splits at a separator, which is blank or not, that does not follow a blank. -/
def separate (s : Splitter) (c : Cell) (blank : Bool) : Splitter :=
  let s := if s.afterNulls || s.nulls then s else { s with afterBlank := blank }
  if s.field.isEmpty && s.afterBlank then { s with afterBlank := false }
  else
    match s.left with
    | some 1 => { s.add c with left := some 0, keep := some s.field.length }
    | left => { s.endField with left := left.map (· - 1) }

/-- A cell of a stretch that may be split. -/
def take (separators : List Char) (s : Splitter) (c : Cell) : Splitter :=
  let isNull (x : Char) : Bool := x == '\x00'
  let isSeparator : Bool := match c with
    | .char x _ => isNull x || (!s.nulls && separators.contains x)
    | .edge => false
  let isBlank : Bool := isSeparator && match c with
    | .char x _ => isNull x || x == ' ' || x == '\t' || x == '\n'
    | .edge => false
  if s.left = some 0 then
    if isBlank then { s.add c with keep := s.keep.orElse fun _ => some s.field.length }
    else
      let keep := if isSeparator && s.afterBlank then s.keep else none
      { s.add c with keep, afterBlank := false }
  else if s.afterBlank then
    let s := { s with field := [] }
    if isBlank then s
    else if isSeparator then { s with afterBlank := false }
    else { s.add c with afterBlank := false }
  else if isSeparator then s.separate c isBlank
  else s.add c

/-- A stretch of an expansion. -/
def stretch (separators : List Char) (s : Splitter) (t : Stretch) : Splitter :=
  if t.splitting = .never then t.cells.foldl add s
  else
    let nulls : Bool := t.splitting == .arguments
    t.cells.foldl (take separators) { s with afterNulls := s.nulls, nulls, afterBlank := false }

/-- All fields. -/
def finish (s : Splitter) : List (List Cell) :=
  if s.nulls then s.endField.fields.reverse
  else
    let field := match s.keep with
      | some n => s.field.drop (s.field.length - n)
      | none => s.field
    if field.isEmpty then s.fields.reverse else ({ s with field }.endField).fields.reverse

end Splitter

namespace Expansion

/-- The fields of an expansion, at most as many as told. -/
def fields (separators : List Char) (most : Option Nat) (e : Expansion) : List (List Cell) :=
  (e.foldl (Splitter.stretch separators) { left := most }).finish

end Expansion

/-! ## Names of files -/

/-- The pieces of a pattern between slashes. -/
def patternParts : List Char → List Char → List (List Char)
  | part, [] => [part.reverse]
  | part, '/' :: cs => part.reverse :: patternParts [] cs
  | part, '\\' :: '/' :: cs => part.reverse :: patternParts [] cs
  | part, '\\' :: c :: cs => patternParts (c :: '\\' :: part) cs
  | part, c :: cs => patternParts (c :: part) cs

/-- A set in brackets closes. -/
def closesSet : List Char → Bool
  | '\\' :: _ :: cs => cs.head? = some ']' || closesSet cs
  | _ :: ']' :: _ => true
  | _ :: cs => closesSet cs
  | [] => false

/-- A piece of a pattern matches other text than itself. -/
def isWild : List Char → Bool
  | [] => false
  | '*' :: _ => true
  | '?' :: _ => true
  | '\\' :: _ :: cs => isWild cs
  | '[' :: cs => closesSet (if cs.head? = some '!' then cs.tail else cs) || isWild cs
  | _ :: cs => isWild cs

/-- A piece of a pattern without its backslashes. -/
def withoutEscapes : List Char → List Char
  | '\\' :: c :: cs => c :: withoutEscapes cs
  | c :: cs => c :: withoutEscapes cs
  | [] => []

/-- The names in a directory that a piece of a pattern matches. -/
def matchingNames (m : Machine) (here : TreePlace) (directory : Octets) (piece : List Char) :
    List Octets :=
  let place := if directory.isEmpty then .ok here else m.locate here directory
  match place with
  | .error _ => []
  | .ok place =>
    if m.node? place ≠ some .directory then []
    else
      let first := if piece.head? = some '\\' then piece.tail else piece
      let hidden : Bool := first.head? = some '.'
      let names := (if hidden then [".", ".."] else []) ++ m.names place
      names.filter fun n =>
        (hidden || n.front != '.') && Wildcard.matchesAll piece n.toList

/-- The files below a directory that the pieces of a pattern match. -/
def matchingFiles (m : Machine) (here : TreePlace) : Octets → List (List Char) → List Octets
  | directory, [] => [directory]
  | directory, piece :: rest =>
    let name := String.ofList (withoutEscapes piece)
    if isWild piece then
      (matchingNames m here directory piece).flatMap fun n =>
        if rest.isEmpty then [directory ++ n]
        else matchingFiles m here (directory ++ n ++ "/") rest
    else if rest.isEmpty then [directory ++ name]
    else matchingFiles m here (directory ++ name ++ "/") rest

/-- The files that a field names: those that match it, or the text of the field itself. -/
def namesOf (p : Process) (field : List Cell) : List Octets :=
  let text := Cell.text field
  if p.has 'f' || !Wildcard.isOpen text then [text]
  else
    let pieces := patternParts [] (Cell.pattern field)
    if !pieces.any isWild then [text]
    else
      let found := (matchingFiles p.toMachine p.here "" pieces).filter fun n =>
        (p.toMachine.findItself p.here n).toOption.isSome
      if found.isEmpty then [text] else found.mergeSort (· ≤ ·)

end Mender.Shell
