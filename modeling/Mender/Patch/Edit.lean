import Mender.Failure
import Mender.Patch.Basic
import Mender.Text.Lines

/-!
# Line edits

Applying changes to the text of a file. The changes are made from the bottom up, so the line numbers
of those still to come stay valid; the file keeps its line ending and its last line break.
-/

namespace Mender

/-- Why changes cannot be made. -/
inductive EditFault where
  /-- A range that is empty or leaves a file of `size` lines. -/
  | outside (file : String) (first last : Int) (size : Nat)
  /-- A range that meets one already changed. -/
  | overlap (file : String) (line : Int)
  deriving DecidableEq, Repr

/-- The failure of a patch that cannot be applied to a file. -/
def patchFailure (file reason : String) : Failure :=
  ⟨.patch, s!"Failed to apply patch to {file}: {reason}"⟩

/-- The failure that an impossible edit leads to. -/
def EditFault.failure : EditFault → Failure
  | .outside file first last size => patchFailure file s!"lines {first}-{last} outside 1-{size}"
  | .overlap file line => patchFailure file s!"overlapping change at line {line}"

namespace Edit

/-- The text of a file as lines. -/
structure Document where
  ending : Text.LineEnding
  lines : List (List Char)
  /-- The text ends with a line break. -/
  closed : Bool
  deriving DecidableEq, Repr

/-- Reads the text of a file. A line break at the end closes the last line and opens no other. -/
def Document.ofText (cs : List Char) : Document :=
  let ending := Text.LineEnding.ofText cs
  let pieces := Text.splitText ending.mark cs
  let closed := 1 < pieces.length && pieces.getLast? == some []
  ⟨ending, if closed then pieces.dropLast else pieces, closed⟩

/-- Writes the text of a file. -/
def Document.toText (d : Document) : List Char :=
  Text.joinText d.ending.mark d.lines ++ if d.closed then d.ending.mark else []

/-- The lines of a new text; an empty text has none. -/
def newLines (new : String) : List (List Char) :=
  if new.isEmpty then [] else Text.splitText ['\n'] (Text.unixEndings new.toList)

/-- Replaces the lines from `first` to `last`, counted from one. -/
def replaceLines (lines : List (List Char)) (first last : Int) (new : List (List Char)) :
    List (List Char) :=
  lines.take (first - 1).toNat ++ new ++ lines.drop last.toNat

/-- Makes changes in the order given. Each must lie inside the lines there are, and above `floor`,
the first line of the change made before it. -/
def applyDown : List Change → Option Int → List (List Char) → Except EditFault (List (List Char))
  | [], _, lines => .ok lines
  | c :: cs, floor, lines =>
    if c.first < 1 ∨ lines.length < c.last ∨ c.last < c.first then
      .error (.outside c.file c.first c.last lines.length)
    else if floor.any (· ≤ c.last) then
      .error (.overlap c.file c.first)
    else
      applyDown cs (some c.first) (replaceLines lines c.first c.last (newLines c.new))

/-- The changes from the bottom of the file to its top. -/
def bottomUp (changes : List Change) : List Change :=
  changes.mergeSort fun a b => b.first ≤ a.first

/-- The text of a file after changes. -/
def apply (content : String) (changes : List Change) : Except EditFault String := do
  let d := Document.ofText content.toList
  let lines ← applyDown (bottomUp changes) none d.lines
  return String.ofList { d with lines }.toText

end Edit

end Mender
