import Mender.Diagnostic.Table
import Mender.Number.Integer
import Mender.Text.Lines

/-!
# Faults in tool output

The output of a tool is read line by line; a line with a place in the project's own code becomes a
fault. Stack frames are collected from the whole text as places related to the faults.
-/

namespace Mender.Diagnostic

/-- Parts of paths that never hold the project's own code. -/
def vendoredMarks : List String :=
  ["node_modules", "site-packages", "dist-packages", "<frozen", "<string>"]

/-- A path of third-party code or of an interpreter's own. -/
def isVendored (path : String) : Bool :=
  Text.startsWith "internal/" path || vendoredMarks.any (Text.occursIn · path)

/-- The number in a group of a match. -/
def numberIn? (m : Match) (index : Nat) : Except Failure (Option Int) :=
  (m.group? index).mapM Integer.read

/-- The place that a match tells, unless the code there is vendored. -/
def placeOf? (m : Match) : Except Failure (Option Location) := do
  let file := (m.group? fileGroup).getD ""
  if isVendored file then return none
  else
    let line ← numberIn? m lineGroup
    let column ← numberIn? m columnGroup
    return some { Location.ofLine file (line.getD 0) with column }

/-- The first exception summary among lines, trimmed. -/
def summaryOf? (lines : List (List Char)) : Option String :=
  lines.findSome? fun l =>
    let trimmed := Text.trim l
    if (exceptionSummary.matchStart trimmed).isSome then some (String.ofList trimmed) else none

/-- The message of a fault: its line, and for a traceback frame the summary that ends the
traceback in front of it. -/
def messageOf (d : Diagnostic) (line : List Char) (later : List (List Char)) : String :=
  let trimmed := String.ofList (Text.trim line)
  if d.name = "python" then
    match summaryOf? later with
    | some summary => s!"{summary} [{trimmed}]"
    | none => trimmed
  else trimmed

/-- The fault that a line reports, given the whole text and the lines after it. -/
def faultOf? (text : String) (line : List Char) (later : List (List Char)) :
    Except Failure (Option Fault) := do
  match classify line with
  | none => return none
  | some (d, m) =>
    if d.located then
      return (← placeOf? m).map fun location =>
        { kind := d.kind, severity := d.severity, message := messageOf d line later, location
          related := [], suspiciousness := 1.0
          stackTrace := if d.kind = .runtimeError then some text else none
          origin := .pattern d.name, spectrumScore := none }
    else return none

/-- The faults that lines report, in order. -/
def faultsOfLines (text : String) : List (List Char) → Except Failure (List Fault)
  | [] => .ok []
  | line :: later => do
    let fault ← faultOf? text line later
    return fault.toList ++ (← faultsOfLines text later)

/-- The faults that the output of a tool reports. -/
def faultsOf (text : String) : Except Failure (List Fault) :=
  faultsOfLines text (Text.lines text.toList)

/-- The frames of one shape, with where they start in the text. -/
def framesOfShape (shape : Pattern) (text : String) : Except Failure (List (Nat × Location)) := do
  let found ← (shape.findAll text.toList).mapM fun m => do
    return (← placeOf? m).map fun l => (m.start, l)
  return found.filterMap id

/-- The stack frames of a text, in order of appearance. -/
def framesOf (text : String) : Except Failure (List Location) := do
  let calls ← framesOfShape callFrame text
  let quoted ← framesOfShape quotedFrame text
  return ((calls ++ quoted).mergeSort fun a b => a.1 ≤ b.1).map (·.2)

end Mender.Diagnostic
