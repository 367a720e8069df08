/-!
# Source locations

A location is a range of whole lines of a file, with what is known of columns and text. A range has
at least one line: it stores its first line and how many lines follow it.
-/

namespace Mender

/-- A file and a line number, which identify a place when faults are merged. -/
structure Place where
  file : String
  line : Int
  deriving DecidableEq, Repr

/-- A place shown as `file:line`. -/
def Place.text (p : Place) : String :=
  s!"{p.file}:{p.line}"

/-- A range of lines in a file. Lines and columns count from one. -/
structure Location where
  file : String
  line : Int
  /-- The number of lines after the first. -/
  more : Nat
  column : Option Int
  endColumn : Option Int
  /-- Source text around the range. -/
  snippet : Option String
  deriving DecidableEq, Repr

namespace Location

/-- A range from its first and last line; a last line that is missing or too small is the first. -/
def ofRange (file : String) (line : Int) (last : Option Int) : Location :=
  { file, line, more := ((last.getD line) - line).toNat
    column := none, endColumn := none, snippet := none }

/-- A single line. -/
def ofLine (file : String) (line : Int) : Location :=
  ofRange file line none

/-- The last line of the range. -/
def endLine (l : Location) : Int :=
  l.line + l.more

/-- What identifies the location. -/
def place (l : Location) : Place :=
  ⟨l.file, l.line⟩

/-- A location shown as `file:line`. -/
def text (l : Location) : String :=
  l.place.text

end Location

end Mender
