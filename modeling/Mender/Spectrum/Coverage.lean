import Mender.Json.Basic
import Mender.Fault
import Mender.Spectrum.Metric

/-!
# Test coverage

Which statements the tests execute. A `CoverageMatrix` knows it test by test and gives exact counts.
A `Coverage` may know only which lines ran at all and how many tests passed and failed; its counts
are then estimated from the share of the file's lines.
-/

namespace Mender

/-- A test with its outcome and the statements it executed. -/
structure CoveredTest where
  name : String
  passed : Bool
  statements : List Place
  deriving DecidableEq, Repr

/-- The coverage of a run test by test, in the order the tests were first seen. What a test executed
and how it ended are two tables in the program, filled together by the adding of a test and by
nothing else; so they have the same names in the same order, and one list of tests stands for both.
-/
structure CoverageMatrix where
  tests : List CoveredTest
  deriving DecidableEq, Repr

namespace CoverageMatrix

/-- No tests. -/
def empty : CoverageMatrix := ⟨[]⟩

/-- Puts a test in the place of one of the same name, or at the end. -/
def insertTest (t : CoveredTest) : List CoveredTest → List CoveredTest
  | [] => [t]
  | u :: us => if u.name = t.name then t :: us else u :: insertTest t us

/-- Adds a test; one of a known name replaces what was known of it. -/
def add (m : CoverageMatrix) (t : CoveredTest) : CoverageMatrix :=
  ⟨insertTest t m.tests⟩

/-- The test of a name. -/
def find? (m : CoverageMatrix) (name : String) : Option CoveredTest :=
  m.tests.find? (·.name = name)

/-- The number of failing tests. -/
def failing (m : CoverageMatrix) : Nat :=
  m.tests.countP (!·.passed)

/-- The number of passing tests. -/
def passing (m : CoverageMatrix) : Nat :=
  m.tests.countP (·.passed)

/-- The spectrum of a statement. -/
def counts (m : CoverageMatrix) (s : Place) : Counts :=
  let ef : Nat := m.tests.countP fun t => !t.passed && t.statements.contains s
  let ep : Nat := m.tests.countP fun t => t.passed && t.statements.contains s
  ⟨ef, ep, m.failing - ef, m.passing - ep⟩

/-- All statements that some test executes, each once, in the order they are first met. -/
def statements (m : CoverageMatrix) : List Place :=
  (m.tests.flatMap (·.statements)).eraseDups

end CoverageMatrix

/-- Numbers in increasing order, each once. -/
def sortedOnce (ns : List Int) : List Int :=
  (ns.mergeSort (· ≤ ·)).eraseDups

/-- What is known of the coverage of a run. -/
structure Coverage where
  /-- The covered lines of each file. -/
  files : List (String × List Int)
  failing : Int
  passing : Int
  total : Int
  matrix : Option CoverageMatrix
  /-- Covered lines of each file that a report tells by something else than an integer. -/
  marks : List (String × List Json) := []

namespace Coverage

/-- Coverage by lines alone; the total is that of failing and passing tests unless it is given. -/
def ofLines (files : List (String × List Int)) (failing passing : Int) (total : Option Int) :
    Coverage :=
  ⟨files.map fun f => (f.1, sortedOnce f.2), failing, passing, total.getD (failing + passing),
   none, []⟩

/-- Adds a line to the lines of a file. -/
def addLine (s : Place) : List (String × List Int) → List (String × List Int)
  | [] => [(s.file, [s.line])]
  | f :: fs => if f.1 = s.file then (f.1, f.2 ++ [s.line]) :: fs else f :: addLine s fs

/-- Coverage test by test. -/
def ofMatrix (m : CoverageMatrix) : Coverage :=
  let files := m.statements.foldl (fun fs s => addLine s fs) []
  ⟨files.map fun f => (f.1, sortedOnce f.2), m.failing, m.passing, m.failing + m.passing, some m,
   []⟩

/-- The covered lines of a file, none for a file that is not known. -/
def linesOf (c : Coverage) (file : String) : List Int :=
  ((c.files.find? (·.1 = file)).map (·.2)).getD []

/-- The number of covered lines of a file, however they are told. -/
def sizeOf (c : Coverage) (file : String) : Nat :=
  (c.linesOf file).length + (((c.marks.find? (·.1 = file)).map (·.2.length)).getD 0)

section Estimate

variable {α : Type} [Arithmetic α]

open Arithmetic

/-- The integer nearest to a number, a half going up. -/
def roundHalfUp (x : α) : Except NumberFault Int := do
  floor (add x (← ratio 1 2))

/-- Tests in proportion to a share of the code, at most all of them. -/
def scaled (tests : Int) (share : α) : Except NumberFault Int := do
  return min tests (← roundHalfUp (mul (← ofInt tests) share))

/-- The spectrum of every covered line of a file: the share of tests that the file's covered lines
make of their total number. -/
def share (α : Type) [Arithmetic α] (c : Coverage) (file : String) :
    Except NumberFault Counts := do
  let part : α ← ratio (c.sizeOf file) (if c.total = 0 then 1 else c.total)
  let ef ← scaled c.failing part
  let ep ← scaled c.passing part
  return ⟨ef, ep, c.failing - ef, c.passing - ep⟩

/-- The spectrum of a line estimated from the totals: a covered line is executed by the share of
tests of its file, another line by none. -/
def estimate (α : Type) [Arithmetic α] (c : Coverage) (s : Place) : Except NumberFault Counts :=
  if (c.linesOf s.file).contains s.line then c.share α s.file
  else .ok ⟨0, 0, c.failing, c.passing⟩

end Estimate

/-- The spectrum of a statement, exact when tests are known one by one. -/
def counts (c : Coverage) (s : Place) : Except NumberFault Counts :=
  match c.matrix with
  | some m => .ok (m.counts s)
  | none => c.estimate Float s

end Coverage

end Mender
