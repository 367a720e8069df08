import Mender.Failure
import Mender.Number.Integer
import Mender.Pattern.Build

/-!
# Test output

What can be told from the output of a test runner: how many tests ran, which failed, and with which
messages.
-/

namespace Mender.TestOutput

open Pattern

/-- How many tests ran, passed and failed. -/
structure Tests where
  run : Int
  passed : Int
  failed : Int
  deriving DecidableEq, Repr

/-- A group of a match as text. -/
def part (m : Match) (index : Nat) : String :=
  (m.group? index).getD ""

/-- The number in the first group of a match. -/
def numberOf (m : Match) : Except Failure Int :=
  Integer.read (part m 1)

/-- The summary line that counts tests by name. -/
def summaryLine : Pattern :=
  concat [lineStart, text "Tests:", gap, group 1 (few inLine 1), lineEnd]

/-- A number of tests with one of some outcomes. -/
def countOf (outcomes : List Pattern) : Pattern :=
  concat [group 1 digits, text " ", group 2 (firstOf outcomes), wordEdge]

/-- The counts of a summary line. -/
def summaryCount : Pattern :=
  countOf [text "passed", text "failed", text "total"]

/-- The counts of a short report. -/
def reportCount : Pattern :=
  countOf [text "passed", text "failed", seq (text "error") (opt (text "s"))]

/-- A number before a word, in any case. -/
def countBefore (word : Pattern) : Pattern :=
  concat [group 1 digits, blanks, word]

/-- The counts of matches: outcomes and numbers. -/
def countsOf (found : List Match) : Except Failure (List (String × Int)) :=
  found.mapM fun m => do return (part m 2, ← numberOf m)

/-- The last number that is given for an outcome. -/
def lastCount? (counts : List (String × Int)) (outcome : String) : Option Int :=
  (counts.reverse.find? (·.1 = outcome)).map (·.2)

/-- The sum of the numbers that are given for outcomes. -/
def sumOf (counts : List (String × Int)) (outcome : String → Bool) : Int :=
  ((counts.filter (outcome ·.1)).map (·.2)).foldr (· + ·) 0

/-- The first number before a word, zero without one. -/
def firstCount (word : Pattern) (output : List Char) : Except Failure Int :=
  match (countBefore word).search output with
  | some m => numberOf m
  | none => .ok 0

/-- The tests that an output counts: in a summary line, or else in a short report, or else by the
first numbers in front of the words for tests, passing and failing. -/
def tests (output : List Char) : Except Failure Tests := do
  match summaryLine.search output with
  | some m =>
    let counts ← countsOf (summaryCount.findAll (part m 1).toList)
    let passed := (lastCount? counts "passed").getD 0
    let failed := (lastCount? counts "failed").getD 0
    return ⟨(lastCount? counts "total").getD (passed + failed), passed, failed⟩
  | none =>
    match reportCount.findAll output with
    | [] =>
      let run ← firstCount (concat [anyCase "test", opt (anyCase "s"), wordEdge]) output
      let passed ← firstCount (anyCase "pass") output
      let failed ← firstCount (anyCase "fail") output
      return ⟨run, passed, failed⟩
    | found =>
      let counts ← countsOf found
      let passed := sumOf counts (· = "passed")
      let failed := sumOf counts (· ≠ "passed")
      return ⟨passed + failed, passed, failed⟩

/-- A failing test named at the start of a line. -/
def failedName : Pattern :=
  concat [lineStart, firstOf [text "FAILED", text "ERROR"], text " ", group 1 (many solid 1)]

/-- A failing test named after a cross, perhaps with the time it took. -/
def crossedName : Pattern :=
  concat [lineStart, blanks, one (among "✕×"), gap, group 1 (few inLine 1),
    opt (concat [gap, text "(", digits, blanks, text "ms)"]), lineEnd]

/-- The first groups of all matches, trimmed. -/
def firstGroups (p : Pattern) (output : List Char) : List String :=
  (p.findAll output).map fun m => String.ofList (Text.trim (part m 1).toList)

/-- The failing tests that an output names, each once. -/
def failingTests (output : List Char) : List String :=
  (firstGroups failedName output ++ firstGroups crossedName output).eraseDups

/-- The shapes of error messages, in the order they are looked for. -/
def errorShapes : List Pattern :=
  [concat [lineStart, blanks, text "E", gap,
     group 1 (concat [many word 1, firstOf [text "Error", text "Exception"], text ": ",
       many inLine 1]),
     lineEnd],
   concat [wordEdge,
     group 1 (concat [firstOf (["Type", "Syntax", "Reference", "Range", "Assertion", "Attribute",
       "Name", "Value", "Key", "Index"].map text), text "Error: ", many inLine 1])],
   concat [wordEdge, anyCase "error", opt (seq (anyCase " TS") digits), text ": ",
     group 1 (many inLine 1)],
   concat [wordEdge, anyCase "failed: ", group 1 (many inLine 1)]]

/-- The error messages of an output, each once. -/
def allErrors (output : List Char) : List String :=
  (errorShapes.flatMap fun p => firstGroups p output).eraseDups

/-- The most error messages that are taken from an output. -/
def errorLimit : Nat := 10

/-- The first error messages of an output. -/
def errors (output : List Char) : List String :=
  (allErrors output).take errorLimit

/-- A message that tells of code that could not be compiled. -/
def tellsOfCompilation (message : String) : Bool :=
  (firstOf [anyCase "compil", anyCase "syntax"]).occursIn message

end Mender.TestOutput
