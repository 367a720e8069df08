import Mender.Number.Arithmetic
import Mender.Repair.Result

/-!
# Statistics

Running counts and averages over results.
-/

namespace Mender

/-- Counts and averages over results. -/
structure RepairStatistics where
  total : Nat := 0
  repaired : Nat := 0
  failed : Nat := 0
  averageIterations : Float := 0.0
  averageCandidates : Float := 0.0
  averageDuration : Float := 0.0
  /-- How many faults each strategy repaired, in the order of its first success. -/
  strategySuccesses : List (String × Nat) := []
  /-- The share of successes of each strategy that was tried. -/
  successRates : List (String × Float) := []

namespace RepairStatistics

/-- An integer as a number. -/
def number (n : Int) : Float :=
  (Binary64.ofInt? n).getD (Binary64.infinity (n < 0))

/-- An average after one more value, which makes `n` values. -/
def average (n : Nat) (mean value : Float) : Float :=
  (number (n - 1) * mean + value) / number n

/-- Counts one more success of a strategy. -/
def addSuccess (strategy : String) : List (String × Nat) → List (String × Nat)
  | [] => [(strategy, 1)]
  | s :: ss => if s.1 = strategy then (strategy, s.2 + 1) :: ss else s :: addSuccess strategy ss

/-- Takes one more result into account. -/
def add (s : RepairStatistics) (r : RepairResult) : RepairStatistics :=
  let n := s.total + 1
  { s with
    total := n
    repaired := s.repaired + if r.success then 1 else 0
    failed := s.failed + if r.success then 0 else 1
    averageIterations := average n s.averageIterations (number r.iterations)
    averageCandidates := average n s.averageCandidates (number r.generated)
    averageDuration := average n s.averageDuration r.duration
    strategySuccesses :=
      match r.appliedPatch? with
      | some p => addSuccess p.strategy s.strategySuccesses
      | none => s.strategySuccesses }

/-- Takes a result into account whose counts may be integers that no double can hold. -/
def add? (s : RepairStatistics) (r : RepairResult) : Except NumberFault RepairStatistics := do
  let _ : Float ← Arithmetic.ofInt r.iterations
  let _ : Float ← Arithmetic.ofInt r.generated
  return s.add r

/-- The statistics of results. -/
def ofResults (results : List RepairResult) : RepairStatistics :=
  results.foldl add {}

/-- The share of faults that were repaired; zero without any. -/
def successRate (s : RepairStatistics) : Float :=
  if s.total = 0 then 0.0 else (Binary64.ofQuotient? false s.repaired s.total).getD 0.0

end RepairStatistics

end Mender
