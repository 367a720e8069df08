import Mender.Json.Basic
import Mender.Spectrum.Metric

/-!
# Scores by a metric given as data

A metric may arrive as a value read from a file. A string names it; a value of any other sort is no
metric, which is only noticed after the counts have been checked.
-/

namespace Mender

/-- A plain value as messages show it. -/
def Json.shown : Json → String
  | .null => "None"
  | .bool true => "True"
  | .bool false => "False"
  | .int n => toString n
  | .number x => Decimal.text x
  | .string s => s
  | .array _ => "[]"
  | .object _ => "{}"

/-- The failure of a value that names no metric. -/
def Metric.unknownChoice (choice : Json) : Failure :=
  match choice with
  | .array _ | .object _ => ⟨.wrongType, s!"unhashable type: '{choice.sort}'"⟩
  | _ => ⟨.value, "Unknown metric: " ++ choice.shown⟩

/-- The score of a spectrum by a metric given as data. -/
def Metric.scoreBy (choice : Json) (c : Counts) : Except Failure Float :=
  match choice with
  | .string name => do (← Metric.ofName name).score c
  | _ => .error (if hasNegative c then negativeCounts c else unknownChoice choice)

end Mender
