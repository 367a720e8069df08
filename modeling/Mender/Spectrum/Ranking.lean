import Mender.Spectrum.Coverage

/-!
# Ranking statements

Every covered line is scored and those that reach a threshold are kept, the most suspicious first;
equal scores are ordered by file and line.
-/

namespace Mender

/-- A covered line with its spectrum and score. -/
structure SuspiciousStatement where
  place : Place
  suspiciousness : Float
  metric : Metric
  counts : Counts

namespace SuspiciousStatement

/-- The order of a ranking: higher scores first, then by file, then by line. -/
def rankedBefore (s t : SuspiciousStatement) : Bool :=
  let a := Binary64.orderKey s.suspiciousness
  let b := Binary64.orderKey t.suspiciousness
  if a ≠ b then b < a
  else if s.place.file ≠ t.place.file then s.place.file < t.place.file
  else s.place.line ≤ t.place.line

end SuspiciousStatement

namespace Coverage

/-- The covered lines of all files. -/
def places (c : Coverage) : List Place :=
  c.files.flatMap fun f => f.2.map fun line => ⟨f.1, line⟩

/-- A covered line with its score. -/
def scoreAt (c : Coverage) (metric : Metric) (s : Place) : Except Failure SuspiciousStatement := do
  let counts ← liftNumber (c.counts s)
  let score : Float ← metric.score counts
  return ⟨s, score, metric, counts⟩

/-- A covered line that is told by something else than an integer, with its score. One that reaches
the threshold has to stand for a number. -/
def scoreMark (c : Coverage) (metric : Metric) (threshold : Float) (file : String) (mark : Json) :
    Except Failure (Option SuspiciousStatement) := do
  let counts ← liftNumber (c.share Float file)
  let score : Float ← metric.score counts
  if score < threshold then return none
  else
    match mark.integer? with
    | some line => return some ⟨⟨file, line⟩, score, metric, counts⟩
    | none =>
      .error ⟨.wrongType, s!"unsupported operand type(s) for -: '{mark.sort}' and 'int'"⟩

/-- The statements that such lines stand for. -/
def scoreMarks (c : Coverage) (metric : Metric) (threshold : Float) :
    Except Failure (List SuspiciousStatement) := do
  let perFile ← c.marks.mapM fun f => f.2.mapM (c.scoreMark metric threshold f.1)
  return perFile.flatten.filterMap id

/-- The covered lines that score at least the threshold, in the order of the ranking. -/
def rank (c : Coverage) (metric : Metric) (threshold : Float) :
    Except Failure (List SuspiciousStatement) := do
  let scored ← c.places.mapM (c.scoreAt metric)
  let kept := scored.filter fun s => !decide (s.suspiciousness < threshold)
  let marked ← c.scoreMarks metric threshold
  return (kept ++ marked).mergeSort SuspiciousStatement.rankedBefore

end Coverage

end Mender
