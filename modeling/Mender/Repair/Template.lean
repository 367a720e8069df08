import Mender.Failure
import Mender.Patch.Basic
import Mender.Spectrum.Metric
import Mender.Strategy.Registry
import Mender.Text.Lines

/-!
# Template candidates

Candidates that strategies make from the faulty line. Each strategy that fits the fault contributes
its first fix that makes of the line something not tried before.
-/

namespace Mender.Template

/-- The line of a text by its number, counted from one. -/
def lineAt? (content : String) (number : Int) : Option String :=
  if number < 1 then none
  else ((Text.lines content.toList)[(number - 1).toNat]?).map String.ofList

/-- How a severity bears on the trust in a template. -/
def severityAdjustment : Fault.Severity → Float
  | .critical => -0.1
  | .low => 0.1
  | _ => 0.0

/-- The trust in a template: half, more with the success and the priority of its strategy. A
priority that no double can hold has none. -/
def confidence (registry : Registry) (s : Strategy) (f : Fault) : Except NumberFault Float := do
  let priority : Float ← Arithmetic.ofInt s.priority
  return clampScore (0.5 + 0.3 * registry.successRate s.id + 0.2 * priority / 10.0 +
    severityAdjustment f.severity)

/-- What a fix of a strategy makes of the line, unless it was tried before. -/
def newText? (s : Strategy) (found : Option Match) (ctx : FixContext)
    (tried : List (String × String)) (fix : FixGenerator) : Option String :=
  (fix found ctx).bind fun text =>
    (LineFix.apply ctx.line text ctx.language).filter fun new => !tried.contains (s.id, new)

/-- What a strategy makes of the line: the first of its fixes that gives something new. -/
def newLine? (ctx : FixContext) (tried : List (String × String)) (s : Strategy) : Option String :=
  s.fixes.findSome? (newText? s (s.matchFor? ctx.fault.message ctx.codeContext) ctx tried)

/-- The candidate that puts a new line in place of the faulty one. -/
def patch (registry : Registry) (ctx : FixContext) (s : Strategy) (new : String) :
    Except NumberFault Patch := do
  let l := ctx.fault.location
  return {
    changes := [⟨l.file, l.line, l.line, ctx.line, new⟩]
    strategy := s.id, source := .template
    confidence := ← confidence registry s ctx.fault
    explanation := s.description }

/-- The candidates of strategies in order, as long as the budget lasts. -/
def ofStrategies (registry : Registry) (ctx : FixContext) :
    List (String × String) → Nat → List Strategy → Except NumberFault (List Patch)
  | _, _, [] => .ok []
  | _, 0, _ => .ok []
  | tried, budget + 1, s :: ss =>
    match newLine? ctx tried s with
    | some new => do
      let p ← patch registry ctx s new
      return p :: (← ofStrategies registry ctx (p.key :: tried) budget ss)
    | none => ofStrategies registry ctx tried (budget + 1) ss

/-- The template candidates for a fault whose line is known. -/
def candidates (registry : Registry) (f : Fault) (codeContext line : String) (budget : Int)
    (learned : Option String) (tried : List (String × String)) : Except Failure (List Patch) :=
  let ctx : FixContext := ⟨f, codeContext, languageOf f.location.file, line⟩
  liftNumber (ofStrategies registry ctx tried budget.toNat
    (registry.prioritize f codeContext learned))

end Mender.Template
