import Mender.Failure
import Mender.Text.Lower
import Mender.Text.Printable

/-!
# Suspiciousness metrics

How strongly the execution of a statement goes with failing tests. Each metric is a function of the
four counts of the statement's spectrum, written over any `Arithmetic`.
-/

namespace Mender

/-- The spectrum of a statement: how many tests execute it or not, failing or passing. -/
structure Counts where
  /-- Failing tests that execute the statement. -/
  ef : Int
  /-- Passing tests that execute the statement. -/
  ep : Int
  /-- Failing tests that do not execute the statement. -/
  nf : Int
  /-- Passing tests that do not execute the statement. -/
  np : Int
  deriving DecidableEq, Repr

/-- The suspiciousness metrics. -/
inductive Metric where
  | ochiai
  | tarantula
  | jaccard
  | dstar
  | barinel
  | op2
  deriving DecidableEq, Repr

namespace Metric

/-- The name of a metric in configurations and reports. -/
def name : Metric → String
  | .ochiai => "ochiai"
  | .tarantula => "tarantula"
  | .jaccard => "jaccard"
  | .dstar => "dstar"
  | .barinel => "barinel"
  | .op2 => "op2"

/-- All metrics. -/
def all : List Metric :=
  [.ochiai, .tarantula, .jaccard, .dstar, .barinel, .op2]

/-- The metric of a name, in any case of letters. -/
def ofName (s : String) : Except Failure Metric :=
  let lowered := Text.lower s
  match all.find? (·.name = lowered) with
  | some m => .ok m
  | none => .error ⟨.value, Text.quoted lowered ++ " is not a valid SuspiciousnessMetric"⟩

variable {α : Type} [Arithmetic α]

open Arithmetic

/-- The share of failing tests among the shares of failing and passing tests that execute the
statement; zero when no test fails or none passes. -/
def tarantulaScore (c : Counts) : Except NumberFault α := do
  if c.ef + c.nf = 0 ∨ c.ep + c.np = 0 then
    ofInt 0
  else
    let failing : α ← ratio c.ef (c.ef + c.nf)
    let passing ← ratio c.ep (c.ep + c.np)
    let total := add failing passing
    if isZero total then ofInt 0 else return div failing total

/-- `ef / √((ef + nf) (ef + ep))`, zero when the root is. -/
def ochiaiScore (c : Counts) : Except NumberFault α := do
  let root : α ← sqrt (← ofInt ((c.ef + c.nf) * (c.ef + c.ep)))
  if isZero root then ofInt 0 else return div (← ofInt c.ef) root

/-- `ef / (ef + nf + ep)`, zero when the denominator is. -/
def jaccardScore (c : Counts) : Except NumberFault α :=
  if c.ef + c.nf + c.ep = 0 then ofInt 0 else ratio c.ef (c.ef + c.nf + c.ep)

/-- `ef ^ star / (ep + nf)`, unbounded, and zero when the denominator is. -/
def dstarScore (star : Int) (c : Counts) : Except NumberFault α := do
  if c.ep + c.nf = 0 then
    ofInt 0
  else if 0 ≤ star then
    ratio (power c.ef star.toNat) (c.ep + c.nf)
  else
    let small : α ← inversePower c.ef star
    return div small (← ofInt (c.ep + c.nf))

/-- `1 - ep / (ep + ef)`, zero when no test executes the statement. -/
def barinelScore (c : Counts) : Except NumberFault α := do
  if c.ep + c.ef = 0 then ofInt 0 else return sub (← ofInt 1) (← ratio c.ep (c.ep + c.ef))

/-- `ef - ep / (ep + np + 1)`, which may be negative. -/
def op2Score (c : Counts) : Except NumberFault α := do
  let passing : α ← ratio c.ep (c.ep + c.np + 1)
  return sub (← ofInt c.ef) passing

/-- The formula of a metric; the exponent of D* is two. -/
def formula : Metric → Counts → Except NumberFault α
  | .ochiai => ochiaiScore
  | .tarantula => tarantulaScore
  | .jaccard => jaccardScore
  | .dstar => dstarScore 2
  | .barinel => barinelScore
  | .op2 => op2Score

/-- A count below zero. -/
def hasNegative (c : Counts) : Bool :=
  c.ef < 0 || c.ep < 0 || c.nf < 0 || c.np < 0

/-- The failure that negative counts lead to. -/
def negativeCounts (c : Counts) : Failure :=
  ⟨.value, s!"Spectrum counts must be non-negative: ({c.ef}, {c.ep}, {c.nf}, {c.np})"⟩

/-- The score of a spectrum; negative counts have none. -/
def score (m : Metric) (c : Counts) : Except Failure α :=
  if hasNegative c then .error (negativeCounts c) else liftNumber (m.formula c)

end Metric

/-- Brings a score into the unit interval; what is not a number counts as one. -/
def clampScore (x : Float) : Float :=
  let capped := if x < 1.0 then x else 1.0
  if 0.0 < capped then capped else 0.0

end Mender
