import Mender.Location

/-!
# Faults

A fault is a suspected place in the code: what sort of error points at it, where, and how suspicious
it is.
-/

namespace Mender

/-- What sort of diagnostic reported a fault. -/
inductive Fault.Kind where
  | syntaxError
  | typeError
  | lintError
  | runtimeError
  | testFailure
  | unknown
  deriving DecidableEq, Repr

/-- The name of a kind of fault in reports. -/
def Fault.Kind.name : Fault.Kind → String
  | .syntaxError => "syntax_error"
  | .typeError => "type_error"
  | .lintError => "lint_error"
  | .runtimeError => "runtime_error"
  | .testFailure => "test_failure"
  | .unknown => "unknown"

/-- All kinds of fault. -/
def Fault.Kind.all : List Fault.Kind :=
  [.syntaxError, .typeError, .lintError, .runtimeError, .testFailure, .unknown]

/-- How severe a fault is. -/
inductive Fault.Severity where
  | critical
  | high
  | medium
  | low
  deriving DecidableEq, Repr

/-- The name of a severity in reports. -/
def Fault.Severity.name : Fault.Severity → String
  | .critical => "critical"
  | .high => "high"
  | .medium => "medium"
  | .low => "low"

/-- All severities. -/
def Fault.Severity.all : List Fault.Severity :=
  [.critical, .high, .medium, .low]

/-- Where a fault comes from. -/
inductive Fault.Origin where
  /-- Handed in from outside. -/
  | given
  /-- A line of the diagnostic table, by name. -/
  | pattern (name : String)
  /-- Made up from stack frames alone. -/
  | stack
  /-- A statement promoted from the spectrum, with the name of its metric. -/
  | spectrum (metric : String)
  /-- A file named somewhere in text that no pattern recognised. -/
  | generic
  deriving DecidableEq, Repr

/-- A suspected place in the code. -/
structure Fault where
  kind : Fault.Kind
  severity : Fault.Severity
  message : String
  location : Location
  related : List Location
  suspiciousness : Float
  stackTrace : Option String
  origin : Fault.Origin
  /-- The clamped spectrum score that took part in the suspiciousness. -/
  spectrumScore : Option Float

/-- What identifies the place of a fault. -/
def Fault.place (f : Fault) : Place :=
  f.location.place

end Mender
