import Mender.Number.Arithmetic
import Mender.Strategy.Standard

/-!
# The strategy registry

Strategies by id, in the order they were first registered, with how often each was tried and how
often it worked. `prioritize` orders the strategies that fit a fault.
-/

namespace Mender

/-- How often a strategy was tried and how often it worked. -/
structure Tally where
  attempts : Nat
  successes : Nat
  deriving DecidableEq, Repr

namespace Tally

/-- Nothing tried. -/
def zero : Tally := ⟨0, 0⟩

/-- One more try. -/
def add (t : Tally) (success : Bool) : Tally :=
  ⟨t.attempts + 1, t.successes + if success then 1 else 0⟩

/-- The share of tries that worked, as a fraction; one half for a strategy that was never tried. -/
def rate (t : Tally) : Nat × Nat :=
  if t.attempts = 0 then (1, 2) else (t.successes, t.attempts)

/-- The share of tries that worked, as a number. -/
def rateNumber (t : Tally) : Float :=
  let r := t.rate
  (Binary64.ofQuotient? false r.1 r.2).getD 0.0

/-- One share is at least another, as numbers. -/
def rateAtLeast (s t : Tally) : Bool :=
  Binary64.orderKey t.rateNumber ≤ Binary64.orderKey s.rateNumber

end Tally

/-- Strategies with their record. -/
structure Registry where
  /-- The strategies, each id once. -/
  strategies : List Strategy
  /-- The record by id; it outlives the registration of a strategy. -/
  tallies : List (String × Tally)

namespace Registry

/-- Puts a strategy in the place of one of the same id, or at the end. -/
def insert (s : Strategy) : List Strategy → List Strategy
  | [] => [s]
  | t :: ts => if t.id = s.id then s :: ts else t :: insert s ts

/-- Adds a strategy; one of a known id replaces the other in its place. -/
def register (r : Registry) (s : Strategy) : Registry :=
  { r with strategies := insert s r.strategies }

/-- Removes the strategy of an id. -/
def unregister (r : Registry) (id : String) : Registry :=
  { r with strategies := r.strategies.filter (·.id ≠ id) }

/-- A registry of given strategies. -/
def ofList (strategies : List Strategy) : Registry :=
  strategies.foldl register ⟨[], []⟩

/-- The registry of the standard strategies. -/
def standard : Registry :=
  ofList Strategy.standard

/-- The strategy of an id. -/
def get? (r : Registry) (id : String) : Option Strategy :=
  r.strategies.find? (·.id = id)

/-- The ids in order. -/
def ids (r : Registry) : List String :=
  r.strategies.map (·.id)

/-- The record of an id. -/
def tally (r : Registry) (id : String) : Tally :=
  ((r.tallies.find? (·.1 = id)).map (·.2)).getD .zero

/-- Counts one more try in a record. -/
def addTally (id : String) (success : Bool) : List (String × Tally) → List (String × Tally)
  | [] => [(id, Tally.zero.add success)]
  | t :: ts => if t.1 = id then (id, t.2.add success) :: ts else t :: addTally id success ts

/-- Records a try of a strategy. -/
def record (r : Registry) (id : String) (success : Bool) : Registry :=
  { r with tallies := addTally id success r.tallies }

/-- The share of successes of a strategy. -/
def successRate (r : Registry) (id : String) : Float :=
  (r.tally id).rateNumber

/-- The order of strategies with their scores: those that match everything last, then by score, then
by success. -/
def fitsBefore (r : Registry) (a b : Strategy × Nat) : Bool :=
  if a.1.catchAll ≠ b.1.catchAll then !a.1.catchAll
  else if a.2 ≠ b.2 then b.2 < a.2
  else (r.tally a.1.id).rateAtLeast (r.tally b.1.id)

/-- The strategies that fit a fault, with their scores, in order; strategies that fit equally well
keep the order of the registry. -/
def ranked (r : Registry) (f : Fault) (codeContext : String) (learned : Option String) :
    List (Strategy × Nat) :=
  let scored := r.strategies.map fun s => (s, s.score f codeContext)
  (scored.filter fun s => 0 < s.2 || some s.1.id = learned).mergeSort r.fitsBefore

/-- The strategies that fit a fault, the best first. A learned strategy comes before all others. -/
def prioritize (r : Registry) (f : Fault) (codeContext : String) (learned : Option String) :
    List Strategy :=
  let ordered := (r.ranked f codeContext learned).map (·.1)
  match learned.bind r.get? with
  | some s => s :: ordered.filter (·.id ≠ s.id)
  | none => ordered

end Registry

end Mender
