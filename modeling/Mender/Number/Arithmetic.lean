import Mender.Number.Binary64

/-!
# Arithmetic of scores

Scores are computed from integer counts by a few operations, some of which can fail. The operations
are a class, so that one formula can be run on doubles and read over an exact field.
-/

namespace Mender

/-- Why a computation on numbers has no answer. -/
inductive NumberFault where
  | divisionByZero
  | zeroToNegativePower
  | integerTooLarge
  | quotientTooLarge
  | outsideDomain
  | infinite
  | undefined
  deriving DecidableEq, Repr

/-- The operations that scores are made of. -/
class Arithmetic (α : Type) where
  /-- An integer as a number. -/
  ofInt : Int → Except NumberFault α
  /-- The quotient of two integers. -/
  ratio : Int → Int → Except NumberFault α
  /-- An integer to the power of a negative one. -/
  inversePower : Int → Int → Except NumberFault α
  add : α → α → α
  sub : α → α → α
  mul : α → α → α
  /-- A quotient by a number that is not zero. -/
  div : α → α → α
  sqrt : α → Except NumberFault α
  /-- The greatest integer not above a number. -/
  floor : α → Except NumberFault Int
  isZero : α → Bool

namespace Arithmetic

/-- The quotient of two integers, rounded once. -/
def doubleRatio (a b : Int) : Except NumberFault Float :=
  if b = 0 then .error .divisionByZero
  else
    match Binary64.ofQuotient? (decide (a < 0) != decide (b < 0)) a.natAbs b.natAbs with
    | some x => .ok x
    | none => .error .quotientTooLarge

/-- The double nearest to an integer. -/
def doubleOfInt (n : Int) : Except NumberFault Float :=
  match Binary64.ofInt? n with
  | some x => .ok x
  | none => .error .integerTooLarge

/-- An integer to the power of a negative one, where both are doubles first. -/
def doublePower (a b : Int) : Except NumberFault Float := do
  let base ← doubleOfInt a
  let exponent ← doubleOfInt b
  if a = 0 then .error .zeroToNegativePower else return base.pow exponent

/-- An integer to a power. The powers of zero and of the units need no multiplication. -/
def power (a : Int) (n : Nat) : Int :=
  if a = 0 then (if n = 0 then 1 else 0)
  else if a = 1 then 1
  else if a = -1 then (if n % 2 = 0 then 1 else -1)
  else Int.pow a n

/-- Doubles round every operation to the nearest. -/
instance : Arithmetic Float where
  ofInt := doubleOfInt
  ratio := doubleRatio
  inversePower := doublePower
  add x y := x + y
  sub x y := x - y
  mul x y := x * y
  div x y := x / y
  sqrt x := if x < 0 then .error .outsideDomain else .ok x.sqrt
  floor x :=
    if Binary64.isNaN x then .error .undefined
    else if Binary64.isInfinite x then .error .infinite
    else .ok (Binary64.floor x)
  isZero x := x == 0

end Arithmetic

end Mender
