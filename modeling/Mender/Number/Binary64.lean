/-!
# Binary floating point, exactly

A finite double is a signed integer times a power of two, and the rounding of a quotient of integers
to the nearest double, halves to the even neighbour, is computed here in exact integer arithmetic.
The order of doubles is the order of an integer key, so it is total by construction.
-/

namespace Mender.Binary64

/-- The bits of the magnitude. -/
def magnitudeBits (x : Float) : Nat :=
  x.toBits.toNat % Nat.pow 2 63

/-- The sign bit. -/
def isNegative (x : Float) : Bool :=
  Nat.pow 2 63 ≤ x.toBits.toNat

/-- Magnitude bits of infinity; those above it are not numbers. -/
def infinityBits : Nat :=
  2047 * Nat.pow 2 52

/-- Not a number. -/
def isNaN (x : Float) : Bool :=
  infinityBits < magnitudeBits x

/-- Infinity of either sign. -/
def isInfinite (x : Float) : Bool :=
  magnitudeBits x == infinityBits

/-- The integer factor of a finite double: its magnitude is `significand x * 2 ^ exponent x`. -/
def significand (x : Float) : Nat :=
  let bits := magnitudeBits x
  if bits < Nat.pow 2 52 then bits else Nat.pow 2 52 + bits % Nat.pow 2 52

/-- The power of two of a finite double. -/
def exponent (x : Float) : Int :=
  let field : Nat := magnitudeBits x / Nat.pow 2 52
  if field = 0 then -1074 else (field : Int) - 1075

/-- Doubles are ordered as these integers are; the two zeros have one key. -/
def orderKey (x : Float) : Int :=
  if isNegative x then -(magnitudeBits x : Int) else magnitudeBits x

/-- A quotient times a power of two, as a quotient. -/
def shifted (num den : Nat) (power : Int) : Nat × Nat :=
  let scale := Nat.pow 2 power.natAbs
  if power < 0 then (num, den * scale) else (num * scale, den)

/-- The nearest integer to a quotient, a half going to the even neighbour. -/
def roundQuotient (num den : Nat) : Nat :=
  let quotient := num / den
  let twice := 2 * (num % den)
  if den < twice || (twice == den && quotient % 2 == 1) then quotient + 1 else quotient

/-- The magnitude bits of the double nearest to a positive quotient; none if it is out of range. -/
def roundBits? (num den : Nat) : Option Nat :=
  if num = 0 then some 0
  else
    let low : Int := (num.log2 : Int) - den.log2 - 53
    let wide := shifted num den (-low)
    let power := max (if Nat.pow 2 53 ≤ wide.1 / wide.2 then low + 1 else low) (-1074)
    let scaled := shifted num den (-power)
    let bits := (power + 1074).toNat * Nat.pow 2 52 + roundQuotient scaled.1 scaled.2
    if infinityBits ≤ bits then none else some bits

/-- The double with a sign and magnitude bits. -/
def ofMagnitude (negative : Bool) (bits : Nat) : Float :=
  Float.ofBits (UInt64.ofNat (if negative then Nat.pow 2 63 + bits else bits))

/-- Infinity of a sign. -/
def infinity (negative : Bool) : Float :=
  ofMagnitude negative infinityBits

/-- The double nearest to a signed quotient; none if it is out of range. -/
def ofQuotient? (negative : Bool) (num den : Nat) : Option Float :=
  (roundBits? num den).map (ofMagnitude negative)

/-- The double nearest to an integer; none if it is out of range. -/
def ofInt? (n : Int) : Option Float :=
  ofQuotient? (n < 0) n.natAbs 1

/-- A value below `10 ^ reach` rounds to zero when the exponent is below this one. -/
def lowestReach : Int := -330

/-- A value of at least `10 ^ (reach - 1)` is out of range when the exponent is above this one. -/
def highestReach : Int := 330

/-- The double nearest to a decimal `digits * 10 ^ power`, infinity if it is out of range. -/
def ofDecimal (negative : Bool) (digits : Nat) (power : Int) : Float :=
  let reach := power + (Nat.toDigits 10 digits).length
  if digits = 0 ∨ reach < lowestReach then ofMagnitude negative 0
  else if highestReach < reach then infinity negative
  else
    let scale := Nat.pow 10 power.natAbs
    let rounded :=
      if power < 0 then ofQuotient? negative digits scale
      else ofQuotient? negative (digits * scale) 1
    rounded.getD (infinity negative)

/-- The magnitude of a finite double as a quotient. -/
def quotient (x : Float) : Nat × Nat :=
  shifted (significand x) 1 (exponent x)

/-- The greatest integer not above a finite double. -/
def floor (x : Float) : Int :=
  let q := quotient x
  if isNegative x then -(((q.1 + q.2 - 1) / q.2 : Nat) : Int) else (q.1 / q.2 : Nat)

end Mender.Binary64
