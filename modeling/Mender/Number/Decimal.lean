import Mender.Number.Binary64

/-!
# Decimal text of a double

Three ways to write a double. `Shortest` finds the fewest digits that read back as the same double,
the nearest of those. `significantText` rounds to a number of significant digits, and `fixedText` to
a number of places; both round the exact binary value, a half going to the even neighbour.
-/

namespace Mender.Decimal

open Binary64

/-- Decimal digits and the place of the point: the value is `0.d₁d₂… * 10 ^ point`. -/
structure Digits where
  digits : List Char
  point : Int

/-- The least `k` with `num / den < 10 ^ k`, for a positive quotient. -/
def pointOf (num den : Nat) : Int :=
  if den ≤ num then ((Nat.toDigits 10 (num / den)).length : Int)
  else
    let j := (Nat.toDigits 10 (den / num)).length
    if den ≤ num * Nat.pow 10 (j - 1) then 2 - (j : Int) else 1 - (j : Int)

/-- A quotient in units of a power of ten. -/
def inUnits (num den : Nat) (power : Int) : Nat × Nat :=
  let scale := Nat.pow 10 power.natAbs
  if power < 0 then (num * scale, den) else (num, den * scale)

/-- The interval of values that round to a positive double, in quarters of its last place, and
whether its ends belong to it. -/
structure Interval where
  low : Nat
  value : Nat
  high : Nat
  closed : Bool
  power : Int

/-- The interval of a positive finite double. -/
def Interval.of (x : Float) : Interval :=
  let m := significand x
  let gap := if m = Nat.pow 2 52 && exponent x != -1074 then 1 else 2
  ⟨4 * m - gap, 4 * m, 4 * m + 2, m % 2 == 0, exponent x - 2⟩

/-- A grid point `digits * 10 ^ unit` lies in the interval. -/
def Interval.holds (i : Interval) (digits : Nat) (unit : Int) : Bool :=
  let low := shifted i.low 1 i.power
  let high := shifted i.high 1 i.power
  let scale := Nat.pow 10 unit.natAbs
  let point := if unit < 0 then (digits, scale) else (digits * scale, 1)
  let above := low.1 * point.2
  let here := point.1 * low.2
  let here' := point.1 * high.2
  let below := high.1 * point.2
  if i.closed then above ≤ here && here' ≤ below else above < here && here' < below

/-- The neighbour of a value on the grid of `count` digits that reads back, nearest first. -/
def onGrid? (i : Interval) (point : Int) (count : Nat) : Option Digits :=
  let value := shifted i.value 1 i.power
  let unit := point - count
  let scaled := inUnits value.1 value.2 unit
  let below := scaled.1 / scaled.2
  let nearest := roundQuotient scaled.1 scaled.2
  let other := if nearest = below then below + 1 else below
  let found (n : Nat) : Option Digits :=
    if i.holds n unit then
      let text := Nat.toDigits 10 n
      some ⟨text, point + (text.length : Int) - count⟩
    else none
  (found nearest).orElse fun _ => found other

/-- Drops zeros at the end, keeping one digit. -/
def dropTrailingZeros (digits : List Char) : List Char :=
  match (digits.reverse.dropWhile (· == '0')).reverse with
  | [] => ['0']
  | kept => kept

/-- The fewest digits that read back as a positive finite double, the nearest of those. -/
def shortest (x : Float) : Digits :=
  let i := Interval.of x
  let value := shifted i.value 1 i.power
  let point := pointOf value.1 value.2
  match (List.range 17).findSome? fun n => onGrid? i point (n + 1) with
  | some d => ⟨dropTrailingZeros d.digits, d.point⟩
  | none => ⟨['0'], 1⟩

/-- An exponent with a sign and at least two digits. -/
def exponentText (e : Int) : List Char :=
  let digits := Nat.toDigits 10 e.natAbs
  'e' :: (if e < 0 then '-' else '+') :: (List.replicate (2 - digits.length) '0' ++ digits)

/-- Digits with a point after the first and an exponent. -/
def scientific (d : Digits) : List Char :=
  match d.digits with
  | [] => []
  | [c] => c :: exponentText (d.point - 1)
  | c :: cs => c :: '.' :: (cs ++ exponentText (d.point - 1))

/-- Digits with the point in its place, and what follows the digits of a whole number. -/
def positional (d : Digits) (whole : List Char) : List Char :=
  if d.point ≤ 0 then
    '0' :: '.' :: (List.replicate d.point.natAbs '0' ++ d.digits)
  else
    let places := d.point.toNat
    if d.digits.length ≤ places then
      d.digits ++ List.replicate (places - d.digits.length) '0' ++ whole
    else d.digits.take places ++ '.' :: d.digits.drop places

/-- Writes the sign, and the values that have no digits. -/
def signed (x : Float) (magnitude : List Char) : String :=
  if isNaN x then "nan"
  else
    String.ofList ((if isNegative x then ['-'] else []) ++
      if isInfinite x then ['i', 'n', 'f'] else magnitude)

/-- The shortest text: positional from a ten-thousandth up to sixteen whole digits, always with a
point or an exponent. -/
def text (x : Float) : String :=
  signed x <|
    if magnitudeBits x = 0 then ['0', '.', '0']
    else
      let d := shortest x
      if -4 < d.point && d.point ≤ 16 then positional d ['.', '0'] else scientific d

/-- At most `count` significant digits without zeros at the end; positional from a ten-thousandth up
to `count` whole digits. -/
def significantText (count : Nat) (x : Float) : String :=
  signed x <|
    if magnitudeBits x = 0 then ['0']
    else
      let value := quotient x
      let point := pointOf value.1 value.2
      let scaled := inUnits value.1 value.2 (point - count)
      let written := Nat.toDigits 10 (roundQuotient scaled.1 scaled.2)
      let d : Digits := ⟨dropTrailingZeros written, point + (written.length : Int) - count⟩
      if -4 < d.point && d.point ≤ count then positional d [] else scientific d

/-- The magnitude in units of the last of `places` places. -/
def inPlaces (places : Nat) (x : Float) : Nat :=
  let value := quotient x
  roundQuotient (value.1 * Nat.pow 10 places) value.2

/-- Exactly `places` digits after the point. -/
def fixedText (places : Nat) (x : Float) : String :=
  signed x <|
    let digits := Nat.toDigits 10 (inPlaces places x)
    let padded := List.replicate (places + 1 - digits.length) '0' ++ digits
    padded.take (padded.length - places) ++ '.' :: padded.drop (padded.length - places)

/-- The double nearest to the value rounded to a number of places. -/
def roundTo (places : Nat) (x : Float) : Float :=
  if isNaN x || isInfinite x then x
  else ofDecimal (isNegative x) (inPlaces places x) (-(places : Int))

end Mender.Decimal
