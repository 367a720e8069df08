import Mender.Number.Decimal

/-!
# Layout of values

How numbers and texts are laid out in a template: with a sign, a mark of the base, a precision and a
width that is filled up with blanks or zeros. Digits of doubles are rounded from the exact binary
value, a half going to the even neighbour.
-/

namespace Mender

/-- How a value is laid out. -/
structure Layout where
  /-- The value stands at the left of its width. -/
  left : Bool := false
  /-- A number that is not negative has a plus sign. -/
  plus : Bool := false
  /-- A number that is not negative has a blank in place of a sign. -/
  blank : Bool := false
  /-- The base is marked, and zeros at the end of a fraction stay. -/
  marked : Bool := false
  /-- Numbers are filled up with zeros. -/
  zeros : Bool := false
  width : Nat := 0
  precision : Option Nat := none
  deriving DecidableEq, Repr

namespace Layout

/-- Takes a flag. -/
def flag? (l : Layout) : Char → Option Layout
  | '-' => some { l with left := true }
  | '+' => some { l with plus := true }
  | ' ' => some { l with blank := true }
  | '#' => some { l with marked := true }
  | '0' => some { l with zeros := true }
  | _ => none

/-- Takes all flags at the front. -/
def takeFlags (l : Layout) : List Char → Layout × List Char
  | [] => (l, [])
  | c :: cs =>
    match l.flag? c with
    | some l => takeFlags l cs
    | none => (l, c :: cs)

/-- Fills a text up to the width. -/
def padded (l : Layout) (cs : List Char) : List Char :=
  let fill := List.replicate (l.width - cs.length) ' '
  if l.left then cs ++ fill else fill ++ cs

/-- A text, cut to the precision. -/
def text (l : Layout) (cs : List Char) : List Char :=
  l.padded (match l.precision with
    | some n => cs.take n
    | none => cs)

/-- The sign of a number. -/
def sign (l : Layout) (negative : Bool) : List Char :=
  if negative then ['-'] else if l.plus then ['+'] else if l.blank then [' '] else []

/-- A number from its sign, the mark of its base and its digits. Zeros stand behind the sign. -/
def number (l : Layout) (sign mark digits : List Char) (zeros : Bool) : List Char :=
  if zeros && !l.left then
    let fill := l.width - (sign.length + mark.length + digits.length)
    sign ++ mark ++ List.replicate fill '0' ++ digits
  else l.padded (sign ++ mark ++ digits)

/-- Digits with at least as many places as the precision says. -/
def withZeros (l : Layout) (digits : List Char) : List Char :=
  List.replicate (l.precision.getD 0 - digits.length) '0' ++ digits

/-- The layout with a width, which stands at the left when it is negative, and a precision, which is
none when it is negative. -/
def withCounts (l : Layout) (width : Int) (precision : Option Int) : Layout :=
  { l with
    left := l.left || width < 0
    width := width.natAbs
    precision := (precision.filter (0 ≤ ·)).map (·.toNat) }

/-- A whole number in a conversion: `d`, `i`, `u`, `o`, `x` or `X`. -/
def whole (l : Layout) (conversion : Char) (negative : Bool) (magnitude : Nat) : List Char :=
  let base := if conversion.toLower = 'x' then 16 else if conversion = 'o' then 8 else 10
  let digits := if magnitude = 0 && l.precision = some 0 then [] else Nat.toDigits base magnitude
  let digits := if conversion = 'X' then digits.map Char.toUpper else digits
  let digits := l.withZeros digits
  let digits :=
    if l.marked && conversion = 'o' && digits.head? ≠ some '0' then '0' :: digits else digits
  let mark := if l.marked && base = 16 && magnitude ≠ 0 then ['0', conversion] else []
  let isSigned : Bool := conversion == 'd' || conversion == 'i'
  l.number (if isSigned then l.sign negative else []) mark digits (l.zeros && l.precision.isNone)

end Layout

namespace Decimal

open Binary64

/-- Exactly `count` digits of a positive finite double, and the place of the point. -/
def rounded (count : Nat) (x : Float) : Digits :=
  let value := quotient x
  let point := pointOf value.1 value.2
  let scaled := inUnits value.1 value.2 (point - count)
  let written := Nat.toDigits 10 (roundQuotient scaled.1 scaled.2)
  ⟨written.take count, point + (written.length : Int) - count⟩

/-- Digits of a finite double; zero has only zeros. -/
def roundedOrZero (count : Nat) (x : Float) : Digits :=
  if magnitudeBits x = 0 then ⟨List.replicate count '0', 1⟩ else rounded count x

/-- A point that no digit follows is left out unless it is asked for. -/
def pointed (marked : Bool) (whole fraction : List Char) : List Char :=
  if fraction.isEmpty && !marked then whole else whole ++ '.' :: fraction

/-- The magnitude with `places` digits after the point. -/
def fixedDigits (marked : Bool) (places : Nat) (x : Float) : List Char :=
  let digits := Nat.toDigits 10 (inPlaces places x)
  let padded := List.replicate (places + 1 - digits.length) '0' ++ digits
  pointed marked (padded.take (padded.length - places)) (padded.drop (padded.length - places))

/-- The magnitude with one digit before the point, `places` after it, and an exponent. -/
def scientificDigits (marked : Bool) (places : Nat) (x : Float) : List Char :=
  let d := roundedOrZero (places + 1) x
  pointed marked (d.digits.take 1) (d.digits.drop 1) ++ exponentText (d.point - 1)

/-- Drops zeros at the end of a fraction, and a point with nothing behind it. -/
def dropFractionZeros (cs : List Char) : List Char :=
  if cs.contains '.' then
    let kept := cs.reverse.dropWhile (· == '0')
    (if kept.head? = some '.' then kept.tail else kept).reverse
  else cs

/-- The magnitude with `count` significant digits; positional from a ten-thousandth up to `count`
whole digits. Zeros at the end of the fraction stay only if they are asked for. -/
def generalDigits (marked : Bool) (count : Nat) (x : Float) : List Char :=
  let count := max count 1
  let d := roundedOrZero count x
  if -4 < d.point && d.point ≤ count then
    let digits := fixedDigits marked (count - d.point).toNat x
    if marked then digits else dropFractionZeros digits
  else
    let mantissa := pointed marked (d.digits.take 1) (d.digits.drop 1)
    (if marked then mantissa else dropFractionZeros mantissa) ++ exponentText (d.point - 1)

/-- The magnitude of a double in a conversion: `e`, `f` or `g`. -/
def converted (conversion : Char) (marked : Bool) (precision : Nat) (x : Float) : List Char :=
  if isNaN x then ['n', 'a', 'n']
  else if isInfinite x then ['i', 'n', 'f']
  else if conversion = 'e' then scientificDigits marked precision x
  else if conversion = 'f' then fixedDigits marked precision x
  else generalDigits marked precision x

end Decimal

/-- A double in a conversion: `e`, `f` or `g`, or one of these in upper case. -/
def Layout.double (l : Layout) (conversion : Char) (x : Float) : List Char :=
  let digits := Decimal.converted conversion.toLower l.marked (l.precision.getD 6) x
  let digits := if conversion.isUpper then digits.map Char.toUpper else digits
  let finite := !(Binary64.isNaN x || Binary64.isInfinite x)
  let sign := l.sign (Binary64.isNegative x && !Binary64.isNaN x)
  l.number sign [] digits (l.zeros && finite)

end Mender
