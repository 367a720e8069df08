import Mender.Number.Binary64
import Mender.Shell.Octets

/-!
# Numbers in texts

Reads whole numbers of 64 bits at the start of a text, in ten or in the base that the number is
written in, and numbers with a point, and says what follows them.
-/

namespace Mender.Shell

/-- A number at the start of a text. -/
structure Numeral where
  value : Int
  /-- What follows; the whole text when there is no digit. -/
  rest : List Char
  /-- There is a digit. -/
  hasDigits : Bool
  /-- The number does not fit, and its value is the nearest that does. -/
  overflows : Bool

namespace Numeral

/-- The largest number of 64 bits. -/
def largest : Int := 9223372036854775807

/-- The smallest number of 64 bits. -/
def smallest : Int := -9223372036854775808

/-- A number in 64 bits, taken modulo their range. -/
def wrapped (n : Int) : Int :=
  Int.bmod n 18446744073709551616

/-- The value of a digit. -/
def digitValue? (c : Char) : Option Nat :=
  if c.isDigit then some (c.toNat - 48)
  else if 'a' ≤ c && c ≤ 'z' then some (c.toNat - 87)
  else if 'A' ≤ c && c ≤ 'Z' then some (c.toNat - 55)
  else none

/-- A digit of a base. -/
def isDigit (base : Nat) (c : Char) : Bool :=
  (digitValue? c).any (· < base)

/-- The value of digits of a base. -/
def digitsValue (base : Nat) (cs : List Char) : Nat :=
  cs.foldl (fun n c => base * n + (digitValue? c).getD 0) 0

/-- The base and the digits of a number that may mark its base. -/
def marked : List Char → Nat × List Char
  | '0' :: x :: d :: cs =>
    if (x == 'x' || x == 'X') && isDigit 16 d then (16, d :: cs) else (8, '0' :: x :: d :: cs)
  | '0' :: cs => (8, '0' :: cs)
  | cs => (10, cs)

/-- Reads a number without blanks or a sign before it. -/
def ofDigits (anyBase negative : Bool) (text cs : List Char) : Numeral :=
  let (base, cs) := if anyBase then marked cs else (10, cs)
  let digits := cs.takeWhile (isDigit base)
  if digits.isEmpty then ⟨0, text, false, false⟩
  else
    let n : Int := digitsValue base digits
    let value := if negative then -n else n
    let rest := cs.drop digits.length
    if value < smallest then ⟨smallest, rest, true, true⟩
    else if largest < value then ⟨largest, rest, true, true⟩
    else ⟨value, rest, true, false⟩

/-- Reads a number. -/
def read (anyBase : Bool) (text : List Char) : Numeral :=
  match text.dropWhile Octets.isSpace with
  | '-' :: cs => ofDigits anyBase true text cs
  | '+' :: cs => ofDigits anyBase false text cs
  | cs => ofDigits anyBase false text cs

/-- The number that a whole text is, with blanks around it. -/
def whole? (s : Octets) : Option Int :=
  let n := read false s.toList
  if n.overflows || !n.hasDigits || !n.rest.all Octets.isSpace then none else some n.value

/-- The number that the value of a variable is; nothing counts as zero. -/
def ofVariable? (s : Octets) : Option Int :=
  let n := read true s.toList
  if n.overflows || !n.rest.all Octets.isSpace then none else some n.value

/-- The magnitude of a number with a point at the start of a text, and what follows it. -/
def readMagnitude (negative : Bool) (cs : List Char) : Option (Float × List Char) :=
  let whole := cs.takeWhile Char.isDigit
  let rest := cs.drop whole.length
  let (fraction, rest) := match rest with
    | '.' :: r => (r.takeWhile Char.isDigit, r.dropWhile Char.isDigit)
    | r => ([], r)
  if whole.isEmpty && fraction.isEmpty then none
  else
    let (power, rest) := match rest with
      | e :: r =>
        if e == 'e' || e == 'E' then
          let (negative, digits) := match r with
            | '-' :: d => (true, d)
            | '+' :: d => (false, d)
            | d => (false, d)
          let exponent := digits.takeWhile Char.isDigit
          if exponent.isEmpty then ((0 : Int), rest)
          else
            let n : Int := Octets.value exponent
            (if negative then -n else n, digits.drop exponent.length)
        else (0, rest)
      | [] => (0, rest)
    some (Binary64.ofDecimal negative (Octets.value (whole ++ fraction))
      (power - fraction.length), rest)

/-- The number with a point at the start of a text, and what follows it. -/
def readReal (text : List Char) : Float × List Char :=
  let (negative, cs) := match text.dropWhile Octets.isSpace with
    | '-' :: cs => (true, cs)
    | '+' :: cs => (false, cs)
    | cs => (false, cs)
  let lower := cs.map Char.toLower
  if "infinity".toList.isPrefixOf lower then (Binary64.infinity negative, cs.drop 8)
  else if "inf".toList.isPrefixOf lower then (Binary64.infinity negative, cs.drop 3)
  else if "nan".toList.isPrefixOf lower then (0.0 / 0.0, cs.drop 3)
  else
    match readMagnitude negative cs with
    | some r => r
    | none => (0.0, text)

end Numeral

end Mender.Shell
