import Mender.Number.Binary64
import Mender.Text.Blank
import Mender.Text.Lower

/-!
# Digits and numerals

A decimal digit belongs to a run of ten that counts from zero to nine, so its value is its place in
the run. Superscripts and circled digits look like digits and have no place in a decimal numeral.
A number with a fraction and an exponent is read from them, or one of the names for numbers without
digits.
-/

namespace Mender.Text

/-- Runs of decimal digits, each a multiple of ten long and counting from zero. -/
def decimalRanges : List (Nat × Nat) :=
  [(48, 57), (1632, 1641), (1776, 1785), (1984, 1993), (2406, 2415), (2534, 2543), (2662, 2671),
   (2790, 2799), (2918, 2927), (3046, 3055), (3174, 3183), (3302, 3311), (3430, 3439),
   (3558, 3567), (3664, 3673), (3792, 3801), (3872, 3881), (4160, 4169), (4240, 4249),
   (6112, 6121), (6160, 6169), (6470, 6479), (6608, 6617), (6784, 6793), (6800, 6809),
   (6992, 7001), (7088, 7097), (7232, 7241), (7248, 7257), (42528, 42537), (43216, 43225),
   (43264, 43273), (43472, 43481), (43504, 43513), (43600, 43609), (44016, 44025),
   (65296, 65305), (66720, 66729), (68912, 68921), (69734, 69743), (69872, 69881),
   (69942, 69951), (70096, 70105), (70384, 70393), (70736, 70745), (70864, 70873),
   (71248, 71257), (71360, 71369), (71472, 71481), (71904, 71913), (72016, 72025),
   (72784, 72793), (73040, 73049), (73120, 73129), (92768, 92777), (92864, 92873),
   (93008, 93017), (120782, 120831), (123200, 123209), (123632, 123641), (125264, 125273),
   (130032, 130041)]

/-- Digits that take no part in decimal numerals. -/
def framedDigitRanges : List (Nat × Nat) :=
  [(178, 179), (185, 185), (4969, 4977), (6618, 6618), (8304, 8304), (8308, 8313), (8320, 8329),
   (9312, 9320), (9332, 9340), (9352, 9360), (9450, 9450), (9461, 9469), (9471, 9471),
   (10102, 10110), (10112, 10120), (10122, 10130), (68160, 68163), (69216, 69224),
   (69714, 69722), (127232, 127242)]

/-- The value of a decimal digit. -/
def digitValue? (c : Char) : Option Nat :=
  (decimalRanges.find? fun range => range.1 ≤ c.toNat && c.toNat ≤ range.2).map
    fun range => (c.toNat - range.1) % 10

/-- A decimal digit of any script. -/
def isDecimal (c : Char) : Bool :=
  (digitValue? c).isSome

/-- A decimal digit, a superscript or subscript digit, or a digit in a frame. -/
def isDigitLike (c : Char) : Bool :=
  isDecimal c || inRanges framedDigitRanges c

/-- The digits at the start of a text, where a low line may stand between two digits, and the rest.
-/
def digitRun : Bool → List Char → List Nat × List Char
  | _, [] => ([], [])
  | afterDigit, c :: cs =>
    match digitValue? c with
    | some d => let (ds, rest) := digitRun true cs; (d :: ds, rest)
    | none =>
      if afterDigit && c == '_' && (cs.head?.bind digitValue?).isSome then digitRun false cs
      else ([], c :: cs)

/-- The number that digits write in base ten. -/
def ofDigits (ds : List Nat) : Nat :=
  ds.foldl (fun n d => 10 * n + d) 0

/-- The blanks that may surround a numeral; separators of records are not among them. -/
def isNumeralBlank (c : Char) : Bool :=
  isBlank c && !(28 ≤ c.toNat && c.toNat ≤ 31)

/-! ## Numerals with a fraction -/

/-- The exponent that a text holds, and nothing else. -/
def exponentOf? : List Char → Option Int
  | [] => some 0
  | c :: cs =>
    if c == 'e' || c == 'E' then
      let (negative, cs) := match cs with
        | '-' :: cs => (true, cs)
        | '+' :: cs => (false, cs)
        | cs => (false, cs)
      match digitRun false cs with
      | ([], _) => none
      | (ds, []) =>
        let n : Nat := ofDigits ds
        some (if negative then -(n : Int) else n)
      | _ => none
    else none

/-- The magnitude that a text without a sign says. -/
def magnitudeOf? (negative : Bool) (cs : List Char) : Option Float :=
  let lowered := lower (String.ofList cs)
  if lowered = "inf" || lowered = "infinity" then some (Binary64.infinity negative)
  else if lowered = "nan" then some (0.0 / 0.0)
  else
    let (whole, rest) := digitRun false cs
    let (fraction, rest) := match rest with
      | '.' :: rest => digitRun false rest
      | rest => ([], rest)
    if whole.isEmpty && fraction.isEmpty then none
    else
      (exponentOf? rest).map fun e =>
        Binary64.ofDecimal negative (ofDigits (whole ++ fraction)) (e - fraction.length)

/-- The number that a text says. -/
def readFloat? (s : String) : Option Float :=
  match trimBy isNumeralBlank s.toList with
  | '-' :: cs => magnitudeOf? true cs
  | '+' :: cs => magnitudeOf? false cs
  | cs => magnitudeOf? false cs

end Mender.Text
