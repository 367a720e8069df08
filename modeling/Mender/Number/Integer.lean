import Mender.Failure
import Mender.Text.Digit
import Mender.Text.Printable

/-!
# Written integers

Reads an integer that is written with the digits of any script. A numeral may be long, but not
without a limit, since the time to read one grows with the square of its length.
-/

namespace Mender.Integer

/-- The most digits that a numeral may have. -/
def maxDigits : Nat := 4300

/-- The length to which a text is cut where a failure quotes it. -/
def quotedLimit : Nat := 200

/-- The failure to read a text that is no numeral. -/
def malformed (text : String) : Failure :=
  ⟨.value, "invalid literal for int() with base 10: " ++
    String.ofList ((Text.quoted text).toList.take quotedLimit)⟩

/-- The failure to read a numeral with too many digits. -/
def tooLong (digits : Nat) : Failure :=
  ⟨.value, s!"Exceeds the limit ({maxDigits} digits) for integer string conversion: " ++
    s!"value has {digits} digits; use sys.set_int_max_str_digits() to increase the limit"⟩

/-- The magnitude that characters after a sign write; `text` is what a failure quotes. Digits that
are too many are noticed before anything that follows them. -/
def magnitude (text : String) (cs : List Char) : Except Failure Nat :=
  let (digits, rest) := Text.digitRun false cs
  if digits.isEmpty || rest.head? = some '_' then .error (malformed text)
  else if maxDigits < digits.length then .error (tooLong digits.length)
  else if rest.isEmpty then .ok (Text.ofDigits digits)
  else .error (malformed text)

/-- Reads an integer: blanks around it, an optional sign, decimal digits with single low lines
between them. -/
def read (text : String) : Except Failure Int :=
  match Text.trimBy Text.isNumeralBlank text.toList with
  | '-' :: cs => (magnitude text cs).map fun n => -(n : Int)
  | '+' :: cs => (magnitude text cs).map fun n => (n : Int)
  | cs => (magnitude text cs).map fun n => (n : Int)

end Mender.Integer
