import Mender.Text.Cut

/-!
# Lines

Two ways to see the lines of a text. A file under edit has one line ending of its own and its lines
are the pieces between its occurrences (`LineEnding`). A text that is only read ends a line at every
line separator there is (`lines`).
-/

namespace Mender.Text

/-- The line ending of a file. -/
inductive LineEnding where
  | lf
  | crlf
  deriving DecidableEq, Repr

/-- The characters of a line ending. -/
def LineEnding.mark : LineEnding → List Char
  | .lf => ['\n']
  | .crlf => ['\r', '\n']

/-- A file that holds a carriage return with a line feed anywhere ends its lines so. -/
def LineEnding.ofText (cs : List Char) : LineEnding :=
  if hasText LineEnding.crlf.mark cs then .crlf else .lf

/-- A carriage return with a line feed becomes a line feed. -/
def unixEndings (cs : List Char) : List Char :=
  replaceText LineEnding.crlf.mark LineEnding.lf.mark cs

/-- The characters that end a line in a text that is only read. -/
def isLineBreak (c : Char) : Bool :=
  (10 ≤ c.toNat && c.toNat ≤ 13) || (28 ≤ c.toNat && c.toNat ≤ 30) ||
    c.toNat == 133 || c.toNat == 8232 || c.toNat == 8233

/-- The lines of a text, without what ends them; a carriage return with a line feed ends one line,
and a separator at the end opens no further line. -/
def lines : List Char → List (List Char)
  | [] => []
  | '\r' :: '\n' :: cs => [] :: lines cs
  | c :: cs => if isLineBreak c then [] :: lines cs else consFirst c (lines cs)

/-- Every line ending becomes a line feed, a carriage return alone included. -/
def universalNewlines : List Char → List Char
  | [] => []
  | '\r' :: '\n' :: cs => '\n' :: universalNewlines cs
  | '\r' :: cs => '\n' :: universalNewlines cs
  | c :: cs => c :: universalNewlines cs

end Mender.Text
