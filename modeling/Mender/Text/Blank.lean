/-!
# Blank characters

Blanks separate words and are trimmed from the ends of lines. Like other character classes beyond
ASCII they are a table of ranges of code points, searched in order.
-/

namespace Mender.Text

/-- The code point of a character lies in one of the ranges, ends included. -/
def inRanges (table : List (Nat × Nat)) (c : Char) : Bool :=
  table.any fun range => range.1 ≤ c.toNat && c.toNat ≤ range.2

/-- Blank characters, by code point. -/
def blankRanges : List (Nat × Nat) :=
  [(9, 13), (28, 32), (133, 133), (160, 160), (5760, 5760), (8192, 8202), (8232, 8233),
   (8239, 8239), (8287, 8287), (12288, 12288)]

/-- A character that leaves white space on the page. -/
def isBlank (c : Char) : Bool :=
  inRanges blankRanges c

/-- Drops the characters of a class at the end. -/
def dropEndWhile (p : Char → Bool) (cs : List Char) : List Char :=
  (cs.reverse.dropWhile p).reverse

/-- Drops the blanks at the end. -/
def trimEnd (cs : List Char) : List Char :=
  dropEndWhile isBlank cs

/-- Drops the characters of a class at both ends. -/
def trimBy (p : Char → Bool) (cs : List Char) : List Char :=
  dropEndWhile p (cs.dropWhile p)

/-- Drops the blanks at both ends. -/
def trim (cs : List Char) : List Char :=
  trimBy isBlank cs

/-- A text of blanks only, or none at all. -/
def isBlankText (s : String) : Bool :=
  s.toList.all isBlank

/-- Drops the blanks at both ends of a text. -/
def trimmed (s : String) : String :=
  String.ofList (trim s.toList)

end Mender.Text
