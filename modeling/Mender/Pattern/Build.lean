import Mender.Pattern.Basic

/-!
# Building patterns

The words in which pattern tables are written: fixed texts, with or without regard to case, the
common classes, and sequences and choices of any number of patterns.
-/

namespace Mender.Pattern

/-- Patterns one after another. -/
def concat (ps : List Pattern) : Pattern :=
  ps.foldr seq empty

/-- The first of several patterns that leads to a match. -/
def firstOf : List Pattern → Pattern
  | [] => empty
  | [p] => p
  | p :: ps => alt p (firstOf ps)

/-- A fixed text. -/
def text (s : String) : Pattern :=
  concat (s.toList.map fun c => one (· == c))

/-- The same letter up to case. Four letters of other alphabets are forms of `i`, `s` and `k`. -/
def sameLetter (a x : Char) : Bool :=
  a == x || a.toLower == x.toLower ||
    (a.toLower == 'i' && (x == '\u0130' || x == '\u0131')) ||
    (a.toLower == 's' && x == '\u017f') || (a.toLower == 'k' && x == '\u212a')

/-- A fixed text in any case. -/
def anyCase (s : String) : Pattern :=
  concat (s.toList.map fun c => one (sameLetter c))

/-- One of the characters of a text. -/
def among (s : String) : CharClass :=
  fun c => s.toList.contains c

/-- Any character but those of a class. -/
def except (c : CharClass) : CharClass :=
  fun x => !c x

/-- A character of either class. -/
def orIn (c d : CharClass) : CharClass :=
  fun x => c x || d x

/-- Any character of a line. -/
def inLine : CharClass :=
  fun c => c != '\n'

/-- A blank. -/
def blank : CharClass := Text.isBlank

/-- Not a blank. -/
def solid : CharClass := except blank

/-- A decimal digit. -/
def digit : CharClass := Text.isDecimal

/-- A word character. -/
def word : CharClass := Text.isWord

/-- A letter of the ASCII alphabet, an underscore or a dollar: the start of a name in code. -/
def nameStart : CharClass :=
  fun c => c.isAlpha || c == '_' || c == '$'

/-- A character inside a name in code. -/
def nameRest : CharClass := orIn word (among "$")

/-- A name in code. -/
def name : Pattern := seq (one nameStart) (many nameRest 0)

/-- Blanks, perhaps none. -/
def blanks : Pattern := many blank 0

/-- Blanks, at least one. -/
def gap : Pattern := many blank 1

/-- Characters of the line, as many as possible. -/
def line : Pattern := many inLine 0

/-- Decimal digits. -/
def digits : Pattern := many digit 1

/-- A run of word characters. -/
def wordRun : Pattern := many word 1

/-- A quote that may be missing. -/
def quoteOpt : Pattern := opt (one (among "'\""))

end Mender.Pattern
