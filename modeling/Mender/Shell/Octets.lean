import Mender.Text.Utf8

/-!
# Texts of bytes

Shells and programs count and compare bytes. Their texts have one character below 256 for each byte;
such a text becomes bytes, and text in the usual sense, only where it leaves them.
-/

namespace Mender

/-- A text with one character for each byte. -/
abbrev Octets := String

namespace Octets

/-- The text of bytes. -/
def ofBytes (bs : Utf8.Bytes) : Octets :=
  String.ofList (bs.map fun b => Char.ofNat b.toNat)

/-- The bytes of a text. -/
def toBytes (s : Octets) : Utf8.Bytes :=
  s.toList.map fun c => UInt8.ofNat c.toNat

/-- The bytes that write a text, as characters. -/
def ofText (s : String) : Octets :=
  ofBytes (Utf8.encode s)

/-- What bytes write, with a mark for what they do not. -/
def toText (s : Octets) : String :=
  Utf8.decodeLossy (toBytes s)

/-- Texts, each with a line feed behind it. -/
def lines (ss : List Octets) : Octets :=
  String.join (ss.map (· ++ "\n"))

/-- The pieces of a text that a character ends, each with that character; the last may lack it. -/
def endedPieces (stop : Char) (cs : List Char) : List (List Char) :=
  let (current, done) := cs.foldl
    (fun ((current : List Char), (done : List (List Char))) c =>
      if c = stop then ([], (c :: current).reverse :: done) else (c :: current, done))
    ([], [])
  (if current.isEmpty then done else current.reverse :: done).reverse

/-- The pieces of a text that a character ends, without that character. -/
def pieces (stop : Char) (cs : List Char) : List (List Char) :=
  let (current, done) := cs.foldl
    (fun ((current : List Char), (done : List (List Char))) c =>
      if c = stop then ([], current.reverse :: done) else (c :: current, done))
    ([], [])
  (if current.isEmpty then done else current.reverse :: done).reverse

/-- The lines of a text, each with its line feed. -/
def fullLines (cs : List Char) : List (List Char) :=
  endedPieces '\n' cs

/-- The lines of a text, without their line feeds. A line feed at the end ends the last line. -/
def toLines (s : Octets) : List Octets :=
  (pieces '\n' s.toList).map String.ofList

/-- Starts a name. -/
def startsName (c : Char) : Bool :=
  c.isAlpha || c == '_'

/-- May stand in a name. -/
def inName (c : Char) : Bool :=
  c.isAlphanum || c == '_'

/-- A name: letters, digits and underscores, no digit first. -/
def isName (cs : List Char) : Bool :=
  match cs with
  | [] => false
  | c :: rest => startsName c && rest.all inName

/-- A blank, a tab, a line feed or one of its kin. -/
def isSpace (c : Char) : Bool :=
  c == ' ' || (9 ≤ c.toNat && c.toNat ≤ 13)

/-- All characters are digits and there is one. -/
def isNumber (s : Octets) : Bool :=
  !s.isEmpty && s.toList.all Char.isDigit

/-- The value of decimal digits. -/
def value (cs : List Char) : Nat :=
  cs.foldl (fun n c => 10 * n + (c.toNat - 48)) 0

end Octets

end Mender
