import Mender.Text.Blank
import Mender.Text.Cut
import Mender.Text.Word

/-!
# Fenced code

A block of code in a reply stands between two rows of three backticks; the first may carry a label
and ends its line. `codeBlock?` finds the first block of a text.
-/

namespace Mender.Fence

/-- The row that opens and closes a block. -/
def mark : List Char := ['`', '`', '`']

/-- A character of a label. -/
def inLabel (c : Char) : Bool :=
  Text.isWord c || c == '+' || c == '-'

/-- A blank inside a line. -/
def isSpace (c : Char) : Bool :=
  c == ' ' || c == '\t'

/-- What follows an opening row that starts here: the text after the end of its line. -/
def afterOpening? (cs : List Char) : Option (List Char) :=
  if mark.isPrefixOf cs then
    match ((cs.drop mark.length).dropWhile inLabel).dropWhile isSpace with
    | '\n' :: body => some body
    | _ => none
  else none

/-- The text before the next closing row. -/
def beforeClosing? (body : List Char) : Option (List Char) :=
  (Text.findText? mark body).map body.take

/-- Code without the line breaks around it and the blanks at its end. -/
def unwrapped (code : List Char) : List Char :=
  Text.trimEnd (Text.trimBy (· == '\n') code)

/-- The code of the first block at or after the start of a text. -/
def findBlock? : List Char → Option (List Char)
  | [] => none
  | c :: cs =>
    match (afterOpening? (c :: cs)).bind beforeClosing? with
    | some code => some code
    | none => findBlock? cs

/-- The code of a text that is one block from its start to its end, but for blanks. -/
def wholeBlock? (cs : List Char) : Option (List Char) := do
  let body ← afterOpening? cs
  let n ← Text.findText? mark body
  if (body.drop (n + mark.length)).all Text.isBlank then some (body.take n) else none

/-- The code of the first fenced block of a reply. A reply that is one block is read as such; to
look for a block in it finds the same. -/
def codeBlock? (reply : String) : Option String :=
  let text := Text.trim reply.toList
  ((wholeBlock? text).or (findBlock? text)).map fun code => String.ofList (unwrapped code)

/-- Code in a fence with a label. -/
def fenced (code label : String) : String :=
  let row := String.ofList mark
  s!"{row}{label}\n{code}\n{row}"

end Mender.Fence
