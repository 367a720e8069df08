import Mender.Learning.Digest
import Mender.Text.Blank
import Mender.Text.Digit
import Mender.Text.Lower
import Mender.Text.Word

/-!
# Error signatures

Two messages are the same error when they differ only in positions, in quoted paths and in the case
of letters. The signature of a message is a digest of what is left without them.
-/

namespace Mender.Signature

/-- The length of a position `:line:column` that starts here. -/
def positionLength? : List Char → Option Nat
  | ':' :: cs =>
    let line := cs.takeWhile Text.isDecimal
    match cs.dropWhile Text.isDecimal with
    | ':' :: rest =>
      let column := rest.takeWhile Text.isDecimal
      if line.isEmpty || column.isEmpty then none else some (line.length + column.length + 2)
    | _ => none
  | _ => none

/-- A quote of either sort. -/
def isQuote (c : Char) : Bool :=
  c == '\'' || c == '"'

/-- A character of a path. -/
def inPath (c : Char) : Bool :=
  Text.isWord c || c == '/' || c == '\\' || c == '.' || c == '-'

/-- The length of a path in quotes that starts here. -/
def quotedPathLength? : List Char → Option Nat
  | [] => none
  | c :: cs =>
    let path := cs.takeWhile inPath
    if isQuote c && !path.isEmpty && (cs.dropWhile inPath).head?.any isQuote then
      some (path.length + 2)
    else none

/-- Leaves out what a measure finds, when `skip` characters belong to the last find. -/
def withoutAfter (length? : List Char → Option Nat) : Nat → List Char → List Char
  | _, [] => []
  | skip + 1, _ :: cs => withoutAfter length? skip cs
  | 0, c :: cs =>
    match length? (c :: cs) with
    | some n => withoutAfter length? (n - 1) cs
    | none => c :: withoutAfter length? 0 cs

/-- Leaves out all that a measure finds. -/
def without (length? : List Char → Option Nat) (cs : List Char) : List Char :=
  withoutAfter length? 0 cs

/-- What is left of a message without positions, quoted paths and the case of letters. -/
def normalized (message : String) : String :=
  let kept := without quotedPathLength? (without positionLength? message.toList)
  Text.trimmed (Text.lower (String.ofList kept))

/-- The signature of a message. -/
def ofMessage (message : String) : String :=
  String.ofList ((Digest.ofText (normalized message)).toList.take 16)

end Mender.Signature
