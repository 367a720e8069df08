import Mender.Fault
import Mender.Number.Integer
import Mender.Pattern.Build

/-!
# A file named in free text

Text that no diagnostic pattern recognises may still name a source file. The first such file, with
its line if there is one, becomes a fault of its own.
-/

namespace Mender.Diagnostic

open Pattern

/-- The extensions by which a source file is recognised, in the order they are tried. -/
def sourceExtensions : List String :=
  ["ts", "js", "tsx", "jsx", "py", "rb", "go", "rs", "java", "c", "cpp"]

/-- A word that leads to a file, the file, and perhaps a line. -/
def fileReference : Pattern :=
  concat [firstOf [anyCase "at", anyCase "in", anyCase "file"], gap,
    group 1 (concat [many (fun c => !blank c && c != ':') 1, text ".",
      firstOf (sourceExtensions.map anyCase)]),
    opt (text ":"), opt (group 2 digits)]

/-- The length to which free text is cut for a message. -/
def messageLimit : Nat := 500

/-- The fault of the first file that a text names. -/
def referenceOf? (output : String) : Except Failure (Option Fault) :=
  (fileReference.search output.toList).mapM fun m => do
    let line ← match m.group? 2 with
      | some digits => Integer.read digits
      | none => pure 1
    return {
      kind := .unknown, severity := .medium
      message := String.ofList (output.toList.take messageLimit)
      location := Location.ofLine ((m.group? 1).getD "") line
      related := [], suspiciousness := 0.5, stackTrace := none, origin := .generic
      spectrumScore := none }

end Mender.Diagnostic
