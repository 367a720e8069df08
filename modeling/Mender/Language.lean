import Mender.Text.Cut
import Mender.Text.Lower

/-!
# Source languages

The language of a file is told by the extension of its name.
-/

namespace Mender

/-- The last component of a path; empty and single-dot components do not count. -/
def fileName (path : String) : List Char :=
  ((Text.splitText ['/'] path.toList).filter fun part => part ≠ [] ∧ part ≠ ['.']).getLastD []

/-- The extension of a file name with its dot. A dot at either end of the name starts none. -/
def extension (path : String) : List Char :=
  let name := fileName path
  let tail := Text.afterLast '.' name
  if tail = [] ∨ name.length ≤ tail.length + 1 then [] else '.' :: tail

/-- Extensions and their languages. -/
def languageTable : List (String × String) :=
  [(".py", "python"), (".pyi", "python"), (".ts", "typescript"), (".tsx", "typescript"),
   (".js", "javascript"), (".jsx", "javascript"), (".mjs", "javascript"), (".rb", "ruby"),
   (".go", "go"), (".rs", "rust"), (".java", "java"), (".c", "c"), (".h", "c"), (".cpp", "cpp"),
   (".cc", "cpp"), (".hpp", "cpp"), (".cs", "csharp"), (".sh", "shell")]

/-- The language of a file, `text` when its extension is not known. -/
def languageOf (path : String) : String :=
  let lowered := Text.lower (String.ofList (extension path))
  ((languageTable.find? (·.1 = lowered)).map (·.2)).getD "text"

/-- The bare extension of a file in lower case. -/
def fileType (path : String) : String :=
  match extension path with
  | [] => "unknown"
  | _ :: tail => Text.lower (String.ofList tail)

/-- The languages that run on a JavaScript engine. -/
def isScriptLanguage (language : String) : Bool :=
  language = "javascript" || language = "typescript"

end Mender
