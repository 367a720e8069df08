import Mender.Files.Tree

/-!
# The files of a project

Text files below the root of a project. Line endings are kept as they are, so that writing back what
was read leaves every byte as it was.
-/

namespace Mender

/-- The root of a project as a path, and the directory it is seen from. -/
structure ProjectFiles where
  root : Path
  here : TreePlace
  deriving DecidableEq, Repr

namespace ProjectFiles

/-- The path of a file of the project. -/
def path (p : ProjectFiles) (file : String) : Path :=
  p.root.join (.ofText file)

/-- A name that a file can have, as none has a null character. -/
def checkName (name : String) : Except Failure String :=
  if name.toList.contains '\x00' then .error ⟨.value, "embedded null byte"⟩ else .ok name

/-- A fault at a path as a failure. -/
def failing {α : Type} (path : Path) : Except PathFault α → Except Failure α
  | .ok a => .ok a
  | .error f => .error (f.failure path)

/-- The text of a file. -/
def read (p : ProjectFiles) (t : FileTree) (file : String) : Except Failure String := do
  let path := p.path (← checkName file)
  Utf8.decode (← failing path (t.read p.here path))

/-- Writes the text of a file. -/
def write (p : ProjectFiles) (t : FileTree) (file text : String) : Except Failure FileTree := do
  let path := p.path (← checkName file)
  failing path (t.write p.here path (Utf8.encode text))

end ProjectFiles

end Mender
