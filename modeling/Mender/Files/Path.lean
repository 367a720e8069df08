import Mender.Text.Cut

/-!
# Paths

A path is a sequence of components below a root or below wherever it is used. Reading a path drops
empty components and single dots; a double dot stays, since it depends on the files.
-/

namespace Mender

/-- A path. -/
structure Path where
  /-- What a path that starts at the top is written with. -/
  root : String
  parts : List String
  deriving DecidableEq, Repr

namespace Path

/-- The root that a text starts with; exactly two slashes are kept. -/
def rootOf (cs : List Char) : String :=
  match (cs.takeWhile (· == '/')).length with
  | 0 => ""
  | 2 => "//"
  | _ => "/"

/-- Reads a path. -/
def ofText (s : String) : Path :=
  let parts := (Text.splitText ['/'] s.toList).map String.ofList
  ⟨rootOf s.toList, parts.filter fun p => p ≠ "" ∧ p ≠ "."⟩

/-- A path that starts at the top. -/
def isAbsolute (p : Path) : Bool :=
  !p.root.isEmpty

/-- Writes a path. -/
def text (p : Path) : String :=
  if p.root.isEmpty && p.parts.isEmpty then "."
  else p.root ++ Text.joined "/" p.parts

/-- A path used below another; one from the top replaces it. -/
def join (p q : Path) : Path :=
  if q.isAbsolute then q else ⟨p.root, p.parts ++ q.parts⟩

end Path

end Mender
