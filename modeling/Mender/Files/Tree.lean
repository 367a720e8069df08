import Mender.Files.Path
import Mender.Text.Utf8

/-!
# File trees

Files and directories in memory. Files are found by walking from a directory along the components of
a path; what can go wrong on the way is a `PathFault`.
-/

namespace Mender

/-- Why a file cannot be reached. -/
inductive PathFault where
  | notFound
  | isDirectory
  | notDirectory
  | nameTooLong
  | tooManyLinks
  deriving DecidableEq, Repr

namespace PathFault

/-- The number by which systems know the fault. -/
def number : PathFault → Nat
  | .notFound => 2
  | .isDirectory => 21
  | .notDirectory => 20
  | .nameTooLong => 36
  | .tooManyLinks => 40

/-- The fault in words. -/
def text : PathFault → String
  | .notFound => "No such file or directory"
  | .isDirectory => "Is a directory"
  | .notDirectory => "Not a directory"
  | .nameTooLong => "File name too long"
  | .tooManyLinks => "Too many levels of symbolic links"

/-- The kind of failure. -/
def kind : PathFault → Failure.Kind
  | .notFound => .notFound
  | .isDirectory => .isDirectory
  | .notDirectory => .notDirectory
  | .nameTooLong => .host
  | .tooManyLinks => .host

/-- The failure at a path. -/
def failure (f : PathFault) (path : Path) : Failure :=
  ⟨f.kind, s!"[Errno {f.number}] {f.text}: {Text.quoted path.text}"⟩

end PathFault

/-- A place in a tree, by its components from the top. -/
abbrev TreePlace := List String

/-- What a tree holds at a place. -/
inductive TreeEntry where
  | file (content : Utf8.Bytes)
  | directory
  deriving DecidableEq, Repr

/-- Files and directories by place; the top is always a directory. -/
structure FileTree where
  entries : List (TreePlace × TreeEntry) := []
  /-- Who may do what with a file, where that is not as usual. -/
  modes : List (TreePlace × Nat) := []
  /-- Links: the path that a name at a place stands for. -/
  links : List (TreePlace × String) := []
  deriving Repr

namespace FileTree

/-- What a tree holds at a place. -/
def entry? (t : FileTree) (place : TreePlace) : Option TreeEntry :=
  if place.isEmpty then some .directory else (t.entries.find? (·.1 = place)).map (·.2)

/-- Puts an entry at a place. -/
def putEntry (place : TreePlace) (e : TreeEntry) :
    List (TreePlace × TreeEntry) → List (TreePlace × TreeEntry)
  | [] => [(place, e)]
  | x :: xs => if x.1 = place then (place, e) :: xs else x :: putEntry place e xs

/-- The tree with an entry at a place. -/
def put (t : FileTree) (place : TreePlace) (e : TreeEntry) : FileTree :=
  { t with entries := putEntry place e t.entries }

/-- The tree without an entry and all below it. -/
def remove (t : FileTree) (place : TreePlace) : FileTree :=
  let kept {α : Type} (e : TreePlace × α) : Bool := !place.isPrefixOf e.1
  ⟨t.entries.filter kept, t.modes.filter kept, t.links.filter kept⟩

/-- The path that a link at a place stands for. -/
def link? (t : FileTree) (place : TreePlace) : Option String :=
  (t.links.find? (·.1 = place)).map (·.2)

/-- The tree with a link at a place. -/
def withLink (t : FileTree) (place : TreePlace) (path : String) : FileTree :=
  { t.remove place with links := (place, path) :: (t.remove place).links }

/-- Who may do what with a file: usually all may read it and its owner may write to it, and all may
search a directory. -/
def mode (t : FileTree) (place : TreePlace) : Nat :=
  match t.modes.find? (·.1 = place) with
  | some m => m.2
  | none => if t.entry? place = some .directory then 0o755 else 0o644

/-- The tree with the mode of a file set. -/
def withMode (t : FileTree) (place : TreePlace) (mode : Nat) : FileTree :=
  { t with modes := (place, mode) :: t.modes.filter (·.1 ≠ place) }

/-- The tree with an entry and all below it at another place. -/
def moved (t : FileTree) (place target : TreePlace) : FileTree :=
  let rename {α : Type} (e : TreePlace × α) : TreePlace × α :=
    if place.isPrefixOf e.1 then (target ++ e.1.drop place.length, e.2) else e
  let t := t.remove target
  ⟨t.entries.map rename, t.modes.map rename, t.links.map rename⟩

/-- The tree with a directory and all above it. -/
def withDirectory (t : FileTree) (place : TreePlace) : FileTree :=
  ((List.range (place.length + 1)).map place.take).foldl
    (fun t p => if (t.entry? p).isSome then t else t.put p .directory) t

/-- The tree with a file and all directories above it. -/
def withFile (t : FileTree) (place : TreePlace) (content : Utf8.Bytes) : FileTree :=
  (t.withDirectory place.dropLast).put place (.file content)

/-- The longest name that a component may have, in bytes. -/
def longestName : Nat := 255

/-- Walks from a directory along components. All but the last have to be directories. -/
def walk (t : FileTree) : TreePlace → List String → Except PathFault TreePlace
  | here, [] => .ok here
  | here, name :: rest =>
    if longestName < name.utf8ByteSize then .error .nameTooLong
    else
      let place := if name = ".." then here.dropLast else here ++ [name]
      if rest.isEmpty then .ok place
      else
        match t.entry? place with
        | some .directory => walk t place rest
        | some (.file _) => .error .notDirectory
        | none => .error .notFound

/-- The place of a path as seen from a directory. -/
def resolve (t : FileTree) (here : TreePlace) (path : Path) : Except PathFault TreePlace :=
  t.walk (if path.isAbsolute then [] else here) path.parts

/-- The content of the file at a path. -/
def read (t : FileTree) (here : TreePlace) (path : Path) : Except PathFault Utf8.Bytes := do
  match t.entry? (← t.resolve here path) with
  | some (.file content) => return content
  | some .directory => .error .isDirectory
  | none => .error .notFound

/-- The place where a file at a path can be written. -/
def target (t : FileTree) (here : TreePlace) (path : Path) : Except PathFault TreePlace := do
  let place ← t.resolve here path
  match t.entry? place with
  | some .directory => .error .isDirectory
  | _ => return place

/-- Writes the file at a path. -/
def write (t : FileTree) (here : TreePlace) (path : Path) (content : Utf8.Bytes) :
    Except PathFault FileTree := do
  return t.put (← t.target here path) (.file content)

/-- There is a directory at a path. -/
def isDirectory (t : FileTree) (here : TreePlace) (path : Path) : Bool :=
  match t.resolve here path with
  | .ok place => t.entry? place = some .directory
  | .error _ => false

/-- The names in a directory, in order. -/
def names (t : FileTree) (place : TreePlace) : List String :=
  let inside (p : TreePlace) : Option String :=
    if p.dropLast = place then p.getLast? else none
  let below := t.entries.filterMap (inside ·.1) ++ t.links.filterMap (inside ·.1)
  below.mergeSort (· ≤ ·)

/-- The files below a place that another tree does not have so, by their names below the place. -/
def changedSince (t before : FileTree) (place : TreePlace) : List (String × Utf8.Bytes) :=
  t.entries.filterMap fun e =>
    match e.2 with
    | .file content =>
      if !place.isPrefixOf e.1 || before.entry? e.1 = some e.2 then none
      else some (Text.joined "/" (e.1.drop place.length), content)
    | .directory => none

end FileTree

end Mender
