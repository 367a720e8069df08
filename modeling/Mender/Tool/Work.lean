import Mender.Tool.Basic

/-!
# Work on files

A tool that changes files does so step by step: each step sees what the steps before it have left,
may say something and may fail without ending the work.
-/

namespace Mender

/-- How far a tool has come. -/
structure Work where
  scene : Scene
  /-- What was printed, in reverse. -/
  printed : List (Nat × Octets) := []
  status : Nat := 0

/-- A step of a tool. -/
abbrev Working := StateM Work

namespace Working

/-- Prints a line. -/
def say (s : Octets) : Working Unit :=
  modify fun w => { w with printed := (1, s ++ "\n") :: w.printed }

/-- Prints a complaint; the status tells of it. -/
def complain (s : Octets) : Working Unit :=
  modify fun w => { w with printed := (2, s ++ "\n") :: w.printed, status := 1 }

/-- The files. -/
def files : Working FileTree := do
  return (← get).scene.machine.tree

/-- Changes the files. -/
def change (f : FileTree → FileTree) : Working Unit :=
  modify fun w => { w with scene := w.scene.withTree (f w.scene.machine.tree) }

/-- The place that a name leads to. -/
def place (name : Octets) : Working (Except PathFault TreePlace) := do
  let s := (← get).scene
  return s.machine.locate s.here name

/-- The place that a name leads to, where a link at its end is not followed. -/
def placeItself (name : Octets) : Working (Except PathFault TreePlace) := do
  let s := (← get).scene
  return s.machine.locateItself s.here name

/-- What is at a place. -/
def node (p : TreePlace) : Working (Option Shell.Node) := do
  return (← get).scene.machine.node? p

/-- What a name leads to, with its place. -/
def find (name : Octets) : Working (Except PathFault (TreePlace × Shell.Node)) := do
  return (← get).scene.find name

/-- What a name leads to, with its place, where a link at its end is not followed. -/
def findItself (name : Octets) : Working (Except PathFault (TreePlace × Shell.Node)) := do
  let s := (← get).scene
  return s.machine.findItself s.here name

/-- Puts something at a place, with what others than the system allow. -/
def put (p : TreePlace) (e : TreeEntry) (mode : Nat) : Working Unit := do
  change fun t =>
    let t := t.put p e
    if t.mode p = mode then t else t.withMode p mode

/-- The permissions of a new file or directory. -/
def newMode (base : Nat) : Working Nat := do
  return base - Nat.land base (← get).scene.umask

/-- What was done in the end. -/
def run (w : Working Unit) (scene : Scene) : Ran :=
  let (_, done) := w { scene }
  { printed := done.printed.reverse, status := done.status
    tree := some done.scene.machine.tree }

end Working

namespace FileName

/-- A name without the slashes at its end. -/
def withoutSlashes (name : Octets) : Octets :=
  match name.toList.reverse.dropWhile (· == '/') with
  | [] => if name.isEmpty then "" else "/"
  | cs => String.ofList cs.reverse

/-- The last component of a name. -/
def base (name : Octets) : Octets :=
  let name := withoutSlashes name
  if name = "/" then name else String.ofList (Text.afterLast '/' name.toList)

/-- The directory of a name. -/
def directory (name : Octets) : Octets :=
  let cs := (withoutSlashes name).toList
  let lead := (cs.reverse.dropWhile (· != '/')).dropWhile (· == '/')
  if !cs.contains '/' then "."
  else if lead.isEmpty then "/"
  else String.ofList lead.reverse

/-- A name in a directory. -/
def join (directory name : Octets) : Octets :=
  if directory.endsWith "/" then directory ++ name else directory ++ "/" ++ name

end FileName

end Mender
