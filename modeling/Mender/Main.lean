import Mender.CommandLine.Run
import Mender.Shell.Command

/-!
# The program

Carries out a call on the files below the working directory: they are loaded into a tree, the call
changes the tree, and what it changed is written back. Hidden files are left alone. Commands are run
on the tree, by a stand-in for the shell. Without a message service the strategies alone offer
candidates.
-/

namespace Mender.Program

open CommandLine (Desk)

/-- Adds what is in a directory to a tree. -/
partial def load (t : FileTree) (place : TreePlace) (entries : Array IO.FS.DirEntry) :
    IO FileTree :=
  entries.foldlM
    (fun t e => do
      let inside := place ++ [e.fileName]
      if e.fileName.startsWith "." then return t
      match (← e.path.symlinkMetadata).type with
      | .dir => load (t.withDirectory inside) inside (← e.path.readDir)
      | .file => return t.withFile inside (← IO.FS.readBinFile e.path).toList
      | _ => return t)
    t

/-- A place as a path of the system. -/
def pathOf (place : TreePlace) : String :=
  "/" ++ Text.joined "/" place

/-- Writes back an entry that a call made or changed. -/
def save (before : FileTree) (place : TreePlace) (e : TreeEntry) : IO Unit := do
  if before.entry? place != some e then
    match e with
    | .directory => IO.FS.createDirAll (pathOf place)
    | .file content => IO.FS.writeBinFile (pathOf place) ⟨content.toArray⟩

/-- Removes a file that a call removed. -/
def drop (after : FileTree) (place : TreePlace) (e : TreeEntry) : IO Unit := do
  if e != .directory && (after.entry? place).isNone then
    IO.FS.removeFile (pathOf place)

/-- Writes back what a call changed. -/
def saveAll (before after : FileTree) : IO Unit := do
  for (place, e) in after.entries do
    save before place e
  for (place, e) in before.entries do
    drop after place e

/-- Tells how a call ended. -/
def finish : CommandLine.Exit → IO UInt32
  | .status n => return UInt32.ofNat n
  | .misuse m => do
    IO.eprintln s!"mender: error: {m.text}"
    return 2
  | .failed f => do
    IO.eprintln f.described
    return 1

end Mender.Program

open Mender in
/-- Carries out a call. -/
def main (arguments : List String) : IO UInt32 := do
  let directory ← IO.currentDir
  let here := (Path.ofText directory.toString).parts
  let tree ← Program.load (({} : FileTree).withDirectory here) here (← directory.readDir)
  let desk : CommandLine.Desk := { tree, here, commands := Shell.commands, service := none }
  let (ended, after) := (CommandLine.run arguments).run desk
  Program.saveAll tree after.tree
  IO.print after.output
  Program.finish ended
