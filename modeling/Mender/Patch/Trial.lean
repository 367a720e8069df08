import Mender.Host.Basic
import Mender.Patch.Edit

/-!
# Trials

A trial applies a patch for the duration of a block. Every file is remembered before it is written,
and unless the block commits, what was remembered is written back however the block ends.
-/

namespace Mender

/-- The files of a project, which can be read and written. -/
structure FileAccess (m : Type → Type) where
  read : Reader m
  write : Writer m

/-- A file and its text before a trial. -/
abbrev Snapshots := List (String × String)

namespace FileAccess

variable {m : Type → Type} [Monad m]

/-- Reads a file for a patch; a file that cannot be read fails the patch. -/
def readFor (files : FileAccess m) (path : String) : m (Except Failure String) := do
  match ← files.read path with
  | .ok text => return .ok text
  | .error f =>
    return .error (if f.isUnreadable then patchFailure path s!"read failed: {f.message}" else f)

/-- Writes a file for a patch; a file that cannot be written fails the patch. -/
def writeFor (files : FileAccess m) (path text : String) : m (Except Failure Unit) := do
  match ← files.write path text with
  | .ok () => return .ok ()
  | .error f =>
    return .error (if f.kind.isHost then patchFailure path s!"write failed: {f.message}" else f)

/-- Patches files one by one and remembers each as soon as it has been read. -/
def applyTo (files : FileAccess m) (changes : List Change) :
    List String → Snapshots → m (Snapshots × Except Failure Unit)
  | [], taken => return (taken, .ok ())
  | path :: paths, taken => do
    match ← files.readFor path with
    | .error f => return (taken, .error f)
    | .ok before =>
      let taken := taken ++ [(path, before)]
      match Edit.apply before (changes.filter (·.file = path)) with
      | .error fault => return (taken, .error fault.failure)
      | .ok patched =>
        match ← files.writeFor path patched with
        | .error f => return (taken, .error f)
        | .ok () => applyTo files changes paths taken

/-- Writes back what was remembered, every file in turn, and reports the first failure. -/
def restore (files : FileAccess m) : Snapshots → m (Except Failure Unit)
  | [] => return .ok ()
  | (path, before) :: rest => do
    let here ← files.write path before
    let others ← restore files rest
    return match here with
      | .error f => .error f
      | .ok () => others

/-- Runs a block on the patched files. The block tells whether it commits and how it ends. -/
def trial {α : Type} (files : FileAccess m) (p : Patch) (block : m (Bool × Except Failure α)) :
    m (Except Failure α) := do
  let (taken, applied) ← files.applyTo p.changes p.files []
  let (committed, ended) ← match applied with
    | .error f => pure (false, .error f)
    | .ok () => block
  if committed then
    return ended
  else
    match ← files.restore taken with
    | .error f => return .error f
    | .ok () => return ended

end FileAccess

end Mender
