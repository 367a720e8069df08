import Mender.Patch.Edit
import Mender.Proofs.Keyed

/-!
# What patches do to files

`FileStore.patched?` is the effect of a patch, said without the order in which its files are read
and written: every file that it touches holds its text after the changes for it, and all other files
are as they were. There is no effect when a file is missing or the changes for it do not fit.
-/

namespace Mender

/-- The text of each path at which there is a file. -/
abbrev FileStore := String → Option String

namespace Patch

/-- The changes of a patch for one file. -/
def changesFor (p : Patch) (path : String) : List Change :=
  p.changes.filter (·.file = path)

/-- The text of a file after a patch, if the file is there and the changes for it fit. -/
def textAfter? (p : Patch) (files : FileStore) (path : String) : Option String :=
  (files path).bind fun text => (Edit.apply text (p.changesFor path)).toOption

theorem text_after_eq_some_iff {p : Patch} {files : FileStore} {path after : String} :
    p.textAfter? files path = some after ↔
      ∃ before, files path = some before ∧ Edit.apply before (p.changesFor path) = .ok after := by
  simp only [textAfter?, Option.bind_eq_some_iff]
  constructor
  · rintro ⟨before, hbefore, hafter⟩
    cases he : Edit.apply before (p.changesFor path) with
    | error fault => simp [he, Except.toOption] at hafter
    | ok text => exact ⟨before, hbefore, by simpa [he, Except.toOption] using hafter⟩
  · rintro ⟨before, hbefore, hafter⟩
    exact ⟨before, hbefore, by rw [hafter]; rfl⟩

/-- The patch has been validated and accepted. -/
def accepted (p : Patch) : Bool :=
  p.validated && p.results.any (·.accepted)

@[simp] theorem with_outcome_results (p : Patch) (o : Outcome) :
    (p.withOutcome o).results = some o :=
  rfl

@[simp] theorem with_outcome_validated (p : Patch) (o : Outcome) :
    (p.withOutcome o).validated = true :=
  rfl

/-- A patch touches each of its files once, however many changes it has for it. -/
theorem files_nodup (p : Patch) : p.files.Nodup :=
  Keyed.nodup_erase_dups _

end Patch

/-- The files after a patch, if every file that it touches is there and its changes fit. -/
def FileStore.patched? (files : FileStore) (p : Patch) : Option FileStore :=
  if ∀ path ∈ p.files, (p.textAfter? files path).isSome then
    some fun path => if path ∈ p.files then p.textAfter? files path else files path
  else none

namespace FileStore

variable {files after : FileStore} {p : Patch}

/-- The effect of a patch, file by file. -/
theorem patched_eq_some_iff :
    files.patched? p = some after ↔
      (∀ path ∈ p.files, ∃ text, p.textAfter? files path = some text ∧ after path = some text) ∧
      ∀ path ∉ p.files, after path = files path := by
  unfold patched?
  constructor
  · intro h
    split at h
    · rename_i hfits
      obtain rfl := Option.some.inj h
      refine ⟨fun path hpath => ?_, fun path hpath => by simp [hpath]⟩
      obtain ⟨text, htext⟩ := Option.isSome_iff_exists.mp (hfits path hpath)
      exact ⟨text, htext, by simp [hpath, htext]⟩
    · cases h
  · rintro ⟨htouched, hothers⟩
    have hfits : ∀ path ∈ p.files, (p.textAfter? files path).isSome := by
      intro path hpath
      obtain ⟨text, htext, _⟩ := htouched path hpath
      simp [htext]
    rw [if_pos hfits]
    congr 1
    funext path
    by_cases hpath : path ∈ p.files
    · obtain ⟨text, htext, hafter⟩ := htouched path hpath
      simp [hpath, htext, hafter]
    · simp [hpath, hothers path hpath]

/-- A patch leaves the files alone that it does not touch. -/
theorem patched_frame (h : files.patched? p = some after) {path : String} (hpath : path ∉ p.files) :
    after path = files path :=
  (patched_eq_some_iff.mp h).2 path hpath

end FileStore

end Mender
