import Mathlib.Data.Set.Defs
import Mender.Proofs.Patch.Trial

/-!
# Trials with locked files

A crew locks paths when every write to them fails and every other write succeeds; a crew whose
writes all succeed locks none. Putting back what a trial remembered then gives the files back as
they were, but it fails itself when a locked file was remembered. `Patch.Stuck` says when one is.
-/

namespace Mender

/-- Among files that a patch is applied to in turn, a locked one that is there comes before any that
is missing or that the changes do not fit. -/
def Patch.Stuck (p : Patch) (locked : Set String) (files : FileStore) (paths : List String) :
    Prop :=
  ∃ done path rest, paths = done ++ path :: rest ∧
    (∀ other ∈ done, other ∉ locked ∧ (p.textAfter? files other).isSome) ∧
    path ∈ locked ∧ (files path).isSome

namespace Patch

variable {p : Patch} {locked : Set String} {files files' : FileStore}

theorem not_stuck_nil : ¬p.Stuck locked files [] := by
  rintro ⟨done, path, rest, heq, _⟩
  simp at heq

/-- Whether a patch gets stuck is decided file by file. -/
theorem stuck_cons_iff {path : String} {paths : List String} :
    p.Stuck locked files (path :: paths) ↔
      (path ∈ locked ∧ (files path).isSome) ∨
        (path ∉ locked ∧ (p.textAfter? files path).isSome ∧ p.Stuck locked files paths) := by
  constructor
  · rintro ⟨_ | ⟨first, done⟩, other, rest, heq, hdone, hlocked, hthere⟩
    · cases heq
      exact .inl ⟨hlocked, hthere⟩
    · cases heq
      obtain ⟨hfirst, hfits⟩ := hdone path List.mem_cons_self
      exact .inr ⟨hfirst, hfits, done, other, rest, rfl,
        fun q hq => hdone q (List.mem_cons_of_mem _ hq), hlocked, hthere⟩
  · rintro (⟨hlocked, hthere⟩ | ⟨hfirst, hfits, done, other, rest, rfl, hdone, hlocked, hthere⟩)
    · exact ⟨[], path, paths, rfl, by simp, hlocked, hthere⟩
    · refine ⟨path :: done, other, rest, rfl, ?_, hlocked, hthere⟩
      rintro q (_ | ⟨_, hq⟩)
      · exact ⟨hfirst, hfits⟩
      · exact hdone q hq

/-- Only the files that a patch is applied to bear on whether it gets stuck. -/
theorem Stuck.congr {paths : List String} (hsame : ∀ path ∈ paths, files path = files' path)
    (h : p.Stuck locked files paths) : p.Stuck locked files' paths := by
  obtain ⟨done, path, rest, rfl, hdone, hlocked, hthere⟩ := h
  refine ⟨done, path, rest, rfl, fun other hother => ?_, hlocked, ?_⟩
  · have hfile := hsame other (List.mem_append_left _ hother)
    simpa only [textAfter?, hfile] using hdone other hother
  · rwa [← hsame path (by simp)]

end Patch

namespace Crew

open FileAccess Site

/-- Writes to the paths of a set always fail, and all others succeed. -/
structure Locks {E : Type} (c : Crew E) (locked : Set String) : Prop where
  fails : ∀ path ∈ locked, ∀ text s, ∃ f, (c.writeFault path text s).1 = some f ∧ f.kind.isHost
  succeeds : ∀ path ∉ locked, ∀ text s, (c.writeFault path text s).1 = none

/-- No read of a file that is there ever fails. -/
def ReadsSucceed {E : Type} (c : Crew E) : Prop :=
  ∀ path s, (c.readFault path s).1 = none

variable {E : Type} {c : Crew E} {locked : Set String}

theorem WritesSucceed.locks (h : c.WritesSucceed) : c.Locks ∅ :=
  ⟨fun _ hpath => False.elim hpath, fun path _ text s => h path text s⟩

/-- Writing to a locked path fails. -/
theorem Locks.write_error (hlocks : c.Locks locked) {path : String} (hpath : path ∈ locked)
    (text : String) (s : Site E) :
    ∃ f, (c.write path text s).1 = .error f ∧ f.kind.isHost := by
  obtain ⟨f, hfault, hkind⟩ := hlocks.fails path hpath text s
  unfold write
  rcases hw : c.writeFault path text s with ⟨_ | f', rest⟩
  · simp [hw] at hfault
  · rw [hw] at hfault
    exact ⟨f', rfl, Option.some.inj hfault ▸ hkind⟩

/-- Writing to any other path succeeds. -/
theorem Locks.write_ok (hlocks : c.Locks locked) {path : String} (hpath : path ∉ locked)
    (text : String) (s : Site E) : (c.write path text s).1 = .ok () := by
  have hfault := hlocks.succeeds path hpath text s
  unfold write
  rcases hw : c.writeFault path text s with ⟨_ | f, rest⟩
  · rfl
  · simp [hw] at hfault

/-- A write for a patch fails exactly at locked paths, and then fails the patch. -/
theorem Locks.write_for (hlocks : c.Locks locked) {path text : String}
    {ended : Except Failure Unit} {s s' : Site E}
    (h : c.files.writeFor path text s = (ended, s')) :
    (ended = .ok () ∧ path ∉ locked) ∨
      (∃ f, ended = .error f ∧ f.kind = .patch ∧ path ∈ locked) := by
  rw [writeFor, run_bind, c.files_write] at h
  by_cases hpath : path ∈ locked
  · obtain ⟨f, herror, hkind⟩ := hlocks.write_error hpath text s
    simp only [herror, hkind, if_true] at h
    cases h
    exact .inr ⟨_, rfl, rfl, hpath⟩
  · simp only [hlocks.write_ok hpath text s] at h
    cases h
    exact .inl ⟨rfl, hpath⟩

/-- When reads succeed, a file that cannot be read for a patch is missing. -/
theorem ReadsSucceed.read_for_error (hreads : c.ReadsSucceed) {path : String} {f : Failure}
    {s s' : Site E} (h : c.files.readFor path s = (.error f, s')) :
    s.files path = none ∧ f.kind = .patch := by
  have hfault := hreads path s
  rw [readFor, run_bind, c.files_read] at h
  cases hfile : s.files path with
  | none =>
      simp only [read, hfault, hfile] at h
      cases h
      exact ⟨rfl, rfl⟩
  | some text =>
      simp only [read, hfault, hfile] at h
      cases h

section Applying

variable {p : Patch} {paths : List String} {s s' : Site E} {taken : Snapshots}
  {ended : Except Failure Unit}

/-- A locked file is as it was, however far patching gets. -/
theorem Locks.applies_same (hlocks : c.Locks locked)
    (h : Applies c.files p.changes paths s taken ended s') {path : String} (hpath : path ∈ locked) :
    s'.files path = s.files path := by
  induction h with
  | done => rfl
  | unread hread | unfit hread _ => exact congrFun (read_for_step hread).1.files path
  | unwritten hread _ hwrite =>
      obtain ⟨result, hwrote, hok⟩ := write_for_step hwrite
      have hfailed : result ≠ .ok () := fun heq => by cases hok.mpr heq
      exact congrFun ((hwrote.files_failed hfailed).trans (read_for_step hread).1.files) path
  | @written first _ _ _ _ _ _ _ _ _ hread _ hwrite _ ih =>
      obtain ⟨_, hwrote, _⟩ := write_for_step hwrite
      obtain ⟨_, hfirst⟩ | ⟨_, hended, _⟩ := hlocks.write_for hwrite
      · have hne : path ≠ first := fun heq => hfirst (heq ▸ hpath)
        exact ih.trans (((read_for_step hread).1.unwritten path).trans (hwrote.same_at hne)).files
      · cases hended

/-- When patching comes to its end, no file is locked. -/
theorem Locks.applies_unlocked (hlocks : c.Locks locked)
    (h : Applies c.files p.changes paths s taken ended s') (hended : ended = .ok ()) :
    ∀ path ∈ paths, path ∉ locked := by
  induction h with
  | done => simp
  | unread | unfit | unwritten => cases hended
  | written _ _ hwrite _ ih =>
      obtain ⟨_, hfirst⟩ | ⟨_, hfailed, _⟩ := hlocks.write_for hwrite
      · exact List.forall_mem_cons.mpr ⟨hfirst, ih hended⟩
      · cases hfailed

/-- When patching fails although reads succeed, it is the patch that fails. -/
theorem Locks.applies_error (hlocks : c.Locks locked) (hreads : c.ReadsSucceed)
    (h : Applies c.files p.changes paths s taken ended s') {f : Failure}
    (hended : ended = .error f) : f.kind = .patch := by
  induction h with
  | done => cases hended
  | unread hread =>
      cases hended
      exact (hreads.read_for_error hread).2
  | @unfit _ _ _ _ _ fault _ _ =>
      cases hended
      cases fault <;> rfl
  | unwritten _ _ hwrite =>
      obtain ⟨hok, _⟩ | ⟨f', herror, hkind, _⟩ := hlocks.write_for hwrite
      · cases hok
      · cases herror
        cases hended
        exact hkind
  | written _ _ _ _ ih => exact ih hended

/-- A locked file is remembered exactly when patching gets stuck on one. -/
theorem Locks.taken_locked_iff (hlocks : c.Locks locked) (hreads : c.ReadsSucceed)
    (h : Applies c.files p.changes paths s taken ended s') (hnodup : paths.Nodup) :
    (∃ snapshot ∈ taken, snapshot.1 ∈ locked) ↔ p.Stuck locked s.files paths := by
  induction h with
  | done => simp [Patch.not_stuck_nil]
  | unread hread =>
      obtain ⟨hmissing, _⟩ := hreads.read_for_error hread
      simp [Patch.stuck_cons_iff, Patch.textAfter?, hmissing]
  | unfit hread hedit =>
      have hbefore := (read_for_step hread).2 _ rfl
      simp [Patch.stuck_cons_iff, Patch.textAfter?, Patch.changesFor, hbefore, hedit,
        Except.toOption]
  | unwritten hread _ hwrite =>
      have hbefore := (read_for_step hread).2 _ rfl
      obtain ⟨hok, _⟩ | ⟨_, _, _, hpath⟩ := hlocks.write_for hwrite
      · cases hok
      · simp [Patch.stuck_cons_iff, hbefore, hpath]
  | @written first paths s s₁ s₂ s₃ before after taken ended hread hedit hwrite hrest ih =>
      obtain ⟨hkeeps, hbefore⟩ := read_for_step hread
      obtain ⟨_, hwrote, _⟩ := write_for_step hwrite
      obtain ⟨hfirst, hpaths⟩ := List.nodup_cons.mp hnodup
      obtain ⟨_, hfree⟩ | ⟨_, hfailed, _⟩ := hlocks.write_for hwrite
      · -- the files still to come are as they were, so being stuck among them is the same
        have hsame : ∀ path ∈ paths, s₂.files path = s.files path := fun path hpath =>
          ((hkeeps.unwritten path).trans (hwrote.same_at fun heq => hfirst (heq ▸ hpath))).files
        have hstuck : p.Stuck locked s₂.files paths ↔ p.Stuck locked s.files paths :=
          ⟨Patch.Stuck.congr hsame, Patch.Stuck.congr fun path hpath => (hsame path hpath).symm⟩
        have hfits : (p.textAfter? s.files first).isSome := by
          simp [Patch.text_after_eq_some_iff.mpr ⟨before, hbefore _ rfl, hedit⟩]
        simp [Patch.stuck_cons_iff, hfree, hfits, ih hpaths, hstuck]
      · cases hfailed

end Applying

/-- Putting files back fails exactly when a locked one is among them. -/
theorem Locks.restore_result (hlocks : c.Locks locked) (taken : Snapshots) (s : Site E) :
    ((c.files.restore taken s).1 = .ok () ∧ ∀ snapshot ∈ taken, snapshot.1 ∉ locked) ∨
      ((∃ f, (c.files.restore taken s).1 = .error f ∧ f.kind.isHost) ∧
        ∃ snapshot ∈ taken, snapshot.1 ∈ locked) := by
  induction taken generalizing s with
  | nil => exact .inl ⟨rfl, by simp⟩
  | cons snapshot taken ih =>
      rw [restore, run_bind, c.files_write]
      by_cases hpath : snapshot.1 ∈ locked
      · obtain ⟨f, herror, hkind⟩ := hlocks.write_error hpath snapshot.2 s
        refine .inr ⟨⟨f, ?_, hkind⟩, snapshot, List.mem_cons_self, hpath⟩
        rw [herror]
        rfl
      · rw [hlocks.write_ok hpath snapshot.2 s]
        rcases ih (c.write snapshot.1 snapshot.2 s).2 with ⟨hok, hfree⟩ | ⟨herror, hlocked⟩
        · exact .inl ⟨hok, List.forall_mem_cons.mpr ⟨hpath, hfree⟩⟩
        · obtain ⟨other, hother, hmem⟩ := hlocked
          exact .inr ⟨herror, other, List.mem_cons_of_mem _ hother, hmem⟩

/-- Putting files back after a patch that was applied in part or in whole gives them back as they
were. -/
theorem Locks.files_restored (hlocks : c.Locks locked) {p : Patch} {taken : Snapshots}
    {ended : Except Failure Unit} {s s₁ s₂ : Site E}
    (h : Applies c.files p.changes p.files s taken ended s₁) (hkeeps : Unwritten s₁ s₂) :
    (c.files.restore taken s₂).2.files = s.files := by
  funext path
  by_cases hpath : path ∈ taken.map (·.1)
  · obtain ⟨⟨other, before⟩, hmem, heq⟩ := List.mem_map.mp hpath
    obtain rfl : other = path := heq
    obtain ⟨written, _, hfile⟩ :=
      restore_member (h.taken_prefix.sublist.nodup p.files_nodup) hmem s₂
    -- a locked file was never changed, and any other is written back
    by_cases hlocked : other ∈ locked
    · obtain ⟨f, herror, _⟩ := hlocks.write_error hlocked before written
      rw [herror] at hfile
      exact hfile.trans ((hkeeps other).files.trans (hlocks.applies_same h hlocked))
    · rw [hlocks.write_ok hlocked before written] at hfile
      exact hfile.trans (applies_snapshot h p.files_nodup _ hmem).symm
  · exact (((applies_same_at h hpath).trans (hkeeps path)).trans (restore_same_at hpath s₂)).files

end Crew

end Mender
