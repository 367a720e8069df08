import Mender.Proofs.Host.Site

/-!
# Trials under failing reads and writes

`Applies` says how the files of a patch are patched one by one, with a constructor for each way out.
From it follows what a trial leaves behind, whichever reads and writes fail: every file is as it was
unless its new text was written and writing the old text back failed, and a trial that commits has
exactly the effect of its patch.
-/

namespace Mender

namespace FileAccess

variable {σ α : Type} (files : FileAccess (StateM σ)) (changes : List Change)

/-- Patching files one by one from a state: the snapshots taken, how it ends, and the last state. -/
inductive Applies : List String → σ → Snapshots → Except Failure Unit → σ → Prop
  | done (s) : Applies [] s [] (.ok ()) s
  | unread {path paths s s₁ f} :
      files.readFor path s = (.error f, s₁) →
      Applies (path :: paths) s [] (.error f) s₁
  | unfit {path paths s s₁ before fault} :
      files.readFor path s = (.ok before, s₁) →
      Edit.apply before (changes.filter (·.file = path)) = .error fault →
      Applies (path :: paths) s [(path, before)] (.error fault.failure) s₁
  | unwritten {path paths s s₁ s₂ before after f} :
      files.readFor path s = (.ok before, s₁) →
      Edit.apply before (changes.filter (·.file = path)) = .ok after →
      files.writeFor path after s₁ = (.error f, s₂) →
      Applies (path :: paths) s [(path, before)] (.error f) s₂
  | written {path paths s s₁ s₂ s₃ before after taken ended} :
      files.readFor path s = (.ok before, s₁) →
      Edit.apply before (changes.filter (·.file = path)) = .ok after →
      files.writeFor path after s₁ = (.ok (), s₂) →
      Applies paths s₂ taken ended s₃ →
      Applies (path :: paths) s ((path, before) :: taken) ended s₃

/-- `applyTo` patches files as `Applies` says, and adds the snapshots to those it was given. -/
theorem apply_to_applies (paths : List String) (taken : Snapshots) (s : σ) :
    ∃ more ended s', files.applyTo changes paths taken s = ((taken ++ more, ended), s') ∧
      Applies files changes paths s more ended s' := by
  -- the snapshots so far grow on the way down, so the claim is for any that are given
  induction paths generalizing taken s with
  | nil => exact ⟨[], .ok (), s, by simp [applyTo, run_pure], .done s⟩
  | cons path paths ih =>
      rw [applyTo, run_bind]
      rcases hread : files.readFor path s with ⟨f | before, s₁⟩
      · exact ⟨[], .error f, s₁, by simp [run_pure], .unread hread⟩
      cases hedit : Edit.apply before (changes.filter (·.file = path)) with
      | error fault =>
          exact ⟨[(path, before)], _, s₁, by simp [run_pure, hedit], .unfit hread hedit⟩
      | ok after =>
          rcases hwrite : files.writeFor path after s₁ with ⟨f | _, s₂⟩
          · exact ⟨[(path, before)], .error f, s₂, by simp [run_bind, run_pure, hedit, hwrite],
              .unwritten hread hedit hwrite⟩
          · obtain ⟨more, ended, s', hrest, happlies⟩ := ih (taken ++ [(path, before)]) s₂
            exact ⟨(path, before) :: more, ended, s', by simp [run_bind, hedit, hwrite, hrest],
              .written hread hedit hwrite happlies⟩

variable {files changes}

/-- Snapshots are taken in the order of the files. -/
theorem Applies.taken_prefix {paths : List String} {s s' : σ} {taken : Snapshots}
    {ended : Except Failure Unit} (h : Applies files changes paths s taken ended s') :
    taken.map (·.1) <+: paths := by
  induction h with
  | done => exact List.nil_prefix
  | unread => exact List.nil_prefix
  | unfit | unwritten => exact List.prefix_append [_] _
  | written _ _ _ _ ih => exact List.cons_prefix_cons.mpr ⟨rfl, ih⟩

/-- When the files are all patched, a snapshot was taken of each. -/
theorem Applies.taken_all {paths : List String} {s s' : σ} {taken : Snapshots}
    {ended : Except Failure Unit} (h : Applies files changes paths s taken ended s')
    (hended : ended = .ok ()) : taken.map (·.1) = paths := by
  induction h with
  | done => rfl
  | unread | unfit | unwritten => cases hended
  | written _ _ _ _ ih => simp [ih hended]

variable (files)

/-- What a trial answers once files were put back: the first write that failed comes before how the
trial ended otherwise. -/
def afterRestoring (restored : Except Failure Unit) (ended : Except Failure α) : Except Failure α :=
  match restored with
  | .error f => .error f
  | .ok () => ended

/-- Putting files back does not mend a trial that failed. -/
theorem after_restoring_error (α : Type) (restored : Except Failure Unit) (f : Failure) :
    ∃ f', afterRestoring restored (.error f : Except Failure α) = .error f' := by
  cases restored with
  | error f' => exact ⟨f', rfl⟩
  | ok => exact ⟨f, rfl⟩

/-- The trial of a patch reaches its block, and the block commits. -/
def commits (p : Patch) (block : StateM σ (Bool × Except Failure α)) (s : σ) : Bool :=
  match files.applyTo p.changes p.files [] s with
  | ((_, .ok ()), s₁) => (block s₁).1.1
  | ((_, .error _), _) => false

variable {files} {p : Patch} {block : StateM σ (Bool × Except Failure α)} {taken : Snapshots}
  {ended : Except Failure α} {s s₁ s₂ : σ}

/-- A patch that does not apply is taken back, and its block is not run. -/
theorem trial_unapplied {f : Failure}
    (happly : files.applyTo p.changes p.files [] s = ((taken, .error f), s₁)) :
    files.trial p block s =
      (afterRestoring (files.restore taken s₁).1 (.error f), (files.restore taken s₁).2) := by
  simp only [trial, run_bind, happly, run_pure]
  rcases hrestore : files.restore taken s₁ with ⟨f' | _, s'⟩ <;>
    simp [run_bind, hrestore, run_pure, afterRestoring]

/-- A patch that applies is taken back when its block does not commit. -/
theorem trial_rejected (happly : files.applyTo p.changes p.files [] s = ((taken, .ok ()), s₁))
    (hblock : block s₁ = ((false, ended), s₂)) :
    files.trial p block s =
      (afterRestoring (files.restore taken s₂).1 ended, (files.restore taken s₂).2) := by
  simp only [trial, run_bind, happly, hblock]
  rcases hrestore : files.restore taken s₂ with ⟨f' | _, s'⟩ <;>
    simp [run_bind, hrestore, run_pure, afterRestoring]

/-- A patch that applies stays when its block commits. -/
theorem trial_committed (happly : files.applyTo p.changes p.files [] s = ((taken, .ok ()), s₁))
    (hblock : block s₁ = ((true, ended), s₂)) : files.trial p block s = (ended, s₂) := by
  simp only [trial, run_bind, happly, hblock]
  rfl

end FileAccess

/-- Between two states of a site the text of a file after a patch was written to it, and nothing
else. -/
def Site.Patched {E : Type} (p : Patch) (path : String) (s s' : Site E) : Prop :=
  ∃ after, p.textAfter? s.files path = some after ∧ s'.files path = some after ∧
    s'.writesTo path = s.writesTo path ++ [(after, .ok ())]

/-- What happened to a path before and after its patch is nothing. -/
theorem Site.Patched.between {E : Type} {p : Patch} {path : String} {s s₁ s₂ s' : Site E}
    (h : Patched p path s₁ s₂) (hbefore : SameAt path s s₁) (hafter : SameAt path s₂ s') :
    Patched p path s s' := by
  obtain ⟨after, htext, hfile, hwrites⟩ := h
  refine ⟨after, ?_, hafter.files.trans hfile, ?_⟩
  · simpa only [Patch.textAfter?, hbefore.files] using htext
  · rw [hafter.writes, hwrites, hbefore.writes]

/-- Between two states of a site the text of a file after a patch was written to it, but writing the
text from before failed. -/
def Site.LeftPatched {E : Type} (p : Patch) (path : String) (s s' : Site E) : Prop :=
  ∃ before after f, s.files path = some before ∧ p.textAfter? s.files path = some after ∧
    s'.files path = some after ∧
    s'.writesTo path = s.writesTo path ++ [(after, .ok ()), (before, .error f)]

namespace Crew

open FileAccess Site

variable {E : Type} {c : Crew E}

/-- Reading a file for a patch leaves the site untouched, and what is read is the text there. -/
theorem read_for_step {path : String} {result : Except Failure String} {s s' : Site E}
    (h : c.files.readFor path s = (result, s')) :
    Untouched s s' ∧ ∀ text, result = .ok text → s.files path = some text := by
  have hkeeps := c.read_keeps path s
  rw [readFor, run_bind, c.files_read] at h
  rcases hread : c.read path s with ⟨f | text, s₁⟩
  · rw [hread] at h hkeeps
    cases h
    exact ⟨hkeeps, by simp⟩
  · have htext := c.read_eq_ok (congrArg Prod.fst hread)
    rw [hread] at h hkeeps
    cases h
    exact ⟨hkeeps, by rintro _ ⟨⟩; exact htext⟩

/-- Writing a file for a patch is a write, whose failure may be told in other words. -/
theorem write_for_step {path text : String} {ended : Except Failure Unit} {s s' : Site E}
    (h : c.files.writeFor path text s = (ended, s')) :
    ∃ result, Wrote path text result s s' ∧ (ended = .ok () ↔ result = .ok ()) := by
  have hwrote := c.write_wrote path text s
  rw [writeFor, run_bind, c.files_write] at h
  rcases hwrite : c.write path text s with ⟨f | _, s₁⟩
  · rw [hwrite] at h hwrote
    cases h
    exact ⟨_, hwrote, by simp⟩
  · rw [hwrite] at h hwrote
    cases h
    exact ⟨_, hwrote, by simp⟩

section Applying

variable {p : Patch} {paths : List String} {s s' : Site E} {taken : Snapshots}
  {ended : Except Failure Unit}

theorem applies_runs (h : Applies c.files p.changes paths s taken ended s') :
    s'.runs = s.runs := by
  induction h with
  | done => rfl
  | unread hread | unfit hread _ => exact (read_for_step hread).1.runs
  | unwritten hread _ hwrite =>
      obtain ⟨_, hwrote, _⟩ := write_for_step hwrite
      exact hwrote.runs.trans (read_for_step hread).1.runs
  | written hread _ hwrite _ ih =>
      obtain ⟨_, hwrote, _⟩ := write_for_step hwrite
      exact ih.trans (hwrote.runs.trans (read_for_step hread).1.runs)

/-- Nothing happens to files of which no snapshot is taken. -/
theorem applies_same_at (h : Applies c.files p.changes paths s taken ended s') {path : String}
    (hpath : path ∉ taken.map (·.1)) : SameAt path s s' := by
  induction h with
  | done => exact ⟨rfl, rfl⟩
  | unread hread | unfit hread _ => exact (read_for_step hread).1.unwritten path
  | unwritten hread _ hwrite =>
      obtain ⟨_, hwrote, _⟩ := write_for_step hwrite
      exact ((read_for_step hread).1.unwritten path).trans (hwrote.same_at (by simpa using hpath))
  | written hread _ hwrite _ ih =>
      obtain ⟨_, hwrote, _⟩ := write_for_step hwrite
      simp only [List.map_cons, List.mem_cons, not_or] at hpath
      exact (((read_for_step hread).1.unwritten path).trans (hwrote.same_at hpath.1)).trans
        (ih hpath.2)

/-- Snapshots hold the texts from before. -/
theorem applies_snapshot (h : Applies c.files p.changes paths s taken ended s')
    (hnodup : paths.Nodup) : ∀ snapshot ∈ taken, s.files snapshot.1 = some snapshot.2 := by
  induction h with
  | done | unread => simp
  | unfit hread _ => simpa using (read_for_step hread).2 _ rfl
  | unwritten hread _ _ => simpa using (read_for_step hread).2 _ rfl
  | @written first paths s s₁ s₂ s₃ before after taken ended hread _ hwrite hrest ih =>
      obtain ⟨hkeeps, hbefore⟩ := read_for_step hread
      obtain ⟨_, hwrote, _⟩ := write_for_step hwrite
      obtain ⟨hfirst, hpaths⟩ := List.nodup_cons.mp hnodup
      rintro ⟨path, text⟩ (_ | ⟨_, hmem⟩)
      · exact hbefore _ rfl
      · -- the first file is none of those that follow, so writing it did not change this one
        have hne : path ≠ first := fun heq =>
          hfirst (heq ▸ hrest.taken_prefix.subset (List.mem_map_of_mem hmem))
        have hsame := (hkeeps.unwritten path).trans (hwrote.same_at hne)
        exact hsame.files ▸ ih hpaths _ hmem

/-- A file that was read, fits and was written is patched. -/
theorem patched_of_written {path before after : String} {s s₁ s₂ : Site E}
    (hread : c.files.readFor path s = (.ok before, s₁))
    (hedit : Edit.apply before (p.changes.filter (·.file = path)) = .ok after)
    (hwrite : c.files.writeFor path after s₁ = (.ok (), s₂)) : Patched p path s s₂ := by
  obtain ⟨hkeeps, hbefore⟩ := read_for_step hread
  obtain ⟨result, hwrote, hok⟩ := write_for_step hwrite
  obtain rfl := hok.mp rfl
  exact ⟨after, Patch.text_after_eq_some_iff.mpr ⟨before, hbefore before rfl, hedit⟩,
    hwrote.files_ok, by rw [hwrote.writes, hkeeps.writes]⟩

/-- However far patching gets, every file is as it was or patched. -/
theorem applies_patched_or_same (h : Applies c.files p.changes paths s taken ended s')
    (hnodup : paths.Nodup) (path : String) :
    s'.files path = s.files path ∨ Patched p path s s' := by
  induction h with
  | done => exact .inl rfl
  | unread hread | unfit hread _ => exact .inl ((read_for_step hread).1.unwritten path).files
  | unwritten hread _ hwrite =>
      obtain ⟨result, hwrote, hok⟩ := write_for_step hwrite
      have hfailed : result ≠ .ok () := fun heq => by cases hok.mpr heq
      exact .inl (congrFun ((hwrote.files_failed hfailed).trans (read_for_step hread).1.files) path)
  | @written first paths s s₁ s₂ s₃ before after taken ended hread hedit hwrite hrest ih =>
      obtain ⟨hfirst, hpaths⟩ := List.nodup_cons.mp hnodup
      by_cases hpath : path = first
      · subst hpath
        have htaken : path ∉ taken.map (·.1) := fun hmem =>
          hfirst (hrest.taken_prefix.subset hmem)
        exact .inr ((patched_of_written hread hedit hwrite).between ⟨rfl, rfl⟩
          (applies_same_at hrest htaken))
      · obtain ⟨_, hwrote, _⟩ := write_for_step hwrite
        have hsame := ((read_for_step hread).1.unwritten path).trans (hwrote.same_at hpath)
        rcases ih hpaths with heq | hpatched
        · exact .inl (heq.trans hsame.files)
        · exact .inr (hpatched.between hsame ⟨rfl, rfl⟩)

/-- When patching comes to its end, every file is patched. -/
theorem applies_all_patched (h : Applies c.files p.changes paths s taken ended s')
    (hnodup : paths.Nodup) (hended : ended = .ok ()) : ∀ path ∈ paths, Patched p path s s' := by
  induction h with
  | done => simp
  | unread | unfit | unwritten => cases hended
  | @written first paths s s₁ s₂ s₃ before after taken ended hread hedit hwrite hrest ih =>
      obtain ⟨hfirst, hpaths⟩ := List.nodup_cons.mp hnodup
      obtain ⟨_, hwrote, _⟩ := write_for_step hwrite
      rintro path (_ | ⟨_, hmem⟩)
      · have htaken : first ∉ taken.map (·.1) := fun hmem =>
          hfirst (hrest.taken_prefix.subset hmem)
        exact (patched_of_written hread hedit hwrite).between ⟨rfl, rfl⟩
          (applies_same_at hrest htaken)
      · have hne : path ≠ first := fun heq => hfirst (heq ▸ hmem)
        have hsame := ((read_for_step hread).1.unwritten path).trans (hwrote.same_at hne)
        exact (ih hpaths hended path hmem).between hsame ⟨rfl, rfl⟩

end Applying

section Restoring

/-- Putting back the first snapshot and then the others, whatever comes of the first write. -/
theorem restore_cons_state (path before : String) (taken : Snapshots) (s : Site E) :
    (c.files.restore ((path, before) :: taken) s).2 =
      (c.files.restore taken (c.write path before s).2).2 :=
  rfl

theorem restore_runs (taken : Snapshots) (s : Site E) :
    (c.files.restore taken s).2.runs = s.runs := by
  induction taken generalizing s with
  | nil => rfl
  | cons snapshot taken ih =>
      rw [restore_cons_state, ih, (c.write_wrote _ _ s).runs]

/-- Nothing happens to files that were not remembered. -/
theorem restore_same_at {taken : Snapshots} {path : String} (hpath : path ∉ taken.map (·.1))
    (s : Site E) : SameAt path s (c.files.restore taken s).2 := by
  induction taken generalizing s with
  | nil => exact ⟨rfl, rfl⟩
  | cons snapshot taken ih =>
      simp only [List.map_cons, List.mem_cons, not_or] at hpath
      rw [restore_cons_state]
      exact ((c.write_wrote _ _ s).same_at hpath.1).trans (ih hpath.2 _)

/-- Every snapshot is written back once, whichever of the writes fail. -/
theorem restore_member {taken : Snapshots} (hnodup : (taken.map (·.1)).Nodup)
    {path before : String} (hmem : (path, before) ∈ taken) (s : Site E) :
    ∃ written : Site E,
      (c.files.restore taken s).2.writesTo path =
        s.writesTo path ++ [(before, (c.write path before written).1)] ∧
      (c.files.restore taken s).2.files path =
        match (c.write path before written).1 with
        | .ok () => some before
        | .error _ => s.files path := by
  induction taken generalizing s with
  | nil => cases hmem
  | cons snapshot taken ih =>
      obtain ⟨hfirst, htaken⟩ := List.nodup_cons.mp hnodup
      have hwrote := c.write_wrote snapshot.1 snapshot.2 s
      rw [restore_cons_state]
      rcases hmem with _ | ⟨_, hmem⟩
      · -- nothing is written to this path after its own snapshot
        have hrest := restore_same_at hfirst (c := c) (c.write path before s).2
        refine ⟨s, hrest.writes.trans hwrote.writes, ?_⟩
        rw [hrest.files, hwrote.files]
        cases (c.write path before s).1 with
        | ok => exact Function.update_self _ _ _
        | error f => rfl
      · have hne : path ≠ snapshot.1 := fun heq =>
          hfirst (List.mem_map.mpr ⟨_, hmem, heq⟩)
        obtain ⟨written, hwrites, hfile⟩ := ih htaken hmem (c.write snapshot.1 snapshot.2 s).2
        have hsame := hwrote.same_at hne
        exact ⟨written, hwrites.trans (by rw [hsame.writes]), hfile.trans (by rw [hsame.files])⟩

/-- Putting files back after a patch that was applied in part or in whole. -/
theorem restore_after_applies {p : Patch} {taken : Snapshots} {ended : Except Failure Unit}
    {s s₁ s₂ : Site E} (h : Applies c.files p.changes p.files s taken ended s₁)
    {path : String} (hbetween : SameAt path s₁ s₂) :
    (c.files.restore taken s₂).2.files path = s.files path ∨
      LeftPatched p path s (c.files.restore taken s₂).2 := by
  by_cases hpath : path ∈ taken.map (·.1)
  · obtain ⟨⟨other, before⟩, hmem, heq⟩ := List.mem_map.mp hpath
    obtain rfl : other = path := heq
    have hbefore := applies_snapshot h p.files_nodup _ hmem
    obtain ⟨written, hwrites, hfile⟩ :=
      restore_member (h.taken_prefix.sublist.nodup p.files_nodup) hmem s₂
    cases hresult : (c.write other before written).1 with
    | ok =>
        rw [hresult] at hfile
        exact .inl (hfile.trans hbefore.symm)
    | error f =>
        rw [hresult] at hwrites hfile
        rcases applies_patched_or_same h p.files_nodup other with hsame | hpatched
        · exact .inl (hfile.trans (hbetween.files.trans hsame))
        · obtain ⟨after, htext, hafter, hwritten⟩ := hpatched.between ⟨rfl, rfl⟩ hbetween
          refine .inr ⟨before, after, f, hbefore, htext, hfile.trans hafter, ?_⟩
          rw [hwrites, hwritten, List.append_assoc, List.singleton_append]
  · exact .inl (((applies_same_at h hpath).trans hbetween).trans (restore_same_at hpath s₂)).files

/-- Applying a patch to its end has the effect of the patch. -/
theorem applies_patched {p : Patch} {taken : Snapshots} {s s₁ : Site E}
    (h : Applies c.files p.changes p.files s taken (.ok ()) s₁) :
    s.files.patched? p = some s₁.files := by
  refine FileStore.patched_eq_some_iff.mpr ⟨fun path hpath => ?_, fun path hpath => ?_⟩
  · obtain ⟨after, htext, hafter, _⟩ := applies_all_patched h p.files_nodup rfl path hpath
    exact ⟨after, htext, hafter⟩
  · exact (applies_same_at h (h.taken_all rfl ▸ hpath)).files

end Restoring

/-- A trial and a file that its block leaves alone, whichever reads and writes fail. If the block
commits, the file holds its text after the patch, or what it held when the patch does not touch it.
If it does not, or is never reached, the file is as it was, unless its new text was written and
writing the old text back failed. -/
theorem trial_restores_unless_committed {α : Type} (c : Crew E) (p : Patch)
    (block : StateM (Site E) (Bool × Except Failure α)) (path : String)
    (hblock : ∀ s, SameAt path s (block s).2) (s : Site E) :
    (c.files.commits p block s = true →
      (path ∈ p.files → ∃ after, p.textAfter? s.files path = some after ∧
        (c.files.trial p block s).2.files path = some after) ∧
      (path ∉ p.files → (c.files.trial p block s).2.files path = s.files path)) ∧
    (c.files.commits p block s = false →
      (c.files.trial p block s).2.files path = s.files path ∨
        LeftPatched p path s (c.files.trial p block s).2) := by
  obtain ⟨taken, applied, s₁, happly, happlies⟩ :=
    apply_to_applies c.files p.changes p.files [] s
  rw [List.nil_append] at happly
  cases applied with
  | error f =>
      rw [trial_unapplied happly]
      exact ⟨by simp [commits, happly],
        fun _ => restore_after_applies happlies ⟨rfl, rfl⟩⟩
  | ok =>
      have hbetween := hblock s₁
      rcases hran : block s₁ with ⟨⟨committed, ended⟩, s₂⟩
      rw [hran] at hbetween
      cases committed with
      | false =>
          rw [trial_rejected happly hran]
          exact ⟨by simp [commits, happly, hran],
            fun _ => restore_after_applies happlies hbetween⟩
      | true =>
          rw [trial_committed happly hran]
          obtain ⟨htouched, hothers⟩ := FileStore.patched_eq_some_iff.mp (applies_patched happlies)
          refine ⟨fun _ => ⟨fun hpath => ?_, fun hpath => ?_⟩, by simp [commits, happly, hran]⟩
          · obtain ⟨after, htext, hafter⟩ := htouched path hpath
            exact ⟨after, htext, hbetween.files.trans hafter⟩
          · exact hbetween.files.trans (hothers path hpath)

/-- A crew that can write each file once. -/
def writingOnce : Crew Unit :=
  steady (fun _ earlier => if earlier = 1 then some ⟨.host, "disk full"⟩ else none) .silent

/-- A file that can be written once is left patched by a trial that does not commit. -/
theorem trial_of_file_written_once :
    (∀ s : Site Unit, SameAt "a.py" s ((pure (false, .ok ()) :
      StateM (Site Unit) (Bool × Except Failure Unit)) s).2) ∧
      LeftPatched (.ofFirstLine "a.py" "x = 2") "a.py" (single "a.py" "x = 1\n")
        (writingOnce.files.trial (.ofFirstLine "a.py" "x = 2") (pure (false, .ok ()))
          (single "a.py" "x = 1\n")).2 := by
  have hblock : ∀ s : Site Unit, SameAt "a.py" s ((pure (false, .ok ()) :
      StateM (Site Unit) (Bool × Except Failure Unit)) s).2 := fun _ => ⟨rfl, rfl⟩
  have hread : (writingOnce.files.readFor "a.py" (single "a.py" "x = 1\n")).1 = .ok "x = 1\n" := by
    rfl
  have hedit : Edit.apply "x = 1\n"
      ((Patch.ofFirstLine "a.py" "x = 2").changes.filter (·.file = "a.py")) = .ok "x = 2\n" := by
    show Edit.apply "x = 1\n" [⟨"a.py", 1, 1, "", "x = 2"⟩] = _
    rw [Edit.apply, Edit.bottomUp, List.mergeSort_singleton]
    rfl
  have hcommits : writingOnce.files.commits (.ofFirstLine "a.py" "x = 2")
      (pure (false, .ok ()) : StateM (Site Unit) (Bool × Except Failure Unit))
      (single "a.py" "x = 1\n") = false := by
    unfold commits
    split <;> rfl
  have hpatched : (writingOnce.files.trial (.ofFirstLine "a.py" "x = 2")
      (pure (false, .ok ()) : StateM (Site Unit) (Bool × Except Failure Unit))
      (single "a.py" "x = 1\n")).2.files "a.py" = some "x = 2\n" := by
    simp only [trial, applyTo, Patch.of_first_line_files, run_bind, hread, hedit]
    rfl
  refine ⟨hblock, ?_⟩
  rcases (trial_restores_unless_committed writingOnce (.ofFirstLine "a.py" "x = 2") _ "a.py"
    hblock _).2 hcommits with hsame | hleft
  · rw [hpatched] at hsame
    exact absurd (Option.some.inj hsame) (by decide)
  · exact hleft

end Crew

end Mender
