import Mender.Proofs.Patch.Rewriting
import Mender.Proofs.Repair.Pool
import Mender.Proofs.Repair.Provenance
import Mender.Proofs.Session.Integrity

/-!
# The line that a template meets

Faults are numbered by the lines of their files as they were when they were localized, and repaired
one after another. A template candidate takes the line of its fault's number when its fault's turn
comes, after the patches of earlier faults (`Repaired`). It is the line that was diagnosed exactly
when those patches left that line what it was.
-/

namespace Mender

open Site

/-- The line that a location names in some files. -/
def FileStore.lineOf? (files : FileStore) (l : Location) : Option String :=
  (files l.file).bind (Template.lineAt? · l.line)

/-- Every change that a patch makes to the file of a location lies below the location's line. -/
def Patch.LiesBelow (p : Patch) (l : Location) : Prop :=
  ∀ change ∈ p.changes, change.file = l.file → l.line < change.first

/-- A line that is there after a patch was there before if the patch lies below it. -/
theorem FileStore.line_above_patch {files after : FileStore} {p : Patch} {l : Location}
    {text : String} (h : files.patched? p = some after) (hbelow : p.LiesBelow l)
    (hline : after.lineOf? l = some text) : files.lineOf? l = some text := by
  obtain ⟨htouched, hothers⟩ := patched_eq_some_iff.mp h
  obtain ⟨content, hcontent, hread⟩ := Option.bind_eq_some_iff.mp hline
  by_cases hpath : l.file ∈ p.files
  · obtain ⟨content', hafter, hcontent'⟩ := htouched _ hpath
    obtain rfl := Option.some.inj (hcontent.symm.trans hcontent')
    obtain ⟨before, hbefore, happly⟩ := Patch.text_after_eq_some_iff.mp hafter
    obtain ⟨k, hnumber, hk⟩ := Template.line_at_eq_some hread
    have hkept := Edit.line_above_changes happly (fun change hchange => by
      obtain ⟨hmem, hfile⟩ := List.mem_filter.mp hchange
      have := hbelow change hmem (of_decide_eq_true hfile)
      omega) hk
    rw [lineOf?, hbefore, hnumber]
    exact Template.line_at_of_get hkept
  · rwa [lineOf?, ← hothers _ hpath]

/-- A line that is there after patches was there before if each of them lies below it. -/
theorem FileStore.line_above_patches {files after : FileStore} {patches : List Patch}
    {l : Location} {text : String} (h : patches.foldlM patched? files = some after)
    (hbelow : ∀ p ∈ patches, p.LiesBelow l) (hline : after.lineOf? l = some text) :
    files.lineOf? l = some text := by
  induction patches generalizing files with
  | nil =>
      cases h
      exact hline
  | cons p patches ih =>
      obtain ⟨hfirst, hrest⟩ := List.forall_mem_cons.mp hbelow
      rw [List.foldlM_cons] at h
      obtain ⟨between, hpatched, hothers⟩ := Option.bind_eq_some_iff.mp h
      exact line_above_patch hpatched hfirst (ih hothers hrest)

/-- A candidate replaces the line of a fault as it is in some files. -/
def Patch.ReplacesLine (files : FileStore) (f : Fault) (p : Patch) : Prop :=
  ∃ text new, files.lineOf? f.location = some text ∧
    p.changes = [⟨f.location.file, f.location.line, f.location.line, text, new⟩]

/-- A template candidate whose text is of known origin replaces the line of its fault. -/
theorem Crew.TextKnown.replaces_line {E : Type} {c : Crew E} {files : FileStore} {f : Fault}
    {p : Patch} (h : c.TextKnown files f p) (hsource : p.source = .template) :
    p.ReplacesLine files f := by
  rcases h with ⟨path, content, hfile, htext⟩ | ⟨hother, _⟩
  · cases htext with
    | line text new _ hpath hread hchanges =>
        subst hpath
        exact ⟨text, new, by rw [FileStore.lineOf?, hfile]; exact hread, hchanges⟩
    | range _ _ _ _ hother => exact absurd hsource hother
  · exact absurd hsource hother

namespace Session

variable {E : Type} {c : Crew E}

/-- The template candidates of an attempt at a fault replace its line as it is then. -/
theorem attempt_replaces_line {config : RepairConfig} {hint : Option String} {memory : Memory}
    {f : Fault} {s : Site E} {r : RepairResult}
    (h : (attempt ⟨config, c.host, hint⟩ memory f s).1.2 = .ok r) :
    r.fault = f ∧ ∀ p ∈ r.patches, p.source = .template → p.ReplacesLine s.files f := by
  have hcontext := (code_context_keeps c.host_reads config hint f s).files
  rw [attempt, run_bind] at h
  rcases hcode : codeContext ⟨config, c.host, hint⟩ f s with ⟨e | context, s₁⟩ <;>
    rw [hcode] at hcontext h
  · cases h
  let task : Generate.Task :=
    { fault := f, codeContext := context, hint
      learned := learned? ⟨config, c.host, hint⟩ memory f }
  have hmade : Answers (Site.Holds s.files) (Made (c.TextKnown s.files f))
      (Generate.candidates config c.host memory.registry task) :=
    Generate.candidates_answers config memory.registry task
  have hmade := hmade s₁ hcontext
  simp only [run_bind] at h
  rcases hpool : Generate.candidates config c.host memory.registry task s₁ with ⟨e | pool, s₂⟩ <;>
    rw [hpool] at hmade h
  · cases h
  have hnew := (Generate.candidates_yields c.host_reads c.host_asks config memory.registry task
    s₁).2 pool (by rw [hpool])
  -- refined candidates come of replies, so the templates are those of the pool
  refine Loop.run_forall (P := fun p => p.source = .template → p.ReplacesLine s.files f)
    (fun p o hp => hp) (fun failed s₃ refined hrefined p hp hsource => ?_) hnew
    (fun p hp hsource => (hmade.2 pool rfl p hp).replaces_line hsource) h
  have hlearnt := (Generate.refine_yields c.host_reads c.host_asks config f context failed s₃).2
    refined hrefined p hp
  rw [hlearnt.2] at hsource
  cases hsource

/-- The result of a fault is for that fault, and its template candidates replace the line of the
fault as it is when its turn comes. -/
theorem repair_fault_replaces_line {config : RepairConfig} {hint : Option String}
    {memory memory' : Memory} {f : Fault} {s s' : Site E} {r : RepairResult}
    (h : repairFault ⟨config, c.host, hint⟩ memory f s = ((memory', r), s')) :
    r.fault = f ∧ ∀ p ∈ r.patches, p.source = .template → p.ReplacesLine s.files f := by
  have hstart := (c.notify_keeps (.faultStart f) s).files
  rw [repairFault, run_bind, run_bind] at h
  rcases hattempt : attempt ⟨config, c.host, hint⟩ memory f (c.host.notify (.faultStart f) s).2 with
    ⟨⟨memory₁, e | result⟩, s₁⟩ <;> rw [hattempt] at h <;> cases h
  · exact ⟨rfl, by simp [failedResult]⟩
  · have hresult := attempt_replaces_line (congrArg (·.1.2) hattempt)
    rwa [hstart] at hresult

/-- Faults that are repaired one after another between two states of a site, with their results. -/
inductive Repaired (c : Crew E) (config : RepairConfig) (hint : Option String) :
    Site E → List RepairResult → Site E → Prop
  | nil {s s'} : Untouched s s' → Repaired c config hint s [] s'
  | cons {s s₁ s₂ s' memory memory' f r rs} : Untouched s s₁ →
      repairFault ⟨config, c.host, hint⟩ memory f s₁ = ((memory', r), s₂) →
      Repaired c config hint s₂ rs s' → Repaired c config hint s (r :: rs) s'

theorem Repaired.of_untouched {config : RepairConfig} {hint : Option String} {s₀ s s' : Site E}
    {rs : List RepairResult} (hkeeps : Untouched s₀ s) (h : Repaired c config hint s rs s') :
    Repaired c config hint s₀ rs s' := by
  cases h with
  | nil h => exact .nil (trans_of Untouched hkeeps h)
  | cons h hfault hrest => exact .cons (trans_of Untouched hkeeps h) hfault hrest

/-- Results of repaired faults account for what happened. -/
theorem Repaired.accounts {locked : Set String} (hlocks : c.Locks locked) {config : RepairConfig}
    {hint : Option String} {s s' : Site E} {rs : List RepairResult}
    (h : Repaired c config hint s rs s') : Accounts config c rs s s' := by
  induction h with
  | nil hkeeps => exact .of_untouched hkeeps
  | @cons s s₁ s₂ s' memory memory' f r rs hkeeps hfault _ ih =>
      obtain ⟨_, _, _, hrun, haccounts⟩ := repair_fault_accounts hlocks config hint memory f s₁
      rw [hfault] at hrun
      cases hrun
      exact (haccounts.between hkeeps (refl_of Untouched s₂)).append ih

/-- Each of the results of faults stands after the repair of those before it. -/
theorem Worked.turns {config : RepairConfig} {hint : Option String} {total number : Nat}
    {memory memory' : Memory} {faults : List Fault} {results : List RepairResult} {s s' : Site E}
    (h : Worked ⟨config, c.host, hint⟩ total number memory s faults results memory' s')
    {earlier later : List RepairResult} {r : RepairResult} (hr : results = earlier ++ r :: later) :
    ∃ s₁, Repaired c config hint s earlier s₁ ∧
      ∀ p ∈ r.patches, p.source = .template → p.ReplacesLine s₁.files r.fault := by
  -- the result is that of the first fault, or it stands among those of the others
  induction h generalizing earlier with
  | nil => simp at hr
  | @cons _ _ _ _ _ _ _ _ s _ _ _ hgoes hworks _ ih =>
      have hasked := c.stop_asked_keeps s
      rw [hgoes] at hasked
      obtain ⟨_, htold, hrepairs⟩ := work_repairs hworks
      have hkeeps := trans_of Untouched hasked htold
      cases earlier with
      | nil =>
          obtain ⟨rfl, rfl⟩ := List.cons.inj hr
          obtain ⟨hfault, hlines⟩ := repair_fault_replaces_line hrepairs
          exact ⟨_, .nil hkeeps, hfault ▸ hlines⟩
      | cons r₁ earlier =>
          obtain ⟨rfl, hothers⟩ := List.cons.inj hr
          obtain ⟨s₁, hrepaired, hlines⟩ := ih hothers
          exact ⟨s₁, .cons hkeeps hrepairs hrepaired, hlines⟩

/-- A result with candidates that stands in results and in those of the faults that were left is
among the former. -/
theorem eq_append_of_cancelled {worked earlier later : List RepairResult} {left : List Fault}
    {r : RepairResult} {reason : String} (hsome : r.patches ≠ [])
    (h : worked ++ left.map (failedResult · reason) = earlier ++ r :: later) :
    ∃ later', worked = earlier ++ r :: later' := by
  have hnot : r ∉ left.map (failedResult · reason) := fun hr => by
    obtain ⟨f, _, rfl⟩ := List.mem_map.mp hr
    exact hsome rfl
  rcases List.append_eq_append_iff.mp h with ⟨more, _, hleft⟩ | ⟨more, hworked, hrest⟩
  · exact absurd (hleft ▸ by simp) hnot
  · cases more with
    | nil =>
        rw [List.nil_append] at hrest
        exact absurd (hrest ▸ List.mem_cons_self) hnot
    | cons r' more =>
        obtain ⟨rfl, _⟩ := List.cons.inj hrest
        exact ⟨more, hworked⟩

/-- In a session each result stands after the repair of those before it. -/
theorem run_turns (config : RepairConfig) (hint : Option String)
    (localization : LocalizationConfig) (memory : Memory) (output : String)
    (coverage : Option Coverage) (s : Site E) :
    ∃ memory' result s',
      run ⟨config, c.host, hint⟩ localization memory output coverage s = ((memory', result), s') ∧
      ∀ session, result = .ok session → ∀ earlier r later,
        session.results = earlier ++ r :: later → r.patches ≠ [] →
        ∃ s₁, Repaired c config hint s earlier s₁ ∧
          ∀ p ∈ r.patches, p.source = .template → p.ReplacesLine s₁.files r.fault := by
  obtain ⟨memory', result, s', hrun, hends⟩ :=
    run_runs_to ⟨config, c.host, hint⟩ localization memory output coverage s
  refine ⟨memory', result, s', hrun, ?_⟩
  cases hends with
  | unlocalized | unnamed => simp
  | @ended found _ _ _ _ s₀ _ _ hlocal _ hworked _ =>
      rintro _ ⟨⟩ earlier r later hsplit hsome
      obtain ⟨later', hresults⟩ := eq_append_of_cancelled hsome hsplit
      obtain ⟨s₁, hrepaired, hlines⟩ := hworked.turns hresults
      have hbegins := trans_of Untouched (localized_untouched hlocal)
        (c.notify_keeps (.localization found.faults) s₀)
      exact ⟨s₁, hrepaired.of_untouched hbegins, hlines⟩

end Session

/-- In a session a template candidate replaces the line of its fault as the files stand when the
fault's turn comes. That is the line that was diagnosed exactly when the repair of the earlier
faults left it as it was. Where a path can be written always or never, the files then are those at
the start after the applied patches of the earlier results, and the diagnosed line is met for sure
when these change nothing of the file but lines below it. -/
theorem Engine.template_meets_line_of_its_turn {E : Type} (c : Crew E) (e : Engine)
    (output : String) (hint : Option String) (coverage : Option Coverage) (s : Site E) :
    ∃ e' result s', Engine.repair c.host e output hint coverage s = ((e', result), s') ∧
      ∀ results, result = .ok results → ∀ earlier r later, results = earlier ++ r :: later →
        ∀ p ∈ r.patches, p.source = .template →
          ∃ s₁ text new, Session.Repaired c e.config hint s earlier s₁ ∧
            p.changes = [⟨r.fault.location.file, r.fault.location.line, r.fault.location.line,
              text, new⟩] ∧
            s₁.files.lineOf? r.fault.location = some text ∧
            (s.files.lineOf? r.fault.location = some text ↔
              s₁.files.lineOf? r.fault.location = s.files.lineOf? r.fault.location) ∧
            ∀ locked, c.Locks locked →
              (appliedPatches earlier).foldlM FileStore.patched? s.files = some s₁.files ∧
              ((∀ q ∈ appliedPatches earlier, q.LiesBelow r.fault.location) →
                s.files.lineOf? r.fault.location = some text) := by
  obtain ⟨memory', result, s', hrun, hturns⟩ := Session.run_turns (c := c) e.config hint
    e.localization e.memory output coverage s
  cases result with
  | error f =>
      refine ⟨{ e with memory := memory' }, .error f, s', ?_, by simp⟩
      rw [Engine.repair, run_bind, hrun]
      rfl
  | ok session =>
      refine ⟨({ e with memory := memory' }).store session, .ok session.results, s', ?_, ?_⟩
      · rw [Engine.repair, run_bind, hrun]
        rfl
      · rintro _ ⟨⟩ earlier r later hsplit p hp hsource
        obtain ⟨s₁, hrepaired, hlines⟩ := hturns session rfl earlier r later hsplit
          (List.ne_nil_of_mem hp)
        obtain ⟨text, new, hline, hchanges⟩ := hlines p hp hsource
        refine ⟨s₁, text, new, hrepaired, hchanges, hline, ?_, fun locked hlocks => ?_⟩
        · rw [hline]
          exact ⟨Eq.symm, Eq.symm⟩
        · have hfiles := (hrepaired.accounts hlocks).files
          exact ⟨hfiles, fun hbelow => FileStore.line_above_patches hfiles hbelow hline⟩

/-- Of two faults on neighbouring lines the second meets what the repair of the first put there: its
template candidate replaces the line `return`, where the line `y` was diagnosed. -/
theorem Session.second_fault_meets_shifted_line :
    let start := Site.single "a.py" "x\ny\n"
    let repairs := repairFaults
      ⟨{ useModel := false },
        (Crew.steady (fun _ _ => none) (.value { success := true })).host, none⟩
      2 0 ⟨.ofList [.twoLines], { cap := 1, threshold := 0.5 }⟩
      [.ofLineOf "a.py" 1, .ofLineOf "a.py" 2] start
    start.files.lineOf? (Fault.ofLineOf "a.py" 2).location = some "y" ∧
      repairs.1.2.1.map (·.patches.map fun p => (p.source, p.changes)) =
        [[(.template, [⟨"a.py", 1, 1, "x", "pass\nreturn"⟩])],
          [(.template, [⟨"a.py", 2, 2, "return", "pass\nreturn"⟩])]] := by
  decide +kernel

end Mender
