import Mender.Proofs.Repair.Course
import Mender.Proofs.Repair.Validation

/-!
# Trying candidates

What a run of a crew does to its site. `AllRejected` says of candidates that they left nothing
behind, and `Tried` how validating candidates in order ends. Each candidate meets the files as they
were before the first.
-/

namespace Mender

/-- The candidates of all rounds, and the place of the accepted one. -/
def Loop.RunEnd.verdict (ended : RunEnd) : List Patch × Option Nat :=
  (ended.pool, ended.accepted)

/-- The candidates of a result, and the place of the applied one. -/
def RepairResult.verdict (r : RepairResult) : List Patch × Option Nat :=
  (r.patches, r.applied)

open Site

/-- A run of the tests saw the files with a candidate applied, and nothing else. -/
def Saw (files : FileStore) (run : FileStore × Reply Outcome) (p : Patch) : Prop :=
  files.patched? p = some run.1

theorem Patch.not_accepted_of_rejected {p : Patch} (h : p.rejected = true) :
    p.accepted = false := by
  simp only [rejected, Bool.and_eq_true, Bool.not_eq_true'] at h
  simp [accepted, h.2]

/-- Between two states of a site candidates were validated in order, and rejected all of them. Each
run of the tests was for one of them. -/
structure AllRejected {E : Type} (cands tried : List Patch) (s s' : Site E) : Prop where
  outcomes : List.Forall₂ Patch.Rejects cands tried
  files : s'.files = s.files
  runs : ∃ new, s'.runs = s.runs ++ new ∧ (∀ run ∈ new, acceptance? run = none) ∧
    List.SublistForall₂ (Saw s.files) new cands

theorem sublist_forall₂_append {α β : Type} {R : α → β → Prop} {l₁ m₁ : List α} {l₂ m₂ : List β}
    (h : List.SublistForall₂ R l₁ l₂) (h' : List.SublistForall₂ R m₁ m₂) :
    List.SublistForall₂ R (l₁ ++ m₁) (l₂ ++ m₂) := by
  obtain ⟨l, hl, hsub⟩ := List.sublistForall₂_iff.mp h
  obtain ⟨m, hm, hsub'⟩ := List.sublistForall₂_iff.mp h'
  exact List.sublistForall₂_iff.mpr ⟨l ++ m, List.rel_append hl hm, hsub.append hsub'⟩

namespace AllRejected

variable {E : Type} {cands tried : List Patch} {s s₁ s' : Site E}

/-- Before the first candidate. -/
theorem start (hkeeps : Untouched s s') : AllRejected [] [] s s' :=
  ⟨.nil, hkeeps.files, [], by simpa using hkeeps.runs, by simp, .nil⟩

/-- What neither changes files nor runs the tests does not matter. -/
theorem idle (h : AllRejected cands tried s s₁) (hfiles : s'.files = s₁.files)
    (hruns : s'.runs = s₁.runs) : AllRejected cands tried s s' := by
  obtain ⟨new, hprev, hnone, hsaw⟩ := h.runs
  exact ⟨h.outcomes, hfiles.trans h.files, new, hruns.trans hprev, hnone, hsaw⟩

theorem untouched (h : AllRejected cands tried s s₁) (hkeeps : Untouched s₁ s') :
    AllRejected cands tried s s' :=
  h.idle hkeeps.files hkeeps.runs

/-- One more candidate was rejected. -/
theorem snoc {config : RepairConfig} {c : Crew E} {p : Patch} {o : Outcome}
    (h : AllRejected cands tried s s₁) (hends : Validates config c p s₁ (.ok o) s')
    (hrejected : o.accepted = false) :
    AllRejected (cands ++ [p]) (tried ++ [p.withOutcome o]) s s' := by
  have hfirst : p.Rejects (p.withOutcome o) := ⟨o, hrejected, rfl⟩
  have houtcomes := List.rel_append h.outcomes (.cons hfirst .nil)
  obtain ⟨new, hruns, hnone, hsaw⟩ := h.runs
  cases hends with
  | unapplied _ hfiles hsame =>
      refine ⟨houtcomes, hfiles.trans h.files, new, hsame.trans hruns, hnone, ?_⟩
      simpa using sublist_forall₂_append hsaw (.nil (l := [p]))
  | @rejected _ seen reply _ _ hseen hreply hfiles hran =>
      refine ⟨houtcomes, hfiles.trans h.files, new ++ [(seen, reply)], ?_, ?_, ?_⟩
      · rw [hran, hruns, List.append_assoc]
      · simpa [or_imp, forall_and, hreply] using hnone
      · exact sublist_forall₂_append hsaw (.cons (h.files ▸ hseen) .nil)
  | accepted haccepts => simp [haccepts.accepted] at hrejected

/-- The candidates as they were before, and those that were not reached. -/
theorem becomes (h : AllRejected cands tried s s') (rest : List Patch) :
    List.Forall₂ Patch.Becomes (cands ++ rest) (tried ++ rest) :=
  List.rel_append (h.outcomes.imp fun _ _ => Patch.Rejects.becomes)
    (List.forall₂_same.mpr fun _ _ => .inl rfl)

end AllRejected

/-- How validating candidates in order from a site ends: the candidates and the place of the
accepted one, if there is one, and the last site. -/
inductive Tried {E : Type} (config : RepairConfig) (c : Crew E) (s : Site E) :
    List Patch → Except Failure (List Patch × Option Nat) → Site E → Prop
  | raised {cands tried rest f s'} :
      AllRejected cands tried s s' →
      Tried config c s (cands ++ rest) (.error f) s'
  | exhausted {cands tried s'} :
      AllRejected cands tried s s' →
      Tried config c s cands (.ok (tried, none)) s'
  | accepted {cands tried rest p o s₁ s'} :
      AllRejected cands tried s s₁ → (∀ q ∈ rest, q.validated = false) →
      Accepts config c p o s₁ s' →
      Tried config c s (cands ++ p :: rest)
        (.ok (tried ++ p.withOutcome o :: rest, some tried.length)) s'

/-- The files and runs are all that counts for how candidates fare. -/
theorem Accepts.untouched {E : Type} {config : RepairConfig} {c : Crew E} {p : Patch} {o : Outcome}
    {s s₁ s' : Site E} (h : Accepts config c p o s s₁) (hkeeps : Untouched s₁ s') :
    Accepts config c p o s s' :=
  ⟨h.accepted, hkeeps.files ▸ h.files, by rw [hkeeps.files, hkeeps.runs]; exact h.runs⟩

/-- An accepted candidate was run the tests for once at most. -/
theorem Accepts.new_runs {E : Type} {config : RepairConfig} {c : Crew E} {p : Patch} {o : Outcome}
    {s s' : Site E} (h : Accepts config c p o s s') :
    ∃ new, s'.runs = s.runs ++ new ∧ List.SublistForall₂ (Saw s.files) new [p] := by
  obtain ⟨run?, hruns, hsaw⟩ := h.new_run
  cases run? with
  | none => exact ⟨[], hruns, .nil⟩
  | some run => exact ⟨[run], hruns, .cons (hsaw run rfl) .nil⟩

theorem Tried.untouched {E : Type} {config : RepairConfig} {c : Crew E} {cands : List Patch}
    {ended : Except Failure (List Patch × Option Nat)} {s s₁ s' : Site E}
    (h : Tried config c s cands ended s₁) (hkeeps : Untouched s₁ s') :
    Tried config c s cands ended s' := by
  cases h with
  | raised hall => exact .raised (hall.untouched hkeeps)
  | exhausted hall => exact .exhausted (hall.untouched hkeeps)
  | accepted hall hlater haccepts => exact .accepted hall hlater (haccepts.untouched hkeeps)

namespace Loop

variable {E : Type} {c : Crew E} {locked : Set String} {config : RepairConfig}

variable {fault : Fault} {codeContext : String} {round : Nat} {pool cands tried : List Patch}
  {p : Patch} {s s₀ s₁ s' : Site E}

/-- A request for a refined candidate leaves the site untouched. -/
theorem refinement_untouched {made : Except Failure (List Patch)}
    (h : refinement ⟨config, c.host, fault, codeContext⟩ tried s = (made, s')) :
    Untouched s s' := by
  have hkeeps := (Generate.refine_yields c.host_reads c.host_asks config fault codeContext tried
    s).1
  rw [refinement] at h
  rwa [h] at hkeeps

/-- Around the validation of a candidate the site is untouched. -/
theorem Judges.validates (hlocks : c.Locks locked) {o : Outcome}
    (h : Judges ⟨config, c.host, fault, codeContext⟩ round p o s s') :
    ∃ s₁ s₂, Untouched s s₁ ∧ Validates config c p s₁ (.ok o) s₂ ∧ Untouched s₂ s' := by
  obtain ⟨_, s₂, hends, rfl⟩ := h
  have hvalidates := Validate.candidate_validates hlocks config p
    (c.host.notify (.candidate p round) s).2
  rw [hends] at hvalidates
  exact ⟨_, s₂, c.notify_keeps _ s, hvalidates, c.notify_keeps _ s₂⟩

theorem Raises.validates (hlocks : c.Locks locked) {f : Failure}
    (h : Raises ⟨config, c.host, fault, codeContext⟩ round p f s s') :
    ∃ s₁, Untouched s s₁ ∧ Validates config c p s₁ (.error f) s' := by
  have hvalidates := Validate.candidate_validates hlocks config p
    (c.host.notify (.candidate p round) s).2
  rw [h.2] at hvalidates
  exact ⟨_, c.notify_keeps _ s, hvalidates⟩

/-- What a crew does in the course of a run is to reject candidates. -/
theorem Course.all_rejected (hlocks : c.Locks locked) (hstart : Untouched s₀ s₁)
    {refined : List Patch}
    (h : Course ⟨config, c.host, fault, codeContext⟩ pool s₁ cands tried refined s) :
    AllRejected cands tried s₀ s := by
  induction h with
  | start => exact .start hstart
  | rejected _ hjudges hrejected ih =>
      obtain ⟨_, _, hbefore, hvalidates, hafter⟩ := hjudges.validates hlocks
      exact ((ih.untouched hbefore).snoc hvalidates hrejected).untouched hafter
  | refined _ _ hrefine ih => exact ih.untouched (refinement_untouched hrefine)

/-- A run of a crew tries the candidates of its pool in order, and then those that were refined. -/
theorem RunsTo.tries (hlocks : c.Locks locked) (hpool : ∀ p ∈ pool, p.validated = false)
    (hstart : Untouched s₀ s₁) {refined : List Patch} {memory memory' : Memory}
    {ended : Except Failure RunEnd}
    (h : RunsTo ⟨config, c.host, fault, codeContext⟩ memory pool s₁ refined memory' ended s') :
    Tried config c s₀ (pool ++ refined) (ended.map (·.verdict)) s' := by
  have hnew : ∀ q ∈ pool ++ refined, q.validated = false := fun q hq =>
    (List.mem_append.mp hq).elim (hpool q) fun hq => (h.refined_new q hq).1
  cases h with
  | raised hcourse hall hraises =>
      obtain ⟨_, hbefore, hvalidates⟩ := hraises.validates hlocks
      rw [hall]
      cases hvalidates with
      | raised hfiles hruns =>
          exact .raised (((hcourse.all_rejected hlocks hstart).untouched hbefore).idle hfiles hruns)
  | @unrefined _ _ f _ _ hcourse _ hrefine =>
      -- to ask for a refinement failed when all candidates had been rejected
      have hall := (hcourse.all_rejected hlocks hstart).untouched (refinement_untouched hrefine)
      have htried : Tried config c s₀ (pool ++ refined ++ []) (.error f) s' := .raised hall
      rwa [List.append_nil] at htried
  | last hcourse => exact .exhausted (hcourse.all_rejected hlocks hstart)
  | settled hcourse _ hrefine =>
      exact .exhausted
        ((hcourse.all_rejected hlocks hstart).untouched (refinement_untouched hrefine))
  | accepted hcourse hall hjudges haccepted =>
      obtain ⟨_, _, hbefore, hvalidates, hafter⟩ := hjudges.validates hlocks
      rw [hall] at hnew ⊢
      cases hvalidates with
      | accepted haccepts =>
          exact .accepted ((hcourse.all_rejected hlocks hstart).untouched hbefore)
            (fun q hq => hnew q (by simp [hq])) (haccepts.untouched hafter)
      | unapplied hno | rejected hno => simp [haccepted] at hno

end Loop

end Mender
