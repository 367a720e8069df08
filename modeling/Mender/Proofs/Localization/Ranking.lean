import Mender.Proofs.Keyed
import Mender.Proofs.Number.Order
import Mender.Proofs.Session.Targets

/-!
# The ranking of faults

Localization ranks the faults that a tool's output reports together with the statements that a
spectrum makes suspicious: each place once, with a score that its evidence determines, and the most
suspicious first (`Localization.localize_ranks`).
-/

namespace Mender

namespace Localization

/-- What faults are made of. -/
structure Evidence where
  /-- The faults that the lines of the output report. -/
  reported : List Fault
  /-- The stack frames of the output. -/
  frames : List Location
  /-- The statements that the spectrum kept. -/
  statements : List SuspiciousStatement

/-- The faults that the lines of an output report, if they are used. -/
def reportedFaults (config : LocalizationConfig) (output : String) : Except Failure (List Fault) :=
  if config.useStaticAnalysis then Diagnostic.faultsOf output else .ok []

/-- The stack frames of an output, if they are used. -/
def stackFrames (config : LocalizationConfig) (output : String) :
    Except Failure (List Location) :=
  if config.useStackTrace then Diagnostic.framesOf output else .ok []

/-- The statements that the spectrum keeps of the coverage of a test run, if there is one. -/
def keptStatements (config : LocalizationConfig) :
    Option Coverage → Except Failure (List SuspiciousStatement)
  | some c => c.rank config.metric config.threshold
  | none => .ok []

/-- The evidence that an output and the coverage of a test run give. -/
def evidence (config : LocalizationConfig) (output : String) (coverage : Option Coverage) :
    Except Failure Evidence := do
  return ⟨← reportedFaults config output, ← stackFrames config output,
    ← keptStatements config coverage⟩

/-- The faults to start from: those reported or, if there are none, one at the innermost frame. -/
def Evidence.faults (output : String) (ev : Evidence) : List Fault :=
  match ev.reported, ev.frames with
  | [], frame :: frames => [ofFrames output frame frames]
  | reported, _ => reported

section Places

/-- The first fault of each place is found by the place, unless the place was seen. -/
theorem find_first_per_place (seen : List Place) (faults : List Fault) (p : Place) :
    (firstPerPlace seen faults).find? (·.place = p) =
      if p ∈ seen then none else faults.find? (·.place = p) := by
  induction faults generalizing seen with
  | nil => simp [firstPerPlace]
  | cons f faults ih =>
      rw [firstPerPlace]
      by_cases hseen : f.place ∈ seen
      · rw [if_pos (by simpa using hseen), ih]
        by_cases hp : f.place = p
        · simp [← hp, hseen]
        · simp [hp]
      · rw [if_neg (by simpa using hseen), List.find?_cons]
        by_cases hp : f.place = p
        · subst hp
          simp [hseen]
        · simp [hp, ih, Ne.symm hp]

theorem not_seen_of_first_per_place {seen : List Place} {faults : List Fault} {f : Fault}
    (h : f ∈ firstPerPlace seen faults) : f.place ∉ seen := fun hseen => by
  have hnone : (firstPerPlace seen faults).find? (·.place = f.place) = none := by
    rw [find_first_per_place, if_pos hseen]
  simpa using List.find?_eq_none.mp hnone f h

theorem first_per_place_nodup (seen : List Place) (faults : List Fault) :
    ((firstPerPlace seen faults).map Fault.place).Nodup := by
  induction faults generalizing seen with
  | nil => exact List.nodup_nil
  | cons f faults ih =>
      rw [firstPerPlace]
      split
      · exact ih seen
      · refine List.nodup_cons.mpr ⟨fun hmem => ?_, ih _⟩
        obtain ⟨g, hg, hplace⟩ := List.mem_map.mp hmem
        exact not_seen_of_first_per_place hg (by simp [hplace])

end Places

section Clamped

/-- A score is another one brought into the unit interval: the same number inside it, and otherwise
the end that is nearer, or one for what is no number. -/
structure Clamps (x y : Float) : Prop where
  nonneg : 0.0 ≤ y
  le_one : y ≤ 1.0
  inside : 0.0 ≤ x → x ≤ 1.0 → x ≤ y ∧ y ≤ x
  below : x < 0.0 → y = 0.0
  above : 1.0 < x → y = 1.0
  undefined : x.isNaN = true → y = 1.0

theorem clamp_clamps (x : Float) : Clamps x (clampScore x) := by
  have hends : (0.0 : Float) < 1.0 := by decide
  by_cases hsmall : x < 1.0
  · have hnumber := (Binary64.numbers_of_lt hsmall).1
    have hdefined : ¬x.isNaN = true := by simp only [hnumber, Bool.false_eq_true, not_false_eq_true]
    have habove : ¬1.0 < x := Binary64.not_lt_of_lt hsmall
    by_cases hpositive : 0.0 < x
    · have hscore : clampScore x = x := by simp [clampScore, hsmall, hpositive]
      have hself : x ≤ x := (Binary64.le_iff_not_lt hnumber hnumber).mpr fun h =>
        Binary64.not_lt_of_lt h h
      rw [hscore]
      exact ⟨Binary64.le_of_lt hpositive, Binary64.le_of_lt hsmall, fun _ _ => ⟨hself, hself⟩,
        fun h => absurd h (Binary64.not_lt_of_lt hpositive), fun h => absurd h habove,
        fun h => absurd h hdefined⟩
    · have hscore : clampScore x = 0.0 := by simp [clampScore, hsmall, hpositive]
      have hzero : x ≤ 0.0 := (Binary64.le_iff_not_lt hnumber (by decide)).mpr hpositive
      rw [hscore]
      exact ⟨by decide, by decide, fun h _ => ⟨hzero, h⟩, fun _ => rfl, fun h => absurd h habove,
        fun h => absurd h hdefined⟩
  · have hscore : clampScore x = 1.0 := by simp [clampScore, hsmall, hends]
    rw [hscore]
    refine ⟨by decide, by decide, fun h hle => ⟨hle, ?_⟩, fun h => ?_, fun _ => rfl, fun _ => rfl⟩
    · exact (Binary64.le_iff_not_lt (by decide) (Binary64.numbers_of_le h).2).mpr hsmall
    · exact absurd (Binary64.lt_trans h hends) hsmall

end Clamped

section Rank

variable {config : LocalizationConfig} {statements : List SuspiciousStatement}
  {faults : List Fault}

theorem fuse_place (f : Fault) : (fuse config statements f).place = f.place := by
  unfold fuse
  split <;> rfl

/-- The statement that becomes a fault at a place: the first one there that is suspicious. -/
def suspect? (statements : List SuspiciousStatement) (p : Place) : Option SuspiciousStatement :=
  statements.find? fun s => s.place = p && !decide (s.suspiciousness < promotionScore)

/-- A place has the fault of a statement if it has no other. -/
theorem find_promoted {p : Place} (hp : ∀ f ∈ faults, f.place ≠ p) :
    (promoted faults statements).find? (·.place = p) = (suspect? statements p).map ofStatement := by
  rw [promoted, List.find?_map, List.find?_filter, suspect?]
  refine congrArg (Option.map ofStatement ·) (congrArg (statements.find? ·) (funext fun s => ?_))
  have hplace : (ofStatement s).place = s.place := rfl
  by_cases hs : s.place = p
  · simpa [hplace, hs] using fun _ => hp
  · simp [hplace, hs]

theorem rank_nodup : ((rank config statements faults).map Fault.place).Nodup :=
  ((List.mergeSort_perm _ _).map _).nodup_iff.mpr (first_per_place_nodup _ _)

/-- What the ranking has at a place. -/
theorem find_rank (p : Place) : (rank config statements faults).find? (·.place = p) =
    match faults.find? (·.place = p) with
    | some f => some (fuse config statements f)
    | none => (suspect? statements p).map ofStatement := by
  have hfused : ((faults.map (fuse config statements)).find? (·.place = p)) =
      (faults.find? (·.place = p)).map (fuse config statements) := by
    simp only [List.find?_map, Function.comp_def, fuse_place]
  have hfirst : (rank config statements faults).find? (·.place = p) =
      (faults.map (fuse config statements) ++
        promoted (faults.map (fuse config statements)) statements).find? (·.place = p) := by
    have hunseen := find_first_per_place [] (faults.map (fuse config statements) ++
      promoted (faults.map (fuse config statements)) statements) p
    rw [if_neg List.not_mem_nil] at hunseen
    rw [← hunseen]
    refine Option.ext fun f => ?_
    rw [Keyed.find_eq_some_iff rank_nodup, Keyed.find_eq_some_iff (first_per_place_nodup _ _)]
    rw [rank, List.mem_mergeSort]
  rw [hfirst, List.find?_append, hfused]
  cases hfind : faults.find? (·.place = p) with
  | some f => rfl
  | none =>
      refine find_promoted fun f hf => ?_
      obtain ⟨g, hg, rfl⟩ := List.mem_map.mp hf
      rw [fuse_place]
      simpa using List.find?_eq_none.mp hfind g hg

/-- Faults sorted by scores that are numbers are none of them followed by a more suspicious one. -/
theorem sorted_by_numbers {faults : List Fault}
    (hnumbers : ∀ f ∈ faults, f.suspiciousness.isNaN = false) :
    (faults.mergeSort rankedBefore).Pairwise fun f g => ¬ f.suspiciousness < g.suspiciousness := by
  -- not to be less is no order among doubles in general, so the sort is compared with one by keys
  let byKey (f g : Fault) : Bool := Binary64.key g.suspiciousness ≤ Binary64.key f.suspiciousness
  have hbyKey : ∀ f ∈ faults, ∀ g ∈ faults, rankedBefore f g = byKey f g := fun f hf g hg => by
    rw [Bool.eq_iff_iff]
    simp [rankedBefore, byKey, Binary64.lt_iff_key_lt (hnumbers f hf) (hnumbers g hg)]
  have hsort : faults.mergeSort rankedBefore = faults.mergeSort byKey := by
    simpa using List.map_mergeSort (f := id) hbyKey
  have hsorted : (faults.mergeSort byKey).Pairwise fun f g => byKey f g :=
    List.pairwise_mergeSort (fun f g h hfg hgh => by
      simp only [byKey, decide_eq_true_eq] at hfg hgh ⊢
      exact hgh.trans hfg) (fun f g => by simpa [byKey] using le_total _ _) faults
  rw [hsort]
  refine hsorted.imp_of_mem fun {f g} hf hg hfg => ?_
  rw [List.mem_mergeSort] at hf hg
  simpa [rankedBefore] using (hbyKey f hf g hg).trans hfg

theorem rank_ordered
    (hnumbers : ∀ f ∈ rank config statements faults, f.suspiciousness.isNaN = false) :
    (rank config statements faults).Pairwise fun f g => ¬ f.suspiciousness < g.suspiciousness :=
  sorted_by_numbers fun f hf => hnumbers f (List.mem_mergeSort.mpr hf)

/-- A list of faults ranks the places of given faults and of statements. -/
structure Ranks (config : LocalizationConfig) (statements : List SuspiciousStatement)
    (faults ranking : List Fault) : Prop where
  /-- Each place is ranked once. -/
  nodup : (ranking.map Fault.place).Nodup
  /-- The places are those of the faults and of the statements that are suspicious enough. -/
  places : ∀ p, p ∈ ranking.map Fault.place ↔ p ∈ faults.map Fault.place ∨
    ∃ s ∈ statements, s.place = p ∧ ¬ s.suspiciousness < promotionScore
  /-- The first fault of a place keeps its score if the spectrum does not know the place. -/
  alone : ∀ f ∈ ranking, ∀ g, faults.find? (·.place = f.place) = some g →
    (∀ s ∈ statements, s.place ≠ f.place) → f.suspiciousness = g.suspiciousness
  /-- Otherwise it has the weighted sum of its score and the clamped one of the spectrum. -/
  fused : ∀ f ∈ ranking, ∀ g s, faults.find? (·.place = f.place) = some g →
    statements.find? (·.place = f.place) = some s →
      ∃ score, Clamps s.suspiciousness score ∧ f.suspiciousness =
        config.staticWeight * g.suspiciousness + config.spectrumWeight * score
  /-- A place without a fault has the clamped score of its first suspicious statement. -/
  promoted : ∀ f ∈ ranking, f.place ∉ faults.map Fault.place →
    ∃ s, suspect? statements f.place = some s ∧ Clamps s.suspiciousness f.suspiciousness
  /-- No fault is followed by a more suspicious one. -/
  ordered : (∀ f ∈ ranking, f.suspiciousness.isNaN = false) →
    ranking.Pairwise fun f g => ¬ f.suspiciousness < g.suspiciousness

/-- Places with equal scores at the start are ranked alike. -/
theorem Ranks.of_same_scores {faults' ranking : List Fault}
    (h : Ranks config statements faults ranking)
    (hsame : ∀ p, (faults.find? (·.place = p)).map (·.suspiciousness) =
      (faults'.find? (·.place = p)).map (·.suspiciousness)) :
    Ranks config statements faults' ranking := by
  have hfirst : ∀ {p g}, faults'.find? (·.place = p) = some g →
      ∃ g', faults.find? (·.place = p) = some g' ∧ g'.suspiciousness = g.suspiciousness :=
    fun {p g} hg => by
      have hscore := hsame p
      rw [hg] at hscore
      exact Option.map_eq_some_iff.mp hscore
  have hplaces : ∀ p, p ∈ faults.map Fault.place ↔ p ∈ faults'.map Fault.place := fun p => by
    have hknown : ∀ fs : List Fault, p ∈ fs.map Fault.place ↔
        ((fs.find? (·.place = p)).map (·.suspiciousness)).isSome := fun fs => by simp
    rw [hknown, hknown, hsame]
  refine ⟨h.nodup, fun p => ?_, fun f hf g hg hs => ?_, fun f hf g s hg hs => ?_,
    fun f hf hnone => ?_, h.ordered⟩
  · rw [h.places, hplaces]
  · obtain ⟨g', hg', hscore⟩ := hfirst hg
    rw [h.alone f hf g' hg' hs, hscore]
  · obtain ⟨g', hg', hscore⟩ := hfirst hg
    obtain ⟨score, hclamps, hsum⟩ := h.fused f hf g' s hg' hs
    exact ⟨score, hclamps, by rw [hsum, hscore]⟩
  · exact h.promoted f hf (by rwa [hplaces])

theorem place_of_find {p : Place} {f : Fault} (h : faults.find? (·.place = p) = some f) :
    f.place = p := by
  simpa using List.find?_some h

theorem mem_places_iff {p : Place} :
    p ∈ faults.map Fault.place ↔ faults.find? (·.place = p) ≠ none := by
  simp

theorem suspect_iff {p : Place} : suspect? statements p ≠ none ↔
    ∃ s ∈ statements, s.place = p ∧ ¬ s.suspiciousness < promotionScore := by
  simp [suspect?]

/-- The ranking that localization makes. -/
theorem rank_ranks : Ranks config statements faults (rank config statements faults) := by
  have hat : ∀ f ∈ rank config statements faults,
      (rank config statements faults).find? (·.place = f.place) = some f := fun f hf =>
    (Keyed.find_eq_some_iff rank_nodup).mpr ⟨hf, rfl⟩
  refine ⟨rank_nodup, fun p => ?_, fun f hf g hg hs => ?_, fun f hf g s hg hs => ?_,
    fun f hf hnone => ?_, rank_ordered⟩
  · rw [mem_places_iff, mem_places_iff, find_rank, ← suspect_iff]
    cases faults.find? (·.place = p) <;> simp
  · have hfind := hat f hf
    rw [find_rank, hg] at hfind
    have hunknown : scoreAt? statements g.place = none := by
      simpa [scoreAt?, place_of_find hg] using hs
    rw [← Option.some.inj hfind, fuse, hunknown]
  · have hfind := hat f hf
    rw [find_rank, hg] at hfind
    have hknown : scoreAt? statements g.place = some (clampScore s.suspiciousness) := by
      rw [scoreAt?, place_of_find hg, hs]
      rfl
    exact ⟨_, clamp_clamps _, by rw [← Option.some.inj hfind, fuse, hknown]⟩
  · have hfind := hat f hf
    rw [mem_places_iff, not_not] at hnone
    rw [find_rank, hnone] at hfind
    obtain ⟨s, hs, hplace⟩ := Option.map_eq_some_iff.mp hfind
    exact ⟨s, hs, hplace ▸ clamp_clamps s.suspiciousness⟩

end Rank

section Found

variable {config : LocalizationConfig} {output : String}

/-- Stack frames give no fault another score. -/
theorem with_frames_place (frames : List Location) (f : Fault) :
    (withFrames frames f).place = f.place ∧
      (withFrames frames f).suspiciousness = f.suspiciousness := by
  unfold withFrames
  split <;> exact ⟨rfl, rfl⟩

theorem Evidence.diagnosed_scores (ev : Evidence) (p : Place) :
    ((addFrames output (firstPerPlace [] ev.reported) ev.frames).find? (·.place = p)).map
        (·.suspiciousness) =
      ((ev.faults output).find? (·.place = p)).map (·.suspiciousness) := by
  obtain ⟨reported, frames, statements⟩ := ev
  have hfirst : (firstPerPlace [] reported).find? (·.place = p) =
      reported.find? (·.place = p) := by
    rw [find_first_per_place, if_neg List.not_mem_nil]
  -- frames make a fault only when there is none, and leave the scores of the others alone
  match reported, frames with
  | [], [] | [], _ :: _ => rfl
  | f :: fs, [] =>
      show ((firstPerPlace [] (f :: fs)).find? _).map _ = _
      rw [hfirst]
      rfl
  | f :: fs, frame :: frames =>
      show (((firstPerPlace [] (f :: fs)).map (withFrames (frame :: frames))).find? _).map _ = _
      rw [List.find?_map]
      simp only [Function.comp_def, (with_frames_place _ _).1]
      rw [hfirst, Option.map_map]
      simp only [Function.comp_def, (with_frames_place _ _).2]
      rfl

/-- The diagnosed faults are those reported, with what stack frames tell. -/
theorem diagnosed_eq (config : LocalizationConfig) (output : String) :
    diagnosed config output = (do
      let reported ← reportedFaults config output
      return addFrames output (firstPerPlace [] reported) (← stackFrames config output)) := by
  rw [diagnosed, reportedFaults, stackFrames]
  cases config.useStaticAnalysis <;> cases config.useStackTrace <;> rfl

/-- Localization finds as many faults and statements as are wanted, from the start of what its
evidence makes. -/
theorem found_of_evidence (config : LocalizationConfig) (output : String)
    (coverage : Option Coverage) :
    Localization.found config output coverage =
      (evidence config output coverage).map fun ev =>
        ⟨before config.maxStatements (rank config ev.statements
            (addFrames output (firstPerPlace [] ev.reported) ev.frames)),
          before config.maxStatements ev.statements⟩ := by
  have heq : Localization.found config output coverage = (do
      let diagnosed ← diagnosed config output
      let statements ← keptStatements config coverage
      return ⟨before config.maxStatements (rank config statements diagnosed),
        before config.maxStatements statements⟩) := by
    cases coverage <;> rfl
  rw [heq, diagnosed_eq, evidence]
  cases reportedFaults config output <;> cases stackFrames config output <;>
    cases keptStatements config coverage <;> rfl

end Found

section Localizing

variable {σ : Type} (host : Host (StateM σ))

/-- Showing faults fails only where the file of one of them cannot be read. -/
theorem with_snippets_fails {context : Int} {faults : List Fault} {e : Failure} {s s' : σ}
    (h : withSnippets host context faults s = (.error e, s')) :
    ∃ f ∈ faults, ∃ s₁ s₂, host.readable f.location.file s₁ = (.error e, s₂) := by
  induction faults generalizing s s' with
  | nil => cases h
  | cons f fs ih =>
      rw [withSnippets, run_bind] at h
      rcases hread : host.readable f.location.file s with ⟨e' | content, s₁⟩ <;> rw [hread] at h
      · cases h
        exact ⟨f, List.mem_cons_self, s, _, hread⟩
      simp only [run_bind] at h
      rcases hothers : withSnippets host context fs s₁ with ⟨e' | others, s₂⟩ <;>
        rw [hothers] at h <;> cases h
      obtain ⟨g, hg, hread⟩ := ih hothers
      exact ⟨g, List.mem_cons_of_mem _ hg, hread⟩

theorem localize_fails {config : LocalizationConfig} {output : String} {coverage : Option Coverage}
    {found : Found} {e : Failure} {s s' : σ}
    (hfound : Localization.found config output coverage = .ok found)
    (h : localize config host output coverage s = (.error e, s')) :
    ∃ f ∈ found.faults, ∃ s₁ s₂, host.readable f.location.file s₁ = (.error e, s₂) := by
  simp only [localize, hfound, run_bind] at h
  rcases hshown : withSnippets host config.snippetContextLines found.faults s with
    ⟨e' | faults, s₁⟩ <;> rw [hshown] at h <;> cases h
  exact with_snippets_fails host hshown

/-- What localization makes of an output and of coverage. If its evidence cannot be read, it fails
in the same way. Otherwise there is a ranking of all places of the evidence, and localization
returns the first of its faults, as many as are wanted, with the text around them, so that no fault
that is left out is more suspicious than one that is returned; it fails only where the file of a
fault cannot be read. -/
theorem localize_ranks {config : LocalizationConfig} (hmax : 0 ≤ config.maxStatements)
    (output : String) (coverage : Option Coverage) (s : σ) :
    match evidence config output coverage with
    | .error e => localize config host output coverage s = (.error e, s)
    | .ok ev => ∃ ranking, Ranks config ev.statements (ev.faults output) ranking ∧
        match localize config host output coverage s with
        | (.error e, _) =>
            ∃ f ∈ ranking, ∃ s₁ s₂, host.readable f.location.file s₁ = (.error e, s₂)
        | (.ok found, _) =>
            List.Forall₂ Shows (ranking.take config.maxStatements.toNat) found.faults ∧
            found.statements = ev.statements.take config.maxStatements.toNat ∧
            ((∀ f ∈ ranking, f.suspiciousness.isNaN = false) →
              ∀ f ∈ found.faults, ∀ g ∈ ranking.drop config.maxStatements.toNat,
                ¬ f.suspiciousness < g.suspiciousness) := by
  have hfound := found_of_evidence config output coverage
  cases hev : evidence config output coverage with
  | error e =>
      rw [hev] at hfound
      simp only [localize, hfound]
      rfl
  | ok ev =>
      rw [hev] at hfound
      have hranks : Ranks config ev.statements (ev.faults output) _ :=
        rank_ranks.of_same_scores ev.diagnosed_scores
      refine ⟨_, hranks, ?_⟩
      rcases hlocal : localize config host output coverage s with ⟨e | shown, s'⟩
      · obtain ⟨f, hf, hread⟩ := localize_fails host hfound hlocal
        exact ⟨f, List.mem_of_mem_take hf, hread⟩
      · obtain ⟨found, hfound', hstatements, hshows⟩ := localize_shows host hlocal
        obtain rfl := Except.ok.inj (hfound.symm.trans hfound')
        simp only [before_of_nonneg hmax] at hstatements hshows
        refine ⟨hshows, hstatements, fun hnumbers f hf g hg => ?_⟩
        obtain ⟨f₀, hf₀, _, rfl⟩ := exists_of_forall₂ hshows hf
        have hordered := hranks.ordered hnumbers
        rw [← List.take_append_drop config.maxStatements.toNat (rank _ _ _)] at hordered
        exact (List.pairwise_append.mp hordered).2.2 f₀ hf₀ g hg

end Localizing

/-- Two failing tests and a passing one, all of which execute one line. -/
def sharedLine : Coverage :=
  .ofMatrix ⟨[⟨"t", false, [⟨"a.js", 1⟩]⟩, ⟨"u", false, [⟨"a.js", 1⟩]⟩, ⟨"v", true, [⟨"a.js", 1⟩]⟩]⟩

/-- By D* the line scores four, which counts as one: as a part of the score of a fault that is
reported there, and alone when none is. -/
theorem localize_ranks_shared_line :
    let config : LocalizationConfig := { metric := .dstar }
    let host := (Crew.steady (fun _ _ => none) (.value { success := true })).host
    let site : Site Unit := .single "a.js" "x = 1\n"
    let runs : List (String × Float) := [("    at a.js:1:5", 0.6 * 1.0 + 0.4 * 1.0), ("", 1.0)]
    0 ≤ config.maxStatements ∧ ∀ run ∈ runs, ∃ ev ranking found,
      evidence config run.1 (some sharedLine) = .ok ev ∧
      ev.statements.map (·.suspiciousness) = [4.0] ∧
      Ranks config ev.statements (ev.faults run.1) ranking ∧
      (localize config host run.1 (some sharedLine) site).1 = .ok found ∧
      List.Forall₂ Shows (ranking.take 20) found.faults ∧
      found.faults.map (fun f => (f.place, f.suspiciousness)) = [(⟨"a.js", 1⟩, run.2)] := by
  intro config host site runs
  have hmax : 0 ≤ config.maxStatements := by decide
  have hscores : ∀ run ∈ runs, (evidence config run.1 (some sharedLine)).toOption.map
      (·.statements.map (·.suspiciousness)) = some [4.0] := by decide +kernel
  have hfaults : ∀ run ∈ runs, (localize config host run.1 (some sharedLine) site).1.toOption.map
      (·.faults.map fun f => (f.place, f.suspiciousness)) = some [(⟨"a.js", 1⟩, run.2)] := by
    decide +kernel
  refine ⟨hmax, fun run hrun => ?_⟩
  have hscore := hscores run hrun
  have hfault := hfaults run hrun
  have hranks := localize_ranks host hmax run.1 (some sharedLine) site
  rcases hev : evidence config run.1 (some sharedLine) with e | ev <;> rw [hev] at hscore hranks
  · cases hscore
  obtain ⟨ranking, hranking, hfound⟩ := hranks
  rcases hlocal : localize config host run.1 (some sharedLine) site with ⟨e | found, s'⟩ <;>
    rw [hlocal] at hfault hfound
  · cases hfault
  · exact ⟨ev, ranking, found, rfl, Option.some.inj hscore, hranking, rfl, hfound.1,
      Option.some.inj hfault⟩

end Localization

end Mender
