import Mender.Proofs.Session.Results

/-!
# What is repaired

Localization leaves out places in third-party code, wherever it takes them from: no fault that it
finds is there, nor any location related to one (`Localization.localized_own`). The fault of the
first file that an output names, which takes the place of localized ones when there are none, is
wherever that file is. `Engine.repair_targets_vendored_iff` says when a session works on such a
fault.
-/

namespace Mender

/-- A fault whose locations are all in the project's own code. -/
structure Fault.Own (f : Fault) : Prop where
  location : Diagnostic.isVendored f.location.file = false
  related : ∀ l ∈ f.related, Diagnostic.isVendored l.file = false

namespace Diagnostic

theorem place_own (m : Match) :
    Gives (∀ l ∈ ·, isVendored l.file = false) (placeOf? m) := by
  rw [placeOf?]
  split
  · exact .pure (by simp)
  · rename_i hown
    refine .bind (.any _) fun line _ => .bind (.any _) fun column _ => .pure fun l hl => ?_
    obtain rfl := Option.some.inj hl
    exact Bool.eq_false_iff.mpr hown

theorem fault_own (text : String) (line : List Char) (later : List (List Char)) :
    Gives (∀ f ∈ ·, Fault.Own f) (faultOf? text line later) := by
  rw [faultOf?]
  split
  · exact .pure (by simp)
  split
  · refine .bind (place_own _) fun place hplace => .pure fun f hf => ?_
    obtain ⟨l, hl, rfl⟩ := Option.map_eq_some_iff.mp hf
    exact ⟨hplace l hl, by simp⟩
  · exact .pure (by simp)

theorem faults_of_lines_own (text : String) (lines : List (List Char)) :
    Gives (∀ f ∈ ·, Fault.Own f) (faultsOfLines text lines) := by
  induction lines with
  | nil => exact .pure (by simp)
  | cons line later ih =>
      refine .bind (fault_own text line later) fun fault hfault => .bind ih fun others hothers =>
        .pure fun f hf => ?_
      rcases List.mem_append.mp hf with hf | hf
      · exact hfault f (Option.mem_toList.mp hf)
      · exact hothers f hf

theorem frames_of_shape_own (shape : Pattern) (text : String) :
    Gives (∀ frame ∈ ·, isVendored frame.2.file = false) (framesOfShape shape text) := by
  have hmatch : ∀ m ∈ shape.findAll text.toList,
      Gives (∀ frame ∈ ·, isVendored frame.2.file = false)
        (placeOf? m >>= fun place => pure (place.map fun l => (m.start, l))) := fun m _ => by
    refine .bind (place_own m) fun place hplace => .pure fun frame hframe => ?_
    obtain ⟨l, hl, rfl⟩ := Option.map_eq_some_iff.mp hframe
    exact hplace l hl
  refine .bind (.mapM hmatch) fun found hfound => .pure fun frame hframe => ?_
  obtain ⟨some?, hmem, hsome⟩ := List.mem_filterMap.mp hframe
  exact hfound some? hmem frame hsome

theorem frames_own (text : String) :
    Gives (∀ l ∈ ·, isVendored l.file = false) (framesOf text) := by
  refine .bind (frames_of_shape_own callFrame text) fun calls hcalls =>
    .bind (frames_of_shape_own quotedFrame text) fun quoted hquoted => .pure fun l hl => ?_
  obtain ⟨frame, hmem, rfl⟩ := List.mem_map.mp hl
  rcases List.mem_append.mp (List.mem_mergeSort.mp hmem) with hframe | hframe
  · exact hcalls frame hframe
  · exact hquoted frame hframe

/-- The fault of a file that a text names has no related locations. -/
theorem reference_alone (output : String) :
    Gives (∀ f ∈ ·, Fault.related f = []) (referenceOf? output) := by
  rw [referenceOf?]
  cases fileReference.search output.toList with
  | none => exact .pure (by simp)
  | some m =>
      rw [Option.mapM_some]
      rintro _ h f hf
      obtain ⟨_, hnamed, rfl⟩ := map_eq_ok h
      obtain rfl := Option.some.inj hf
      dsimp only at hnamed
      split at hnamed
      · obtain ⟨line, _, hnamed⟩ := bind_eq_ok hnamed
        cases hnamed
        rfl
      · cases hnamed
        rfl

end Diagnostic

namespace Localization

theorem mem_of_first_per_place {seen : List Place} {faults : List Fault} {f : Fault}
    (h : f ∈ firstPerPlace seen faults) : f ∈ faults := by
  induction faults generalizing seen with
  | nil => cases h
  | cons g faults ih =>
      rw [firstPerPlace] at h
      split at h
      · exact List.mem_cons_of_mem _ (ih h)
      · rcases List.mem_cons.mp h with rfl | h
        · exact List.mem_cons_self
        · exact List.mem_cons_of_mem _ (ih h)

/-- Stack frames in own code add locations and faults there only. -/
theorem add_frames_own {output : String} {faults : List Fault} {frames : List Location}
    (hfaults : ∀ f ∈ faults, f.Own)
    (hframes : ∀ l ∈ frames, Diagnostic.isVendored l.file = false) :
    ∀ f ∈ addFrames output faults frames, f.Own := by
  intro f hf
  match frames, faults with
  | [], _ => exact hfaults f hf
  | frame :: frames, [] =>
      obtain rfl := List.mem_singleton.mp hf
      exact ⟨hframes frame List.mem_cons_self, fun l hl =>
        hframes l (List.mem_cons_of_mem _ (List.mem_of_mem_take hl))⟩
  | frame :: frames, fault :: faults =>
      obtain ⟨g, hg, rfl⟩ := List.mem_map.mp hf
      have hown := hfaults g hg
      unfold withFrames
      split
      · exact hown
      · rename_i related hrelated
        refine ⟨hown.location, fun l hl => hframes l ?_⟩
        exact (List.mem_filter.mp (List.mem_of_mem_take hl)).1

theorem diagnosed_own (config : LocalizationConfig) (output : String) :
    Gives (∀ f ∈ ·, Fault.Own f) (diagnosed config output) := by
  have hframes : ∀ reported : List Fault, (∀ f ∈ reported, f.Own) →
      Gives (∀ f ∈ ·, Fault.Own f)
        (if config.useStackTrace then
          return addFrames output (firstPerPlace [] reported) (← Diagnostic.framesOf output)
        else return firstPerPlace [] reported) := fun reported hreported => by
    have hfirst : ∀ f ∈ firstPerPlace [] reported, f.Own := fun f hf =>
      hreported f (mem_of_first_per_place hf)
    split
    · exact .bind (Diagnostic.frames_own output) fun frames hframes =>
        .pure (add_frames_own hfirst hframes)
    · exact .pure hfirst
  rw [diagnosed]
  split
  · exact .bind (Diagnostic.faults_of_lines_own _ _) hframes
  · exact hframes [] (by simp)

/-- Without a spectrum the ranked faults are the diagnosed ones. -/
theorem mem_of_rank {config : LocalizationConfig} {faults : List Fault} {f : Fault}
    (h : f ∈ rank config [] faults) : f ∈ faults := by
  have hfuse : fuse config [] = id := funext fun f => rfl
  have h := mem_of_first_per_place (List.mem_mergeSort.mp h)
  rwa [hfuse, List.map_id, promoted, List.filter_nil, List.map_nil, List.append_nil] at h

/-- What localization finds without coverage is in own code. -/
theorem found_own (config : LocalizationConfig) (output : String) :
    Gives (fun found => found.statements = [] ∧ ∀ f ∈ found.faults, Fault.Own f)
      (Localization.found config output none) :=
  .bind (diagnosed_own config output) fun _ hfaults => .pure
    ⟨List.take_nil, fun f hf => hfaults f (mem_of_rank (List.mem_of_mem_take hf))⟩

/-- One fault is another with some text around it. -/
def Shows (f shown : Fault) : Prop :=
  ∃ snippet, shown = { f with location := { f.location with snippet } }

section Snippets

variable {σ : Type} (host : Host (StateM σ))

theorem with_snippets_shows {context : Int} {faults shown : List Fault} {s s' : σ}
    (h : withSnippets host context faults s = (.ok shown, s')) :
    List.Forall₂ Shows faults shown := by
  induction faults generalizing shown s s' with
  | nil =>
      cases h
      exact .nil
  | cons f fs ih =>
      rw [withSnippets, run_bind] at h
      rcases hread : host.readable f.location.file s with ⟨e | content, s₁⟩ <;> rw [hread] at h
      · cases h
      simp only [run_bind] at h
      rcases hothers : withSnippets host context fs s₁ with ⟨e | others, s₂⟩ <;>
        rw [hothers] at h <;> cases h
      refine .cons ?_ (ih hothers)
      cases content with
      | none => exact ⟨f.location.snippet, rfl⟩
      | some content => exact ⟨_, rfl⟩

/-- Localization finds what its options say of the output, and shows it in the source text. -/
theorem localize_shows {config : LocalizationConfig} {output : String} {coverage : Option Coverage}
    {s s' : σ} {shown : Found} (h : localize config host output coverage s = (.ok shown, s')) :
    ∃ found, Localization.found config output coverage = .ok found ∧
      shown.statements = found.statements ∧ List.Forall₂ Shows found.faults shown.faults := by
  rw [localize] at h
  rcases hfound : Localization.found config output coverage with e | found <;> rw [hfound] at h
  · cases h
  simp only [run_bind] at h
  rcases hshown : withSnippets host config.snippetContextLines found.faults s with
    ⟨e | faults, s₁⟩ <;> rw [hshown] at h <;> cases h
  exact ⟨found, rfl, rfl, with_snippets_shows host hshown⟩

end Snippets

theorem shows_own {faults shown : List Fault} (h : List.Forall₂ Shows faults shown)
    (hown : ∀ f ∈ faults, f.Own) : ∀ f ∈ shown, f.Own := by
  induction h with
  | nil => simp
  | cons hfirst _ ih =>
      obtain ⟨_, rfl⟩ := hfirst
      obtain ⟨hf, hothers⟩ := List.forall_mem_cons.mp hown
      exact List.forall_mem_cons.mpr ⟨⟨hf.location, hf.related⟩, ih hothers⟩

end Localization

/-- A session that gives results has one for each of its faults, and these are what it made of the
localized ones. -/
theorem Session.RunsTo.faults {σ : Type} {setting : Setting (StateM σ)}
    {localization : LocalizationConfig} {memory memory' : Memory} {output : String}
    {coverage : Option Coverage} {s s' : σ} {session : Session}
    (h : RunsTo setting localization memory output coverage s memory' (.ok session) s') :
    session.results.map (·.fault) = session.faults ∧ ∃ found s₁,
      localize localization setting.host output coverage (beginning setting.host s).2 =
        (.ok found, s₁) ∧ faultsToRepair output found.faults = .ok session.faults := by
  cases h with
  | ended hlocal hfaults hworked _ =>
      refine ⟨?_, _, _, hlocal, hfaults⟩
      rw [List.map_append, hworked.results_fault.1, List.map_map]
      exact congrArg (_ ++ ·) (List.map_id _)

/-- When localized faults are in own code, a fault that is not is the one that the output names in
their absence. -/
theorem Session.foreign_is_named {output : String} {localized faults : List Fault} {f : Fault}
    (h : faultsToRepair output localized = .ok faults) (hown : ∀ f ∈ localized, f.Own)
    (hf : f ∈ faults) (hforeign : ¬ f.Own) :
    localized = [] ∧ Diagnostic.referenceOf? output = .ok (some f) ∧
      Diagnostic.isVendored f.location.file = true ∧ faults = [f] := by
  cases localized with
  | cons g gs =>
      cases h
      exact absurd (hown f hf) hforeign
  | nil =>
      obtain ⟨named, hnamed, hfaults⟩ := bind_eq_ok h
      obtain rfl : named.toList = faults := Except.ok.inj hfaults
      obtain rfl := Option.mem_toList.mp hf
      have halone : f.related = [] := Diagnostic.reference_alone output _ hnamed f rfl
      refine ⟨rfl, hnamed, ?_, rfl⟩
      by_contra hinside
      exact hforeign ⟨Bool.eq_false_iff.mpr hinside, by simp [halone]⟩

/-- A session without coverage works on a fault in third-party code, or with a related location
there, exactly when localization finds nothing and the first file that the output names is such.
That is then its only fault. -/
theorem Engine.repair_targets_vendored_iff {σ : Type} (host : Host (StateM σ)) (e : Engine)
    (output : String) (hint : Option String) (s : σ) :
    ∃ e' result s', Engine.repair host e output hint none s = ((e', result), s') ∧
      ∀ results, result = .ok results →
        ((∃ r ∈ results, ¬ r.fault.Own) ↔
          Localization.found e.localization output none = .ok ⟨[], []⟩ ∧
          ∃ f, Diagnostic.referenceOf? output = .ok (some f) ∧
            Diagnostic.isVendored f.location.file = true ∧ results.map (·.fault) = [f]) := by
  obtain ⟨memory', result, s', hrun, hends⟩ := Session.run_runs_to ⟨e.config, host, hint⟩
    e.localization e.memory output none s
  cases result with
  | error f =>
      refine ⟨{ e with memory := memory' }, .error f, s', ?_, by simp⟩
      rw [Engine.repair, run_bind, hrun]
      rfl
  | ok session =>
      refine ⟨({ e with memory := memory' }).store session, .ok session.results, s', ?_, ?_⟩
      · rw [Engine.repair, run_bind, hrun]
        rfl
      rintro _ ⟨⟩
      obtain ⟨hresults, shown, s₁, hlocal, hfaults⟩ := hends.faults
      obtain ⟨⟨faults, statements⟩, hfound, _, hshows⟩ := Localization.localize_shows host hlocal
      obtain ⟨hnone, hown⟩ := Localization.found_own e.localization output _ hfound
      constructor
      · -- faults of localization are own ones, so a foreign one was named by the text
        rintro ⟨r, hr, hforeign⟩
        obtain ⟨hnothing, hnamed, hvendored, hone⟩ := Session.foreign_is_named hfaults
          (Localization.shows_own hshows hown) (hresults ▸ List.mem_map_of_mem hr) hforeign
        rw [hnothing] at hshows
        cases hnone
        cases List.forall₂_nil_right_iff.mp hshows
        exact ⟨hfound, r.fault, hnamed, hvendored, hresults.trans hone⟩
      · rintro ⟨_, f, _, hvendored, hf⟩
        have hmem : f ∈ session.results.map (·.fault) := by simp [hf]
        obtain ⟨r, hr, rfl⟩ := List.mem_map.mp hmem
        exact ⟨r, hr, fun h => by simp [h.location] at hvendored⟩

/-- Of a stack frame in third-party code localization takes nothing, and the session works on a
fault there. -/
theorem Engine.repair_targets_vendored_frame :
    let output := "    at node_modules/lib/index.js:3:5"
    let ended := Engine.repair (Crew.steady (fun _ _ => none) (.value { success := true })).host
      (.create {} none none) output none none (.single "a.py" "x = 1\n")
    Diagnostic.isVendored "node_modules/lib/index.js" = true ∧
      (Localization.diagnosed {} output).toOption.map (·.length) = some 0 ∧
      ended.1.2.toOption.map (·.map (·.fault.location.file)) =
        some ["node_modules/lib/index.js"] := by
  decide +kernel

end Mender
