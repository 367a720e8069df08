import Mender.Proofs.Localization.Ranking
import Mender.Proofs.Pattern.Reading

/-!
# Related locations

The stack frames of an output are the locations that a fault can be related to. They stand in the
order in which the output shows them (`Diagnostic.frames_in_order`), and every localized fault keeps
that order and lists at most five of them. Reported faults leave out the frames at their own place.
The fault that is made of the frames alone does not, and is related to its own place when the stack
comes back there (`Localization.relates_own_place_iff`).
-/

namespace Mender

namespace Diagnostic

open Pattern

/-- A text shows a stack frame at a position: what starts there has the shape of a frame and tells
the location. -/
def FrameAt (text : String) (position : Nat) (l : Location) : Prop :=
  ∃ shape ∈ [callFrame, quotedFrame], ∃ m ∈ shape.findAll text.toList,
    m.start = position ∧ placeOf? m = .ok (some l)

section Positions

/-- Frames are taken from matches, in the order of these. -/
theorem frames_of_matches (ms : List Match) :
    Gives (fun found : List (Option (Nat × Location)) =>
        ((found.filterMap id).map (·.1)).Sublist (ms.map (·.start)) ∧
        ∀ frame ∈ found.filterMap id, ∃ m ∈ ms, m.start = frame.1 ∧
          placeOf? m = .ok (some frame.2))
      (ms.mapM fun m => do return (← placeOf? m).map fun l => (m.start, l)) := by
  induction ms with
  | nil => exact .pure (by simp)
  | cons m ms ih =>
      rw [List.mapM_cons]
      refine .bind (P := fun frame? => frame? = none ∨ ∃ l, frame? = some (m.start, l) ∧
        placeOf? m = .ok (some l)) ?_ fun frame? hframe => .bind ih fun found hfound => .pure ?_
      · intro frame? h
        obtain ⟨l?, hplace, hframe⟩ := bind_eq_ok h
        obtain rfl := Except.ok.inj hframe
        cases l? with
        | none => exact .inl rfl
        | some l => exact .inr ⟨l, rfl, hplace⟩
      · obtain ⟨horder, hmatches⟩ := hfound
        have hothers : ∀ frame ∈ found.filterMap id, ∃ m' ∈ m :: ms, m'.start = frame.1 ∧
            placeOf? m' = .ok (some frame.2) := fun frame hframe => by
          obtain ⟨m', hm', htells⟩ := hmatches frame hframe
          exact ⟨m', List.mem_cons_of_mem _ hm', htells⟩
        rcases hframe with rfl | ⟨l, rfl, hplace⟩
        · exact ⟨horder.cons _, hothers⟩
        · exact ⟨horder.cons_cons _, List.forall_mem_cons.mpr
            ⟨⟨m, List.mem_cons_self, rfl, hplace⟩, hothers⟩⟩

theorem frames_of_shape_found (shape : Pattern) (text : String) :
    Gives (fun frames => (frames.map (·.1)).Pairwise (· < ·) ∧
        ∀ frame ∈ frames, ∃ m ∈ shape.findAll text.toList, m.start = frame.1 ∧
          placeOf? m = .ok (some frame.2))
      (framesOfShape shape text) := by
  refine .bind (frames_of_matches _) fun found hfound => .pure ⟨?_, hfound.2⟩
  have hascend := matches_ascend (p := shape) 0 none 0 text.toList
  exact (List.pairwise_map.mpr hascend).sublist hfound.1

/-- A match that is found starts with the character that its shape begins with. -/
theorem head_of_found {shape : Pattern} {c : Char}
    (hshape : ∀ s t, Reads shape s t → s.rest.head? = some c) {cs : List Char} {m : Match}
    (hm : m ∈ shape.findAll cs) : cs[m.start]? = some c := by
  obtain ⟨before, after, rfl, hstart, hfound⟩ := stands_of_mem_matches hm
  obtain ⟨t, hreads, _⟩ := reads_of_match hfound
  rw [hstart, Nat.zero_add, List.getElem?_append_right (Nat.le_refl _), Nat.sub_self,
    ← List.head?_eq_getElem?]
  exact hshape _ t hreads

theorem call_frame_head (s t : Spot) (h : Reads callFrame s t) : s.rest.head? = some 'a' := by
  obtain ⟨u, hedge, hrest⟩ := reads_concat_cons h
  obtain ⟨v, hword, _⟩ := reads_concat_cons hrest
  cases hedge
  rw [reads_text hword]
  rfl

theorem quoted_frame_head (s t : Spot) (h : Reads quotedFrame s t) : s.rest.head? = some 'F' := by
  obtain ⟨u, hword, _⟩ := reads_concat_cons h
  rw [reads_text hword]
  rfl

end Positions

/-- The stack frames of a text are listed in the order in which it shows them. -/
theorem frames_in_order (text : String) :
    Gives (fun frames => ∃ positions : List Nat, positions.Pairwise (· < ·) ∧
        List.Forall₂ (FrameAt text) positions frames)
      (framesOf text) := by
  refine .bind (frames_of_shape_found callFrame text) fun calls hcalls =>
    .bind (frames_of_shape_found quotedFrame text) fun quoted hquoted => .pure ?_
  have hfound : ∀ frame ∈ calls ++ quoted, FrameAt text frame.1 frame.2 := fun frame hframe => by
    rcases List.mem_append.mp hframe with hframe | hframe
    · exact ⟨callFrame, by simp, hcalls.2 frame hframe⟩
    · exact ⟨quotedFrame, by simp, hquoted.2 frame hframe⟩
  -- no two frames start at one position: those of one shape ascend, the shapes begin differently
  have hapart : ((calls ++ quoted).map (·.1)).Nodup := by
    rw [List.map_append, List.nodup_append]
    refine ⟨hcalls.1.imp Nat.ne_of_lt, hquoted.1.imp Nat.ne_of_lt, fun i hi j hj heq => ?_⟩
    obtain ⟨call, hcall, rfl⟩ := List.mem_map.mp hi
    obtain ⟨quote, hquote, rfl⟩ := List.mem_map.mp hj
    obtain ⟨m, hm, hstart, _⟩ := hcalls.2 call hcall
    obtain ⟨n, hn, hstart', _⟩ := hquoted.2 quote hquote
    have hhead := head_of_found call_frame_head hm
    rw [hstart, heq, ← hstart', head_of_found quoted_frame_head hn] at hhead
    exact absurd hhead (by decide)
  generalize calls ++ quoted = frames at hfound hapart
  have hperm := List.mergeSort_perm frames fun a b => decide (a.1 ≤ b.1)
  have hsorted : (frames.mergeSort fun a b => decide (a.1 ≤ b.1)).Pairwise fun a b =>
      decide (a.1 ≤ b.1) = true :=
    List.pairwise_mergeSort (fun a b c hab hbc => by
      simp only [decide_eq_true_eq] at hab hbc ⊢
      exact Nat.le_trans hab hbc) (fun a b => by simpa using Nat.le_total a.1 b.1) frames
  generalize frames.mergeSort (fun a b => decide (a.1 ≤ b.1)) = sorted at hperm hsorted
  have hdistinct := List.pairwise_map.mp ((hperm.map (·.1)).nodup_iff.mpr hapart)
  refine ⟨sorted.map (·.1), ?_, ?_⟩
  · refine List.pairwise_map.mpr (hsorted.imp₂ (fun a b hle hne => ?_) hdistinct)
    exact Nat.lt_of_le_of_ne (of_decide_eq_true hle) hne
  · rw [List.forall₂_map_left_iff, List.forall₂_map_right_iff, List.forall₂_same]
    exact fun frame hframe => hfound frame (hperm.mem_iff.mp hframe)

/-- A fault that a line reports comes from the table, and nothing is related to it yet. -/
theorem faults_reported (text : String) (lines : List (List Char)) :
    Gives (∀ f ∈ ·, f.origin ≠ .stack ∧ Fault.related f = []) (faultsOfLines text lines) := by
  induction lines with
  | nil => exact .pure (by simp)
  | cons line later ih =>
      refine .bind (P := fun fault => ∀ f ∈ fault, f.origin ≠ .stack ∧ Fault.related f = []) ?_
        fun fault hfault => .bind ih fun others hothers => .pure fun f hf => ?_
      · rw [faultOf?]
        split
        · exact .pure (by simp)
        split
        · refine .bind (.any _) fun place _ => .pure fun f hf => ?_
          obtain ⟨l, _, rfl⟩ := Option.map_eq_some_iff.mp hf
          exact ⟨by simp, rfl⟩
        · exact .pure (by simp)
      · rcases List.mem_append.mp hf with hf | hf
        · exact hfault f (Option.mem_toList.mp hf)
        · exact hothers f hf

end Diagnostic

namespace Localization

/-- What a fault keeps of the stack frames: some of them in their order, at most five, and its own
place among them only if it is made of frames that come back to the place of the first. -/
structure Relates (reported : List Fault) (frames : List Location) (f : Fault) : Prop where
  in_order : f.related.Sublist frames
  at_most : f.related.length ≤ 5
  own_place : (∃ l ∈ f.related, l.place = f.place) ↔ reported = [] ∧ f.origin = .stack ∧
    ∃ first others, frames = first :: others ∧ ∃ l ∈ others.take 4, l.place = first.place

section Relates

variable {reported : List Fault} {frames : List Location} {f : Fault}

/-- A fault that is not made of frames and lists nothing. -/
theorem Relates.of_alone (horigin : f.origin ≠ .stack) (halone : f.related = []) :
    Relates reported frames f := by
  refine ⟨by simp [halone], by simp [halone], ?_⟩
  simp [halone, horigin]

theorem relates_of_frames (output : String) (first : Location) (others : List Location) :
    Relates [] (first :: others) (ofFrames output first others) := by
  refine ⟨(List.take_sublist _ _).cons _, (List.length_take_le _ _).trans (by decide), ?_⟩
  constructor
  · rintro ⟨l, hl, hplace⟩
    exact ⟨rfl, rfl, first, others, rfl, l, hl, hplace⟩
  · rintro ⟨_, _, _, _, heq, l, hl, hplace⟩
    cases heq
    exact ⟨l, hl, hplace⟩

theorem relates_with_frames (horigin : f.origin ≠ .stack) (halone : f.related = []) :
    Relates reported frames (withFrames frames f) := by
  unfold withFrames
  split
  · exact .of_alone horigin halone
  · refine ⟨(List.take_sublist _ _).trans List.filter_sublist, List.length_take_le _ _, ?_⟩
    constructor
    · rintro ⟨l, hl, hplace⟩
      have hother := List.of_mem_filter (List.mem_of_mem_take hl)
      exact absurd hplace (of_decide_eq_true hother)
    · rintro ⟨_, hstack, _⟩
      exact absurd hstack horigin

/-- The faults that lines report, with the frames. -/
theorem relates_add_frames (output : String)
    (hreported : ∀ f ∈ reported, f.origin ≠ .stack ∧ f.related = []) :
    ∀ f ∈ addFrames output (firstPerPlace [] reported) frames, Relates reported frames f := by
  intro f hf
  have hfirst : ∀ f ∈ firstPerPlace [] reported, f.origin ≠ .stack ∧ f.related = [] :=
    fun f hf => hreported f (mem_of_first_per_place hf)
  match frames, reported with
  | [], _ => exact .of_alone (hfirst f hf).1 (hfirst f hf).2
  | first :: others, [] =>
      obtain rfl := List.mem_singleton.mp hf
      exact relates_of_frames output first others
  | first :: others, fault :: faults =>
      obtain ⟨g, hg, rfl⟩ := List.mem_map.mp hf
      exact relates_with_frames (hfirst g hg).1 (hfirst g hg).2

/-- Ranking leaves alone what is related to a fault. -/
theorem relates_rank {config : LocalizationConfig} {statements : List SuspiciousStatement}
    {faults : List Fault} (hfaults : ∀ f ∈ faults, Relates reported frames f) :
    ∀ f ∈ rank config statements faults, Relates reported frames f := by
  intro f hf
  rcases List.mem_append.mp (mem_of_first_per_place (List.mem_mergeSort.mp hf)) with hf | hf
  · obtain ⟨g, hg, rfl⟩ := List.mem_map.mp hf
    have hrelates := hfaults g hg
    unfold fuse
    split
    · exact hrelates
    · exact ⟨hrelates.in_order, hrelates.at_most, hrelates.own_place⟩
  · obtain ⟨s, _, rfl⟩ := List.mem_map.mp hf
    exact .of_alone (by simp [ofStatement]) rfl

theorem Relates.of_shows {shown : Fault} (h : Relates reported frames f) (hshows : Shows f shown) :
    Relates reported frames shown := by
  obtain ⟨snippet, rfl⟩ := hshows
  exact ⟨h.in_order, h.at_most, h.own_place⟩

end Relates

/-- Faults that localization takes from the lines of an output. -/
theorem reported_faults_alone (config : LocalizationConfig) (output : String) :
    Gives (∀ f ∈ ·, f.origin ≠ .stack ∧ Fault.related f = []) (reportedFaults config output) := by
  rw [reportedFaults]
  split
  · exact Diagnostic.faults_reported _ _
  · exact .pure (by simp)

theorem stack_frames_in_order (config : LocalizationConfig) (output : String) :
    Gives (fun frames => ∃ positions : List Nat, positions.Pairwise (· < ·) ∧
        List.Forall₂ (Diagnostic.FrameAt output) positions frames)
      (stackFrames config output) := by
  rw [stackFrames]
  split
  · exact Diagnostic.frames_in_order output
  · exact .pure ⟨[], .nil, .nil⟩

theorem evidence_eq_ok {config : LocalizationConfig} {output : String} {coverage : Option Coverage}
    {ev : Evidence} (h : evidence config output coverage = .ok ev) :
    reportedFaults config output = .ok ev.reported ∧ stackFrames config output = .ok ev.frames := by
  obtain ⟨reported, hreported, h⟩ := bind_eq_ok h
  obtain ⟨frames, hframes, h⟩ := bind_eq_ok h
  obtain ⟨statements, _, h⟩ := bind_eq_ok h
  cases h
  exact ⟨hreported, hframes⟩

/-- The locations related to a localized fault are stack frames in the order in which the output
shows them, and at most five. A fault lists its own place among them exactly when it is made of the
frames alone, as no line of the output reports a fault, and one of the four frames after the first
is at the place of the first. -/
theorem relates_own_place_iff {σ : Type} (host : Host (StateM σ)) (config : LocalizationConfig)
    (output : String) (coverage : Option Coverage) (s : σ) :
    match evidence config output coverage with
    | .error e => localize config host output coverage s = (.error e, s)
    | .ok ev =>
        (∃ positions : List Nat, positions.Pairwise (· < ·) ∧
          List.Forall₂ (Diagnostic.FrameAt output) positions ev.frames) ∧
        ∀ found ∈ (localize config host output coverage s).1.toOption, ∀ f ∈ found.faults,
          f.related.Sublist ev.frames ∧ f.related.length ≤ 5 ∧
          ((∃ l ∈ f.related, l.place = f.place) ↔
            ev.reported = [] ∧ f.origin = .stack ∧ ∃ first others, ev.frames = first :: others ∧
              ∃ l ∈ others.take 4, l.place = first.place) := by
  have hfound := found_of_evidence config output coverage
  cases hev : evidence config output coverage with
  | error e =>
      rw [hev] at hfound
      simp only [localize, hfound]
      rfl
  | ok ev =>
      rw [hev] at hfound
      obtain ⟨hreported, hframes⟩ := evidence_eq_ok hev
      refine ⟨stack_frames_in_order config output _ hframes, fun found hlocal f hf => ?_⟩
      rcases hrun : localize config host output coverage s with ⟨e | shown, s'⟩ <;>
        rw [hrun] at hlocal <;> cases hlocal
      obtain ⟨found', hfound', _, hshows⟩ := localize_shows host hrun
      obtain rfl := Except.ok.inj (hfound.symm.trans hfound')
      obtain ⟨g, hg, hshows⟩ := exists_of_forall₂ hshows hf
      have hrelates := relates_rank
        (relates_add_frames output (reported_faults_alone config output _ hreported)) g
        (List.mem_of_mem_take hg)
      exact ⟨(hrelates.of_shows hshows).in_order, (hrelates.of_shows hshows).at_most,
        (hrelates.of_shows hshows).own_place⟩

/-- The output of a function that calls itself without end. -/
def endlessCalls : String :=
  "RangeError: too deep\n    at f (a.js:3:5)\n    at f (a.js:3:5)\n"

/-- Both of its frames are at one location. -/
theorem endless_calls_frames :
    Diagnostic.framesOf endlessCalls =
      .ok [{ Location.ofLine "a.js" 3 with column := some 5 },
        { Location.ofLine "a.js" 3 with column := some 5 }] := by
  have hcalls : Diagnostic.framesOfShape Diagnostic.callFrame endlessCalls =
      .ok [(25, { Location.ofLine "a.js" 3 with column := some 5 }),
        (45, { Location.ofLine "a.js" 3 with column := some 5 })] := by decide +kernel
  have hquoted : Diagnostic.framesOfShape Diagnostic.quotedFrame endlessCalls = .ok [] := by
    decide +kernel
  simp only [Diagnostic.framesOf, hcalls, hquoted]
  show Except.ok ((List.mergeSort _ _).map _) = _
  rw [List.mergeSort_of_pairwise (by simp)]
  rfl

/-- The fault that is made of these frames is related to its own place. -/
theorem endless_calls_relate_own_place :
    let config : LocalizationConfig := { useStaticAnalysis := false }
    let host := (Crew.steady (fun _ _ => none) (.value { success := true })).host
    let site : Site Unit := .single "a.js" "x = 1\n"
    (localize config host endlessCalls none site).1.toOption.map (·.faults.map fun f =>
      (f.place, f.related.map Location.place)) = some [(⟨"a.js", 3⟩, [⟨"a.js", 3⟩])] := by
  intro config host site
  have hev : evidence config endlessCalls none = .ok ⟨[],
      [{ Location.ofLine "a.js" 3 with column := some 5 },
        { Location.ofLine "a.js" 3 with column := some 5 }], []⟩ := by
    rw [evidence, stackFrames, if_pos rfl, endless_calls_frames]
    rfl
  have hfound := found_of_evidence config endlessCalls none
  rw [hev] at hfound
  simp only [localize, hfound, Except.map]
  decide +kernel

end Localization

end Mender
