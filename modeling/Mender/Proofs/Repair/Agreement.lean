import Mender.Proofs.Patch.Rewriting
import Mender.Proofs.Repair.Provenance
import Mender.Proofs.Repair.Replies

/-!
# Recorded and replaced text

Candidates count the lines of a text, where every separator ends a line. Changes are made on the
lines of a file, which only the line ending of that file ends. The two agree on every candidate
exactly when the file is uniform.
-/

namespace Mender

/-- The text that a change of a range of lines replaces. -/
def Edit.coveredText (content : String) (first last : Int) : String :=
  String.ofList (Text.joinText ['\n']
    (((Edit.Document.ofText content.toList).lines.take last.toNat).drop (first - 1).toNat))

/-- A candidate agrees with a file: the text that it records is what its changes replace where they
can be made, and those of a template can be. -/
structure Patch.AgreesWith (content : String) (p : Patch) : Prop where
  text : ∀ after, Edit.apply content p.changes = .ok after → ∀ change ∈ p.changes,
    change.replaced = Edit.coveredText content change.first change.last
  applies : p.source = .template → ∃ after, Edit.apply content p.changes = .ok after

section Lines

variable {α : Type} {xs : List α} {k : Nat} {x : α}

theorem drop_take_of_get (h : xs[k]? = some x) : (xs.take (k + 1)).drop k = [x] := by
  obtain ⟨hk, rfl⟩ := List.getElem?_eq_some_iff.mp h
  rw [List.drop_take, List.drop_eq_getElem_cons hk, Nat.add_sub_cancel_left, List.take_succ_cons,
    List.take_zero]

end Lines

/-- The recorded text of a single line is that line. -/
theorem range_text_line {content : String} {k : Nat} {line : List Char}
    (h : (Text.lines content.toList)[k]? = some line) :
    rangeText content (k + 1) (k + 1) = String.ofList line := by
  rw [rangeText, window_of_nonneg (by omega) (by omega),
    show ((k : Int) + 1).toNat = k + 1 by omega, show ((k : Int) + 1 - 1).toNat = k by omega,
    drop_take_of_get h]
  rfl

theorem Edit.covered_text_line {content : String} {k : Nat} {piece : List Char}
    (h : (Document.ofText content.toList).lines[k]? = some piece) :
    coveredText content (k + 1) (k + 1) = String.ofList piece := by
  rw [coveredText, show ((k : Int) + 1).toNat = k + 1 by omega,
    show ((k : Int) + 1 - 1).toNat = k by omega, drop_take_of_get h]
  rfl

/-- A candidate that records text of a file records the text of the range that it replaces, as the
lines of a text are counted. -/
theorem Patch.TextFrom.range_text {f : Fault} {path content : String} {p : Patch}
    (h : p.TextFrom f path content) : ∃ first last new,
    p.changes = [⟨path, first, last, rangeText content first last, new⟩] := by
  cases h with
  | line text new _ hfile hread hchanges =>
      obtain ⟨k, hnumber, hline⟩ := Template.line_at_eq_some hread
      refine ⟨f.location.line, f.location.line, new, hchanges.trans ?_⟩
      rw [hnumber, range_text_line hline, String.ofList_toList]
  | range strategy reply stated c _ _ _ hfile _ hchanges =>
      exact ⟨c.first, c.last, c.new, by rw [hchanges, ← hfile]⟩

/-- In a uniform file the lines are counted alike. -/
theorem range_text_eq_covered {content : String}
    (huniform : (Edit.Document.ofText content.toList).Uniform) {first last : Int}
    (hfirst : 1 ≤ first) (hrange : first ≤ last)
    (hlast : last ≤ (Edit.Document.ofText content.toList).lines.length) :
    rangeText content first last = Edit.coveredText content first last := by
  rw [rangeText, window_of_nonneg (by omega) (by omega), Edit.coveredText]
  by_cases hempty : content.toList = []
  · -- an empty text has no lines, and an empty file has an empty one
    rw [hempty] at hlast ⊢
    obtain rfl : first = 1 := by
      have : last ≤ 1 := hlast
      omega
    obtain rfl : last = 1 := by
      have : last ≤ 1 := hlast
      omega
    rfl
  · rw [(Edit.Document.of_text_reads content.toList).lines_eq huniform hempty]

theorem Patch.TextFrom.agrees {f : Fault} {path content : String} {p : Patch}
    (h : p.TextFrom f path content)
    (huniform : (Edit.Document.ofText content.toList).Uniform) : p.AgreesWith content where
  text after hafter change hmem := by
    obtain ⟨first, last, new, hchanges⟩ := h.range_text
    obtain ⟨hfirst, hrange, hlast⟩ := (Edit.fits_of_apply hafter).inside change hmem
    rw [hchanges, List.mem_singleton] at hmem
    subst hmem
    exact range_text_eq_covered huniform hfirst hrange hlast
  applies htemplate := by
    cases h with
    | range _ _ _ _ hsource => exact absurd htemplate hsource
    | line text new _ _ hread hchanges =>
        obtain ⟨k, hnumber, hline⟩ := Template.line_at_eq_some hread
        have hsome : content.toList ≠ [] := fun hempty => by
          rw [hempty] at hline
          cases hline
        rw [(Edit.Document.of_text_reads content.toList).lines_eq huniform hsome] at hline
        obtain ⟨hk, _⟩ := List.getElem?_eq_some_iff.mp hline
        refine ⟨_, Edit.apply_of_fits ⟨fun change hmem => ?_, ?_⟩⟩
        · rw [hchanges, List.mem_singleton] at hmem
          subst hmem
          dsimp only
          omega
        · rw [hchanges]
          exact List.pairwise_singleton _ _

/-! ### A candidate for any line -/

/-- The candidate of a fenced reply for a fault on a single line. -/
def Patch.ofFence (file : String) (number : Int) (replaced new : String) : Patch where
  changes := [⟨file, number, number, replaced, new⟩]
  strategy := Generate.refinedStrategy
  source := .refinement
  confidence := 0.5
  explanation := FixReply.defaultExplanation

/-- A site with a single file, where the model always answers with the same fenced code. -/
def Site.fenced (file content : String) : Site (Nat → Reply String) :=
  ⟨(Site.single file content).files, [], fun _ => .value "```\nx\n```"⟩

/-- The last line of a range of a single line is that line. -/
theorem Location.of_line_end_line (file : String) (number : Int) :
    (ofLine file number).endLine = number := by
  simp [endLine, ofLine, ofRange]

theorem Site.fenced_files (file content : String) :
    (fenced file content).files file = some content :=
  if_pos rfl

theorem parse_fenced (file : String) (number : Int) (strategy : String) :
    FixReply.parse (.ofLineOf file number) strategy "```\nx\n```" =
      .ok (some { Patch.ofFence file number "" "x" with strategy, source := .model }) := by
  have hcode : FixReply.parse (.ofLineOf file number) strategy "```\nx\n```" =
      .ok (some (FixReply.ofCode (.ofLineOf file number) strategy "x")) := rfl
  have hend : (Fault.ofLineOf file number).location.endLine = number :=
    Location.of_line_end_line file number
  rw [hcode, FixReply.ofCode, hend]
  rfl

/-- The fenced code comes to a candidate for any line. -/
theorem Crew.makes_fenced (file content : String) (number : Int) :
    Crew.answering.Makes (.fenced file content) (.ofLineOf file number)
      (.ofFence file number (rangeText content number number) "x") := by
  have hrun : (Generate.refine {} answering.host (.ofLineOf file number) ""
      [.ofFirstLine file ""] (.fenced file content)).1 =
        .ok [.ofFence file number (rangeText content number number) "x"] := by
    have hfilled : Generate.filledFrom (Site.fenced file content).files
        ⟨file, number, number, "", "x"⟩ =
          ⟨file, number, number, rangeText content number number, "x"⟩ := by
      simp [Generate.filledFrom, Site.fenced, Site.single]
    rw [Generate.refine_answering]
    change Except.map _ (Generate.offer _ _ _ (.value "```\nx\n```")) = _
    rw [Generate.offer, parse_fenced]
    exact congrArg (fun change : Change =>
      Except.ok [{ Patch.ofFence file number "" "x" with changes := [change] }]) hfilled
  exact .refine hrun List.mem_cons_self

theorem Patch.text_from_fenced (file content : String) (number : Int) :
    (ofFence file number (rangeText content number number) "x").TextFrom
      (.ofLineOf file number) file content :=
  .range Generate.refinedStrategy "```\nx\n```" _ ⟨file, number, number, "", "x"⟩ nofun
    (parse_fenced file number _) rfl rfl rfl rfl

/-- The change of a single line of the file fits it. -/
theorem Patch.of_fence_fits {file content replaced new : String} {k : Nat}
    (hk : k < (Edit.Document.ofText content.toList).lines.length) :
    Edit.Fits (Edit.Document.ofText content.toList).lines.length
      (ofFence file (k + 1) replaced new).changes := by
  refine ⟨fun change hmem => ?_, List.pairwise_singleton _ _⟩
  obtain rfl := List.mem_singleton.mp hmem
  dsimp only
  omega

/-- On a line that the text and the file count differently the candidate does not agree. -/
theorem Patch.not_agrees_of_line_ne {file content : String} {k : Nat} {line piece : List Char}
    (hline : (Text.lines content.toList)[k]? = some line)
    (hpiece : (Edit.Document.ofText content.toList).lines[k]? = some piece) (hne : line ≠ piece) :
    ¬(ofFence file (k + 1) (rangeText content (k + 1) (k + 1)) "x").AgreesWith content := by
  intro hagrees
  obtain ⟨hk, _⟩ := List.getElem?_eq_some_iff.mp hpiece
  have htext : rangeText content (k + 1) (k + 1) = Edit.coveredText content (k + 1) (k + 1) :=
    hagrees.text _ (Edit.apply_of_fits (of_fence_fits hk)) _ List.mem_cons_self
  rw [range_text_line hline, Edit.covered_text_line hpiece] at htext
  exact hne (String.ofList_injective htext)

/-- Candidates record text that is read from the files, or that their reply states. Exactly in a
uniform file the text that is read for a candidate is always the text that its change replaces, and
the change of a template can always be made. -/
theorem recorded_text_agrees_iff_uniform (content : String) :
    (∀ {E : Type} (c : Crew E) (s : Site E) (f : Fault) (p : Patch), c.Makes s f p →
      c.TextKnown s.files f p) ∧
    ((Edit.Document.ofText content.toList).Uniform ↔
      ∀ {E : Type} (c : Crew E) (s : Site E) (f : Fault) (p : Patch) (path : String),
        c.Makes s f p → s.files path = some content → p.TextFrom f path content →
          p.AgreesWith content) := by
  refine ⟨fun c s f p hmade => hmade.text_known, fun huniform E c s f p path _ _ htext =>
    htext.agrees huniform, fun hagrees => ?_⟩
  by_cases huniform : (Edit.Document.ofText content.toList).Uniform
  · exact huniform
  · obtain ⟨k, line, piece, hline, hpiece, hne⟩ :=
      (Edit.Document.of_text_reads content.toList).exists_line_ne huniform
    exact absurd (hagrees Crew.answering (.fenced "a.py" content) _ _ "a.py"
      (Crew.makes_fenced "a.py" content (k + 1)) (Site.fenced_files "a.py" content)
      (Patch.text_from_fenced "a.py" content (k + 1)))
      (Patch.not_agrees_of_line_ne hline hpiece hne)

/-- A form feed ends a line of the text and no line of the file: the candidate for the second line
records the rest of the first, and replaces the line after it. -/
theorem form_feed_shifts_recorded_text :
    let content := "a\x0cb\nfoo\n"
    let p := Patch.ofFence "a.py" 2 "b" "x"
    Crew.answering.Makes (.fenced "a.py" content) (.ofLineOf "a.py" 2) p ∧
      p.TextFrom (.ofLineOf "a.py" 2) "a.py" content ∧
      Edit.apply content p.changes = .ok "a\x0cb\nx\n" ∧
      Edit.coveredText content 2 2 = "foo" ∧ ¬p.AgreesWith content := by
  have hread : rangeText "a\x0cb\nfoo\n" 2 2 = "b" := by rfl
  have hmade := Crew.makes_fenced "a.py" "a\x0cb\nfoo\n" 2
  have htext := Patch.text_from_fenced "a.py" "a\x0cb\nfoo\n" 2
  rw [hread] at hmade htext
  have happly : Edit.apply "a\x0cb\nfoo\n" (Patch.ofFence "a.py" 2 "b" "x").changes =
      .ok "a\x0cb\nx\n" :=
    (Edit.apply_of_fits (Patch.of_fence_fits (show 1 < _ by decide))).trans rfl
  refine ⟨hmade, htext, happly, by rfl, fun hagrees => ?_⟩
  have hsame : "b" = Edit.coveredText "a\x0cb\nfoo\n" 2 2 :=
    hagrees.text _ happly _ List.mem_cons_self
  exact absurd hsame (by decide)

end Mender
