import Mathlib.Data.List.Infix
import Mender.Patch.Edit
import Mender.Proofs.Text.Pieces

/-!
# How a file and a new text are read for edits

`Document.Reads` says what the lines of a file are that an edit counts: what stands between its line
endings, and no empty line behind the last of them unless there is nothing else. A text that is only
read has other lines. The two counts are the same for a `Document.Uniform` file, of which no line
holds a separator of its own, and only for such a file. `ReadsNew` says what the lines are that a
change brings in.
-/

namespace Mender.Edit

open Text

namespace Document

/-- A document is the text of a file as an edit sees it. -/
structure Reads (d : Document) (cs : List Char) : Prop where
  ending : d.ending = .crlf ↔ LineEnding.crlf.mark <:+: cs
  text : d.toText = cs
  some_line : d.lines ≠ []
  between : ∀ line ∈ d.lines, ¬d.ending.mark <:+: line
  last : d.closed = false → d.lines.getLast? = some [] → d.lines = [[]]

theorem mark_ne_nil (e : LineEnding) : e.mark ≠ [] := by
  cases e <;> simp [LineEnding.mark]

/-- Pieces of which the last is empty are the others, each closed by the mark. -/
theorem join_text_closed (mark : List Char) {pieces : List (List Char)} (hmany : 1 < pieces.length)
    (hlast : pieces.getLast? = some []) :
    joinText mark pieces.dropLast ++ mark = joinText mark pieces := by
  induction pieces with
  | nil => simp at hmany
  | cons p ps ih =>
      cases ps with
      | nil => simp at hmany
      | cons q qs =>
          cases qs with
          | nil =>
              obtain rfl : q = [] := by simpa using hlast
              simp [joinText]
          | cons r rs =>
              have hrest := ih (by simp) (by rwa [List.getLast?_cons_cons] at hlast)
              rw [List.dropLast_cons_cons, join_text_cons _ _ (by simp),
                join_text_cons _ _ (by simp), ← hrest, List.append_assoc]

/-- Reading the text of a file keeps all of it. -/
theorem of_text_reads (cs : List Char) : (ofText cs).Reads cs := by
  have hmark := mark_ne_nil (LineEnding.ofText cs)
  have hjoin := join_split_text hmark cs
  have hsome := split_text_ne_nil (LineEnding.ofText cs).mark cs
  have hfree : ∀ piece ∈ splitText (LineEnding.ofText cs).mark cs,
      ¬(LineEnding.ofText cs).mark <:+: piece := fun _ => not_infix_of_mem_split_text hmark
  have hending : LineEnding.ofText cs = .crlf ↔ LineEnding.crlf.mark <:+: cs := by
    rw [LineEnding.ofText, ← has_text_iff_infix]
    cases hasText LineEnding.crlf.mark cs <;> simp
  generalize hpieces : splitText (LineEnding.ofText cs).mark cs = pieces at hjoin hsome hfree
  by_cases hclosed : 1 < pieces.length ∧ pieces.getLast? = some []
  · have hdoc : ofText cs = ⟨LineEnding.ofText cs, pieces.dropLast, true⟩ := by
      simp [ofText, hpieces, hclosed]
    rw [hdoc]
    refine ⟨hending, (join_text_closed _ hclosed.1 hclosed.2).trans hjoin, ?_, ?_, by simp⟩
    · rw [← List.length_pos_iff, List.length_dropLast]
      omega
    · exact fun line hline => hfree line (List.dropLast_subset _ hline)
  · have hdoc : ofText cs = ⟨LineEnding.ofText cs, pieces, false⟩ := by
      have hopen : (decide (1 < pieces.length) && pieces.getLast? == some []) = false := by
        simpa using hclosed
      simp only [ofText, hpieces, hopen, Bool.false_eq_true, if_false]
    rw [hdoc]
    refine ⟨hending, by simpa [toText] using hjoin, hsome, hfree, fun _ hlast => ?_⟩
    match pieces, hsome with
    | [piece], _ => simpa using hlast
    | _ :: _ :: _, _ => exact absurd ⟨by simp, hlast⟩ hclosed

/-- No line of the file holds a separator of its own. -/
def Uniform (d : Document) : Prop :=
  ∀ line ∈ d.lines, Unbroken line

variable {d : Document} {cs : List Char}

/-- The lines of a uniform file are those of its text. -/
theorem Reads.lines_eq (h : d.Reads cs) (huniform : d.Uniform) (hsome : cs ≠ []) :
    Text.lines cs = d.lines := by
  have htext := h.text
  cases hclosed : d.closed with
  | true =>
      rw [← htext, toText, hclosed, if_pos rfl]
      exact lines_of_closed d.ending h.some_line huniform
  | false =>
      rw [toText, hclosed] at htext
      simp only [Bool.false_eq_true, if_false, List.append_nil] at htext
      rw [← htext]
      refine lines_of_open d.ending (fun hlast => hsome ?_) huniform
      rw [← htext, h.last hclosed hlast]
      rfl

/-- In a file that is not uniform some line is not the line of its text with that number. -/
theorem Reads.exists_line_ne (h : d.Reads cs) (hmixed : ¬d.Uniform) :
    ∃ (k : Nat) (line piece : List Char), (Text.lines cs)[k]? = some line ∧
      d.lines[k]? = some piece ∧ line ≠ piece := by
  rw [← h.text]
  exact lines_differ d.ending _ hmixed

end Document

/-- The lines of a new text are what stands between its line feeds, once a carriage return with a
line feed is read as a line feed. An empty text has no lines. -/
structure ReadsNew (new : String) (lines : List (List Char)) : Prop where
  no_line : lines = [] ↔ new = ""
  text : ∃ pieces, joinText LineEnding.crlf.mark pieces = new.toList ∧
    (∀ piece ∈ pieces, ¬LineEnding.crlf.mark <:+: piece) ∧
    joinText LineEnding.lf.mark lines = joinText LineEnding.lf.mark pieces
  between : ∀ line ∈ lines, '\n' ∉ line

theorem new_lines_read (new : String) : ReadsNew new (newLines new) := by
  have hcrlf : LineEnding.crlf.mark ≠ [] := by decide
  have hpieces : ∃ pieces, joinText LineEnding.crlf.mark pieces = new.toList ∧
      (∀ piece ∈ pieces, ¬LineEnding.crlf.mark <:+: piece) ∧
      unixEndings new.toList = joinText LineEnding.lf.mark pieces :=
    ⟨splitText LineEnding.crlf.mark new.toList, join_split_text hcrlf _,
      fun _ => not_infix_of_mem_split_text hcrlf, replace_text_eq _ _ _⟩
  obtain ⟨pieces, htext, hfree, hunix⟩ := hpieces
  by_cases hempty : new = ""
  · subst hempty
    refine ⟨by simp [newLines], ⟨pieces, htext, hfree, ?_⟩, by simp [newLines]⟩
    rw [← hunix]
    rfl
  · have hlines : newLines new = splitText LineEnding.lf.mark (unixEndings new.toList) := by
      simp [newLines, hempty, LineEnding.mark]
    rw [hlines]
    refine ⟨iff_of_false (split_text_ne_nil _ _) hempty, ⟨pieces, htext, hfree, ?_⟩,
      fun line hline => ?_⟩
    · rw [join_split_text (by decide), hunix]
    · rw [← List.singleton_infix_iff]
      exact not_infix_of_mem_split_text (by decide) hline

end Mender.Edit
