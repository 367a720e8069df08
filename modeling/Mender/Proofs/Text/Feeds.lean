import Mender.Proofs.Text.Pieces

/-!
# Line feeds of a text

A text made of lines that are each followed by a line ending, with something after the last of them,
shows where line feeds stand in it and what comes before each: `crlf_infix_iff` for a line feed
alone, and `paired_iff` for one after a carriage return.
-/

namespace Mender.Text

/-- Joined pieces are each followed by the mark, except for the last. -/
theorem join_text_concat (mark last : List Char) (lines : List (List Char)) :
    joinText mark (lines ++ [last]) = lines.flatMap (· ++ mark) ++ last := by
  induction lines with
  | nil => rfl
  | cons line lines ih =>
      rw [List.cons_append, join_text_cons _ _ (by simp), ih, List.flatMap_cons, List.append_assoc,
        List.append_assoc, List.append_assoc]

/-- Every line feed follows a carriage return. -/
def Paired (cs : List Char) : Prop :=
  ∀ before after, cs = before ++ '\n' :: after → before.getLast? = some '\r'

section Feeds

variable {line rest text : List Char} {ended : List (List Char)}

/-- The carriage return of a line ending in a text is that at the end of its first line, or stands
after that. -/
theorem crlf_infix_append (hline : '\n' ∉ line) :
    ['\r', '\n'] <:+: line ++ '\n' :: text ↔
      line.getLast? = some '\r' ∨ ['\r', '\n'] <:+: text := by
  induction line with
  | nil => simp [List.infix_cons_iff]
  | cons c line ih =>
      rw [List.mem_cons, not_or] at hline
      rw [List.cons_append, List.infix_cons_iff, ih hline.2]
      cases line with
      | nil => simp [eq_comm]
      | cons d line =>
          have hd : '\n' ≠ d := fun heq => hline.2 (heq ▸ List.mem_cons_self)
          simp [hd]

/-- Lines that are closed by line feeds hold a carriage return before one when they end in it. -/
theorem crlf_infix_iff (hended : ∀ line ∈ ended, '\n' ∉ line) (hrest : '\n' ∉ rest) :
    ['\r', '\n'] <:+: ended.flatMap (· ++ ['\n']) ++ rest ↔
      ∃ line ∈ ended, line.getLast? = some '\r' := by
  induction ended with
  | nil =>
      exact iff_of_false (fun hcrlf => hrest (hcrlf.subset (by simp))) (by simp)
  | cons line ended ih =>
      obtain ⟨hline, hmore⟩ := List.forall_mem_cons.mp hended
      rw [List.flatMap_cons, List.append_assoc, List.append_assoc, List.singleton_append,
        crlf_infix_append hline, ih hmore]
      simp only [List.mem_cons, exists_eq_or_imp]

theorem Paired.of_append (h : Paired (line ++ '\r' :: '\n' :: text)) : Paired text := by
  intro before after htext
  have hbefore := h (line ++ '\r' :: '\n' :: before) after (by simp [htext])
  cases before with
  | nil => simp at hbefore
  | cons c before => simpa [List.getLast?_append, List.getLast?_cons_cons] using hbefore

/-- A text whose line feeds all follow a carriage return has none in its pieces. -/
theorem Paired.not_mem (h : Paired (line ++ text)) (hline : ¬['\r', '\n'] <:+: line) :
    '\n' ∉ line := by
  intro hmem
  obtain ⟨before, after, rfl⟩ := List.append_of_mem hmem
  have hbefore := h before (after ++ text) (by simp)
  obtain ⟨front, rfl⟩ := List.getLast?_eq_some_iff.mp hbefore
  exact hline ⟨front, after, by simp⟩

theorem paired_of_not_mem (h : '\n' ∉ text) : Paired text := by
  rintro before after rfl
  simp at h

theorem Paired.cons {c : Char} (h : Paired text) (hc : c ≠ '\n') : Paired (c :: text) := by
  intro before after hsplit
  cases before with
  | nil => exact absurd (List.cons.inj hsplit).1 hc
  | cons d before =>
      have hbefore := h before after (List.cons.inj hsplit).2
      rw [List.getLast?_cons, hbefore]
      rfl

theorem Paired.line_end (h : Paired text) : Paired ('\r' :: '\n' :: text) := by
  intro before after hsplit
  match before with
  | [] => cases hsplit
  | [c] =>
      obtain ⟨rfl, _⟩ := List.cons.inj hsplit
      rfl
  | c :: d :: before =>
      have hbefore := h before after (by simpa using (List.cons.inj (List.cons.inj hsplit).2).2)
      rw [List.getLast?_cons, List.getLast?_cons, hbefore]
      rfl

theorem Paired.append (h : Paired text) (hline : '\n' ∉ line) :
    Paired (line ++ '\r' :: '\n' :: text) := by
  induction line with
  | nil => exact h.line_end
  | cons c line ih =>
      rw [List.mem_cons, not_or] at hline
      exact (ih hline.2).cons (Ne.symm hline.1)

/-- The line feeds of lines that are closed by both characters all follow a carriage return when no
line holds one of its own. -/
theorem paired_iff (hended : ∀ line ∈ ended, ¬['\r', '\n'] <:+: line)
    (hrest : ¬['\r', '\n'] <:+: rest) :
    Paired (ended.flatMap (· ++ ['\r', '\n']) ++ rest) ↔
      (∀ line ∈ ended, '\n' ∉ line) ∧ '\n' ∉ rest := by
  induction ended with
  | nil =>
      refine ⟨fun h => ⟨by simp, ?_⟩, fun h => paired_of_not_mem h.2⟩
      have hpaired : Paired (rest ++ []) := by simpa using h
      exact hpaired.not_mem hrest
  | cons line ended ih =>
      obtain ⟨hline, hmore⟩ := List.forall_mem_cons.mp hended
      rw [List.flatMap_cons, List.append_assoc, List.append_assoc, List.forall_mem_cons, and_assoc,
        ← ih hmore]
      exact ⟨fun h => ⟨h.not_mem hline, h.of_append⟩, fun h => h.2.append h.1⟩

end Feeds

end Mender.Text
