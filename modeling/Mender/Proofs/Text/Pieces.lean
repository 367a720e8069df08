import Mender.Text.Lines

/-!
# Pieces and lines of a text

A text is split at a mark from the left: `split_induction` is the induction that follows. No piece
holds the mark. The lines of a text that is only read end at every separator there is, so a piece
between line endings is one line when it holds no separator, and its part before the first of them
is one otherwise.
-/

namespace Mender.Text

section Marks

variable {mark : List Char}

theorem has_text_cons (mark : List Char) (c : Char) (cs : List Char) :
    hasText mark (c :: cs) = (mark.isPrefixOf (c :: cs) || hasText mark cs) := by
  by_cases h : mark.isPrefixOf (c :: cs) <;> simp [hasText, findText?, h]

theorem has_text_iff_infix (mark cs : List Char) : hasText mark cs = true ↔ mark <:+: cs := by
  induction cs with
  | nil => simp [hasText, findText?, List.infix_nil]
  | cons c cs ih =>
      rw [has_text_cons, Bool.or_eq_true, List.isPrefixOf_iff_prefix, ih, List.infix_cons_iff]

theorem split_text_mark (hmark : mark ≠ []) (cs : List Char) :
    splitText mark (mark ++ cs) = [] :: splitText mark cs := by
  match mark, hmark with
  | m :: ms, _ =>
      have hprefix : (m :: ms).isPrefixOf (m :: (ms ++ cs)) = true :=
        List.isPrefixOf_iff_prefix.mpr (List.prefix_append (m :: ms) cs)
      rw [List.cons_append, splitText, splitAfter, if_pos hprefix, split_after_eq_drop]
      simp [splitText]

theorem split_text_char {c : Char} {cs : List Char} (h : ¬mark <+: c :: cs) :
    splitText mark (c :: cs) = consFirst c (splitText mark cs) := by
  rw [splitText, splitAfter, if_neg (fun hprefix => h (List.isPrefixOf_iff_prefix.mp hprefix))]
  rfl

/-- Induction along the splitting of a text: it is empty, begins with the mark, or begins with a
character of a piece. -/
@[elab_as_elim]
theorem split_induction (hmark : mark ≠ []) {motive : List Char → Prop} (nil : motive [])
    (cut : ∀ cs, motive cs → motive (mark ++ cs))
    (char : ∀ c cs, ¬mark <+: c :: cs → motive cs → motive (c :: cs)) (cs : List Char) :
    motive cs := by
  match cs with
  | [] => exact nil
  | c :: cs =>
      by_cases h : mark <+: c :: cs
      · obtain ⟨rest, hrest⟩ := h
        have hshorter : rest.length < cs.length + 1 := by
          have := congrArg List.length hrest
          have := List.length_pos_iff.mpr hmark
          simp only [List.length_append, List.length_cons] at *
          omega
        rw [← hrest]
        exact cut rest (split_induction hmark nil cut char rest)
      · exact char c cs h (split_induction hmark nil cut char cs)
termination_by cs.length

/-- Replacing a mark joins the pieces between its occurrences with what replaces it. -/
theorem replace_text_eq (mark new cs : List Char) :
    replaceText mark new cs = joinText new (splitText mark cs) := by
  rw [replaceText, splitText]
  generalize 0 = skip
  induction cs generalizing skip with
  | nil => simp [replaceAfter, splitAfter, joinText]
  | cons c cs ih =>
      have hsome := fun skip => split_after_ne_nil mark skip cs
      cases skip with
      | succ skip => exact ih skip
      | zero =>
          rw [replaceAfter, splitAfter]
          split
          · rw [join_text_cons _ _ (hsome _), ih, List.nil_append]
          · rw [join_text_cons_first _ _ (hsome _), ih]

/-- A joined text begins with its first piece. -/
theorem prefix_join_text (mark piece : List Char) (pieces : List (List Char)) :
    piece <+: joinText mark (piece :: pieces) := by
  cases pieces with
  | nil => exact List.prefix_rfl
  | cons next pieces =>
      rw [join_text_cons mark piece (by simp), List.append_assoc]
      exact List.prefix_append _ _

/-- No piece holds the mark. -/
theorem not_infix_of_mem_split_text (hmark : mark ≠ []) {cs piece : List Char}
    (h : piece ∈ splitText mark cs) : ¬mark <:+: piece := by
  induction cs using split_induction hmark generalizing piece with
  | nil =>
      obtain rfl : piece = [] := by simpa [splitText, splitAfter] using h
      exact fun hinfix => hmark (List.infix_nil.mp hinfix)
  | cut cs ih =>
      rw [split_text_mark hmark] at h
      rcases List.mem_cons.mp h with rfl | hlater
      · exact fun hinfix => hmark (List.infix_nil.mp hinfix)
      · exact ih hlater
  | char c cs hchar ih =>
      rw [split_text_char hchar] at h
      obtain ⟨first, pieces, hpieces⟩ := List.exists_cons_of_ne_nil (split_text_ne_nil mark cs)
      rw [hpieces, consFirst] at h
      rcases List.mem_cons.mp h with rfl | hlater
      · have hfirst := ih (hpieces ▸ List.mem_cons_self)
        rw [List.infix_cons_iff, not_or]
        refine ⟨fun hstart => hchar (hstart.trans ?_), hfirst⟩
        have hjoin := join_split_text hmark cs
        rw [hpieces] at hjoin
        exact List.cons_prefix_cons.mpr ⟨rfl, hjoin ▸ prefix_join_text mark first pieces⟩
      · exact ih (hpieces ▸ List.mem_cons_of_mem _ hlater)

end Marks

section Lines

variable {piece : List Char} {pieces : List (List Char)}

/-- A text that holds no separator of lines. -/
def Unbroken (cs : List Char) : Prop :=
  ∀ c ∈ cs, isLineBreak c = false

theorem lines_char {c : Char} (h : isLineBreak c = false) (cs : List Char) :
    lines (c :: cs) = consFirst c (lines cs) := by
  have hne : c ≠ '\r' := by
    rintro rfl
    exact absurd h (by decide)
  rw [lines, if_neg (by simp [h])]
  exact fun _ heq _ => hne heq

theorem lines_break {c : Char} (h : isLineBreak c = true) (cs : List Char) :
    ∃ more, lines (c :: cs) = [] :: more := by
  rw [lines.eq_def]
  split
  · rename_i heq
    cases heq
  · exact ⟨_, rfl⟩
  · rename_i heq
    cases heq
    exact ⟨_, if_pos h⟩

/-- A text without separators is one line, unless it is empty. -/
theorem lines_of_unbroken (h : Unbroken piece) (hsome : piece ≠ []) : lines piece = [piece] := by
  induction piece with
  | nil => exact absurd rfl hsome
  | cons c cs ih =>
      obtain ⟨hc, hcs⟩ := List.forall_mem_cons.mp h
      rw [lines_char hc]
      cases cs with
      | nil => rfl
      | cons d cs => rw [ih hcs (by simp), consFirst]

/-- What comes before a text whose first line is empty becomes that line. -/
theorem lines_append {cs : List Char} {more : List (List Char)} (h : Unbroken piece)
    (hcs : lines cs = [] :: more) : lines (piece ++ cs) = piece :: more := by
  induction piece with
  | nil => exact hcs
  | cons c piece ih =>
      obtain ⟨hc, hpiece⟩ := List.forall_mem_cons.mp h
      rw [List.cons_append, lines_char hc, ih hpiece, consFirst]

theorem lines_mark (e : LineEnding) (cs : List Char) : lines (e.mark ++ cs) = [] :: lines cs := by
  cases e with
  | lf => exact (lines.eq_3 _ _ (fun _ heq => by cases heq)).trans (if_pos (by decide))
  | crlf => rfl

/-- Pieces without separators, each closed by a line ending, are the lines of the text. -/
theorem lines_of_closed (e : LineEnding) (hsome : pieces ≠ []) (h : ∀ p ∈ pieces, Unbroken p) :
    lines (joinText e.mark pieces ++ e.mark) = pieces := by
  induction pieces with
  | nil => exact absurd rfl hsome
  | cons p ps ih =>
      obtain ⟨hp, hps⟩ := List.forall_mem_cons.mp h
      by_cases hlast : ps = []
      · subst hlast
        have hmark := lines_append hp (lines_mark e [])
        rwa [List.append_nil] at hmark
      · rw [join_text_cons _ _ hlast, List.append_assoc, List.append_assoc,
          lines_append hp (lines_mark e _), ih hlast hps]

/-- Pieces without separators between line endings are the lines of the text, unless the last of
them is empty. -/
theorem lines_of_open (e : LineEnding) (hlast : pieces.getLast? ≠ some [])
    (h : ∀ p ∈ pieces, Unbroken p) : lines (joinText e.mark pieces) = pieces := by
  induction pieces with
  | nil => rfl
  | cons p ps ih =>
      obtain ⟨hp, hps⟩ := List.forall_mem_cons.mp h
      cases ps with
      | nil =>
          have hsome : p ≠ [] := by
            rintro rfl
            exact hlast rfl
          exact lines_of_unbroken hp hsome
      | cons q qs =>
          rw [join_text_cons _ _ (by simp), List.append_assoc, lines_append hp (lines_mark e _),
            ih (by rwa [List.getLast?_cons_cons] at hlast) hps]

/-- A text with separators has a first one. -/
theorem exists_first_break (h : ¬Unbroken piece) :
    ∃ before c after, piece = before ++ c :: after ∧ Unbroken before ∧ isLineBreak c = true := by
  cases hfind : piece.find? isLineBreak with
  | none => exact absurd (fun c hc => by simpa using List.find?_eq_none.mp hfind c hc) h
  | some c =>
      obtain ⟨hc, before, after, hpiece, hbefore⟩ := List.find?_eq_some_iff_append.mp hfind
      exact ⟨before, c, after, hpiece, fun d hd => by simpa using hbefore d hd, hc⟩

/-- The first of some pieces with a separator is not the line of the text in its place: that line
ends at the separator. -/
theorem lines_differ (e : LineEnding) (tail : List Char) (h : ¬∀ p ∈ pieces, Unbroken p) :
    ∃ (k : Nat) (line piece : List Char), (lines (joinText e.mark pieces ++ tail))[k]? = some line ∧
      pieces[k]? = some piece ∧ line ≠ piece := by
  induction pieces with
  | nil => exact absurd (by simp) h
  | cons p ps ih =>
      by_cases hp : Unbroken p
      · have hps : ¬∀ q ∈ ps, Unbroken q := fun hps => h (List.forall_mem_cons.mpr ⟨hp, hps⟩)
        obtain ⟨k, line, piece, hline, hpiece, hne⟩ := ih hps
        have hsome : ps ≠ [] := by
          rintro rfl
          exact hps (by simp)
        refine ⟨k + 1, line, piece, ?_, hpiece, hne⟩
        rw [join_text_cons _ _ hsome, List.append_assoc, List.append_assoc,
          lines_append hp (lines_mark e _)]
        exact hline
      · obtain ⟨before, c, after, rfl, hbefore, hc⟩ := exists_first_break hp
        obtain ⟨rest, hrest⟩ := prefix_join_text e.mark (before ++ c :: after) ps
        obtain ⟨more, hmore⟩ := lines_break hc (after ++ rest ++ tail)
        refine ⟨0, before, before ++ c :: after, ?_, rfl, by simp⟩
        rw [← hrest, List.append_assoc, List.append_assoc, List.cons_append, ← List.append_assoc,
          lines_append hbefore hmore]
        rfl

/-- Only an empty text has no lines. -/
theorem lines_ne_nil {cs : List Char} (h : cs ≠ []) : lines cs ≠ [] := by
  cases cs with
  | nil => exact absurd rfl h
  | cons c cs =>
      cases hc : isLineBreak c with
      | true =>
          obtain ⟨more, hmore⟩ := lines_break hc cs
          simp [hmore]
      | false =>
          rw [lines_char hc]
          cases lines cs <;> simp [consFirst]

/-- A separator before a line ending is a line of its own, unless the two are one separator. -/
theorem lines_break_append {c : Char} {cs : List Char} (e : LineEnding)
    (hbreak : isLineBreak c = true) (hpair : ∀ more, c = '\r' → cs = '\n' :: more → False)
    (hjoined : ¬(c = '\r' ∧ cs = [] ∧ e = .lf)) (rest : List Char) :
    lines (c :: (cs ++ (e.mark ++ rest))) = [] :: lines (cs ++ (e.mark ++ rest)) := by
  refine (lines.eq_3 _ _ fun more hc heq => ?_).trans (if_pos hbreak)
  cases cs with
  | nil =>
      cases e with
      | lf => exact hjoined ⟨hc, rfl, rfl⟩
      | crlf => cases heq
  | cons d cs =>
      obtain ⟨rfl, _⟩ := List.cons.inj heq
      exact hpair cs hc rfl

/-- The lines of a text go on after a line ending as those of the text that follows it. -/
theorem lines_append_mark (e : LineEnding) (cs rest : List Char) :
    lines (cs ++ (e.mark ++ rest)) = lines (cs ++ e.mark) ++ lines rest := by
  have hmark : lines e.mark = [[]] := by cases e <;> rfl
  induction cs using lines.induct with
  | case1 => rw [List.nil_append, List.nil_append, lines_mark, hmark, List.singleton_append]
  | case2 cs ih => simp only [List.cons_append, lines, ih]
  | case3 c cs hpair hbreak ih =>
      -- a carriage return at the end of the text makes one line ending with the line feed after it
      by_cases hjoined : c = '\r' ∧ cs = [] ∧ e = .lf
      · obtain ⟨rfl, rfl, rfl⟩ := hjoined
        rfl
      · have hends := lines_break_append e hbreak hpair hjoined []
        rw [List.append_nil] at hends
        rw [List.cons_append, List.cons_append, hends,
          lines_break_append e hbreak hpair hjoined rest, ih, List.cons_append]
  | case4 c cs hpair hchar ih =>
      rw [Bool.not_eq_true] at hchar
      have hsome : cs ++ e.mark ≠ [] := by cases e <;> simp [LineEnding.mark]
      rw [List.cons_append, List.cons_append, lines_char hchar, lines_char hchar, ih]
      cases hlines : lines (cs ++ e.mark) with
      | nil => exact absurd hlines (lines_ne_nil hsome)
      | cons line more => rfl

/-- A line ending after a text takes none of its lines away. -/
theorem lines_prefix_mark (e : LineEnding) (cs : List Char) :
    lines cs <+: lines (cs ++ e.mark) := by
  have hmark : lines e.mark = [[]] := by cases e <;> rfl
  induction cs using lines.induct with
  | case1 => exact List.nil_prefix
  | case2 cs ih => exact List.cons_prefix_cons.mpr ⟨rfl, ih⟩
  | case3 c cs hpair hbreak ih =>
      -- a carriage return at the end becomes one line ending with the line feed behind it
      by_cases hjoined : c = '\r' ∧ cs = [] ∧ e = .lf
      · obtain ⟨rfl, rfl, rfl⟩ := hjoined
        exact List.prefix_refl _
      · have hends := lines_break_append e hbreak hpair hjoined []
        rw [List.append_nil] at hends
        rw [List.cons_append, hends, lines.eq_3 _ _ hpair, if_pos hbreak]
        exact List.cons_prefix_cons.mpr ⟨rfl, ih⟩
  | case4 c cs hpair hchar ih =>
      rw [Bool.not_eq_true] at hchar
      rw [List.cons_append, lines_char hchar, lines_char hchar]
      cases cs with
      | nil => simp [hmark, lines, consFirst]
      | cons d cs =>
          cases hlines : lines (d :: cs) with
          | nil => exact absurd hlines (lines_ne_nil (by simp))
          | cons line more =>
              obtain ⟨rest, hrest⟩ := hlines ▸ ih
              rw [← hrest]
              exact ⟨rest, rfl⟩

/-- Pieces that a line ending follows hold a line each at least. -/
theorem length_le_lines (e : LineEnding) (pieces : List (List Char)) (h : pieces ≠ []) :
    pieces.length ≤ (lines (joinText e.mark pieces ++ e.mark)).length := by
  induction pieces with
  | nil => exact absurd rfl h
  | cons p ps ih =>
      have hfirst : 1 ≤ (lines (p ++ e.mark)).length := by
        rw [Nat.one_le_iff_ne_zero, Ne, List.length_eq_zero_iff]
        exact lines_ne_nil (by cases e <;> simp [LineEnding.mark])
      by_cases hlast : ps = []
      · subst hlast
        exact hfirst
      · have hrest := ih hlast
        rw [join_text_cons _ _ hlast, List.append_assoc, List.append_assoc, lines_append_mark,
          List.length_append, List.length_cons]
        omega

/-- Joining puts the mark between the pieces. -/
theorem join_text_eq_intercalate (mark : List Char) (pieces : List (List Char)) :
    joinText mark pieces = mark.intercalate pieces := by
  induction pieces with
  | nil => rfl
  | cons piece pieces ih =>
      cases pieces with
      | nil => simp [joinText]
      | cons next pieces => simp [join_text_cons, ih]

/-- Pieces joined in two parts. -/
theorem join_text_append (mark : List Char) {pieces more : List (List Char)} (hsome : pieces ≠ [])
    (hmore : more ≠ []) :
    joinText mark (pieces ++ more) = joinText mark pieces ++ (mark ++ joinText mark more) := by
  induction pieces with
  | nil => exact absurd rfl hsome
  | cons p ps ih =>
      by_cases hlast : ps = []
      · subst hlast
        rw [List.singleton_append, join_text_cons _ _ hmore]
        exact List.append_assoc _ _ _
      · rw [List.cons_append, join_text_cons _ _ (by simp [hlast]), join_text_cons _ _ hlast,
          ih hlast]
        simp only [List.append_assoc]

/-- The lines that pieces hold are the same whatever pieces follow them. -/
theorem lines_of_pieces (e : LineEnding) {pieces more : List (List Char)} (hsome : pieces ≠ [])
    (hmore : more ≠ []) (tail : List Char) {k : Nat} (hk : k < pieces.length) :
    (lines (joinText e.mark (pieces ++ more) ++ tail))[k]? =
      (lines (joinText e.mark pieces ++ e.mark))[k]? := by
  have hlength := length_le_lines e pieces hsome
  rw [join_text_append _ hsome hmore, List.append_assoc, List.append_assoc, lines_append_mark,
    List.getElem?_append_left (by omega)]

end Lines

end Mender.Text
