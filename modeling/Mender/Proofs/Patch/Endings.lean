import Mathlib.Data.List.Pairwise
import Mender.Proofs.Patch.Rewriting
import Mender.Proofs.Text.Feeds

/-!
# The line endings of a file after changes

The text of a file is its lines, each followed by the line ending, and what stands after the last of
them (`Document.to_text_eq`). Where line feeds stand in it, and what comes before them, thus depends
on the lines alone; changes keep the lines that they do not cover, and a new line holds no line feed
(`apply_keeps_endings`). What stands at the end of a file that does not end in its line ending is
the last thing that the changes leave of it (`EndKept`).
-/

namespace Mender.Edit

open Text

namespace Document

variable {d : Document} {cs : List Char}

/-- The lines of the text that a line ending follows. A closed text has at least an empty one. -/
def ended (d : Document) : List (List Char) :=
  if d.closed then (if d.lines = [] then [[]] else d.lines) else d.lines.dropLast

/-- What stands in the text after the last line ending. -/
def rest (d : Document) : List Char :=
  if d.closed then [] else d.lines.getLast?.getD []

/-- A text is its lines, each followed by the line ending, and what stands after the last one. -/
theorem to_text_eq (d : Document) : d.toText = d.ended.flatMap (· ++ d.ending.mark) ++ d.rest := by
  obtain ⟨ending, lines, closed⟩ := d
  rcases List.eq_nil_or_concat lines with rfl | ⟨upper, last, rfl⟩
  · cases closed <;> simp [toText, ended, rest, joinText]
  · cases closed <;> simp [toText, ended, rest, join_text_concat]

theorem mem_ended {line : List Char} (h : line ∈ d.ended) : line = [] ∨ line ∈ d.lines := by
  unfold ended at h
  split at h
  · split at h
    · exact .inl (List.mem_singleton.mp h)
    · exact .inr h
  · exact .inr (List.dropLast_subset _ h)

theorem rest_eq_nil_or_mem (d : Document) : d.rest = [] ∨ d.rest ∈ d.lines := by
  unfold rest
  split
  · exact .inl rfl
  · cases hlast : d.lines.getLast? with
    | none => exact .inl rfl
    | some last => exact .inr (List.mem_of_getLast? hlast)

theorem mem_lines {line : List Char} (h : line ∈ d.lines) : line ∈ d.ended ∨ line = d.rest := by
  have hsome := List.ne_nil_of_mem h
  cases hclosed : d.closed with
  | true => exact .inl (by simpa [ended, hclosed, hsome] using h)
  | false =>
      rw [← List.dropLast_concat_getLast hsome, List.mem_append, List.mem_singleton] at h
      refine h.imp (by simp [ended, hclosed]) fun hlast => ?_
      rw [hlast, rest, hclosed, List.getLast?_eq_some_getLast hsome]
      rfl

/-- What holds of all lines of a text, and of an empty one, holds of the lines that are ended and of
what stands after them. -/
theorem forall_ended_rest {motive : List Char → Prop} (hempty : motive [])
    (hlines : ∀ line ∈ d.lines, motive line) :
    (∀ line ∈ d.ended, motive line) ∧ motive d.rest := by
  constructor
  · intro line hline
    rcases mem_ended hline with rfl | hmem
    · exact hempty
    · exact hlines line hmem
  · rcases d.rest_eq_nil_or_mem with hrest | hmem
    · rwa [hrest]
    · exact hlines _ hmem

/-- A text ends in a line feed that closes its last line, or in one that stands after the last line
ending. -/
theorem ends_in_feed_iff (d : Document) :
    d.toText.getLast? = some '\n' ↔
      (d.rest = [] ∧ d.ended ≠ []) ∨ d.rest.getLast? = some '\n' := by
  rw [to_text_eq]
  by_cases hrest : d.rest = []
  · rcases List.eq_nil_or_concat d.ended with hended | ⟨upper, last, hended⟩
    · simp [hrest, hended]
    · have hmark : d.ending.mark.getLast? = some '\n' := by cases d.ending <;> rfl
      simp [hrest, hended, List.getLast?_append, hmark]
  · rw [List.getLast?_append, List.getLast?_eq_some_getLast hrest]
    simp [hrest]

/-- An open text does not end in a line feed if its last line is not empty and does not. -/
theorem open_no_feed {upper : List (List Char)} {last : List Char} (hopen : d.closed = false)
    (hlines : d.lines = upper ++ [last]) (hsome : last ≠ []) (hlast : last.getLast? ≠ some '\n') :
    d.toText.getLast? ≠ some '\n' := by
  have hrest : d.rest = last := by simp [rest, hopen, hlines]
  rw [Ne, ends_in_feed_iff, hrest]
  exact fun h => h.elim (fun hnone => hsome hnone.1) hlast

/-- A closed text ends in a line feed. -/
theorem closed_ends_in_feed (hclosed : d.closed = true) : d.toText.getLast? = some '\n' := by
  refine d.ends_in_feed_iff.mpr (.inl ⟨by simp [rest, hclosed], ?_⟩)
  simp only [ended, hclosed, if_true]
  split <;> simp_all

/-- An open text, as it is read, ends in a line feed only when one stands after the last line
ending. -/
theorem Reads.open_ends_in_feed (h : d.Reads cs) (hopen : d.closed = false) :
    cs.getLast? = some '\n' ↔ d.rest.getLast? = some '\n' := by
  rw [← h.text, ends_in_feed_iff, or_iff_right_iff_imp]
  rintro ⟨hrest, hended⟩
  -- an empty line after the last line ending would have closed the text
  have hlast : d.lines.getLast? = some [] := by
    rw [List.getLast?_eq_some_getLast h.some_line]
    simpa [rest, hopen, List.getLast?_eq_some_getLast h.some_line] using hrest
  simp [ended, hopen, h.last hopen hlast] at hended

/-- A text without a line ending of two characters is read as lines that hold no line feed. -/
theorem Reads.plain (h : d.Reads cs) (hnone : ¬LineEnding.crlf.mark <:+: cs) :
    d.ending = .lf ∧ ∀ line ∈ d.lines, '\n' ∉ line := by
  have hending : d.ending = .lf := by
    cases hending : d.ending with
    | lf => rfl
    | crlf => exact absurd (h.ending.mp hending) hnone
  refine ⟨hending, fun line hline => ?_⟩
  have hbetween := h.between line hline
  rw [hending] at hbetween
  rwa [← List.singleton_infix_iff]

/-- A text, as it is read, that ends in its line ending is closed by it. -/
theorem Reads.closed_of_suffix (h : d.Reads cs) (hends : d.ending.mark <:+ cs) :
    d.closed = true := by
  by_contra hclosed
  rw [Bool.not_eq_true] at hclosed
  obtain ⟨upper, last, hlines⟩ := (List.eq_nil_or_concat d.lines).resolve_left h.some_line
  rw [List.concat_eq_append] at hlines
  have hbetween : ¬d.ending.mark <:+: last := h.between last (by simp [hlines])
  have htext : cs = upper.flatMap (· ++ d.ending.mark) ++ last := by
    rw [← h.text, to_text_eq]
    simp [ended, rest, hclosed, hlines]
  have hsome : last ≠ [] := by
    rintro rfl
    obtain rfl : upper = [] := by simpa [hlines] using h.last hclosed (by simp [hlines])
    rw [htext] at hends
    exact mark_ne_nil _ (List.suffix_nil.mp hends)
  have hshort : last.length < d.ending.mark.length := by
    by_contra hlong
    exact hbetween (List.suffix_of_suffix_length_le hends (htext ▸ List.suffix_append _ _)
      (Nat.le_of_not_lt hlong)).isInfix
  -- the last line is then a single character, but what stands before it ends in a line feed
  cases hending : d.ending with
  | lf =>
      rw [hending] at hshort
      exact hsome (List.length_eq_zero_iff.mp (Nat.lt_one_iff.mp hshort))
  | crlf =>
      rw [hending] at hshort hends htext
      obtain ⟨c, rfl⟩ : ∃ c, last = [c] := List.length_eq_one_iff.mp
        (le_antisymm (Nat.lt_succ_iff.mp hshort) (List.length_pos_iff.mpr hsome))
      rw [htext] at hends
      rcases List.eq_nil_or_concat upper with rfl | ⟨above, line, rfl⟩
      · simpa [LineEnding.mark] using hends.length_le
      · obtain ⟨front, hfront⟩ := hends
        have hback := congrArg List.reverse hfront
        simp [LineEnding.mark] at hback

end Document

/-! ## What changes leave of them -/

variable {content after : String} {changes : List Change} {lines : List (List Char)}
  {line : List Char}

theorem mem_new_lines {chosen : Change → Bool}
    (h : line ∈ (changes.filter chosen).flatMap fun c => newLines c.new) :
    ∃ c ∈ changes, line ∈ newLines c.new := by
  obtain ⟨c, hc, hline⟩ := List.mem_flatMap.mp h
  exact ⟨c, (List.mem_filter.mp hc).1, hline⟩

/-- A line after changes was there before or is a new line of one of them. -/
theorem mem_rewrite_from {number : Nat} (h : line ∈ rewriteFrom changes number lines) :
    line ∈ lines ∨ ∃ c ∈ changes, line ∈ newLines c.new := by
  induction lines generalizing number with
  | nil => cases h
  | cons first lines ih =>
      rw [rewriteFrom, lineAfter, List.mem_append, List.mem_append] at h
      rcases h with (hnew | hstays) | hbelow
      · exact .inr (mem_new_lines hnew)
      · split at hstays
        · cases hstays
        · exact .inl (List.mem_singleton.mp hstays ▸ List.mem_cons_self)
      · exact (ih hbelow).imp_left (List.mem_cons_of_mem _)

/-- Changes put no line feed into lines that hold none. -/
theorem rewritten_no_feed (hlines : ∀ line ∈ lines, '\n' ∉ line) :
    ∀ line ∈ rewritten changes lines, '\n' ∉ line := by
  intro line hline
  rcases mem_rewrite_from hline with hold | ⟨c, _, hnew⟩
  · exact hlines line hold
  · exact (new_lines_read c.new).between line hnew

/-- The document of a text after changes. -/
def changed (content : String) (changes : List Change) : Document :=
  { Document.ofText content.toList with
    lines := rewritten changes (Document.ofText content.toList).lines }

theorem apply_eq_changed (h : apply content changes = .ok after) :
    after.toList = (changed content changes).toText := by
  rw [Except.ok.inj (h.symm.trans (apply_of_fits (fits_of_apply h))), String.toList_ofList]
  rfl

/-- Changes do not bring both characters of a line ending into a text that has them nowhere, unless
a line that is followed by a line feed ends in a carriage return. -/
theorem crlf_after_iff (h : apply content changes = .ok after)
    (hnone : ¬LineEnding.crlf.mark <:+: content.toList) :
    LineEnding.crlf.mark <:+: after.toList ↔
      ∃ line ∈ (changed content changes).ended, line.getLast? = some '\r' := by
  obtain ⟨hending, hplain⟩ := (Document.of_text_reads content.toList).plain hnone
  have hlines : ∀ line ∈ (changed content changes).lines, '\n' ∉ line := rewritten_no_feed hplain
  obtain ⟨hended, hrest⟩ := Document.forall_ended_rest (by simp) hlines
  rw [apply_eq_changed h, Document.to_text_eq,
    show (changed content changes).ending = .lf from hending]
  exact crlf_infix_iff hended hrest

/-- A line that a line ending follows after changes was followed by one before, or is a new one. -/
theorem mem_ended_changed (h : line ∈ (changed content changes).ended) :
    line = [] ∨ line ∈ (Document.ofText content.toList).ended ∨
      ∃ c ∈ changes, line ∈ newLines c.new := by
  have hreads := Document.of_text_reads content.toList
  unfold changed at h
  generalize Document.ofText content.toList = d at h hreads
  cases hclosed : d.closed with
  | true =>
      refine (Document.mem_ended h).imp_right fun hline => (mem_rewrite_from hline).imp_left ?_
      simp [Document.ended, hclosed, hreads.some_line]
  | false =>
      obtain ⟨upper, last, hlines⟩ := (List.eq_nil_or_concat d.lines).resolve_left hreads.some_line
      rw [List.concat_eq_append] at hlines
      simp only [Document.ended, hclosed, Bool.false_eq_true, if_false, hlines, rewritten,
        rewrite_from_append, List.dropLast_concat] at h ⊢
      have hnews : line ∈ rewriteFrom changes 1 upper ∨
          ∃ c ∈ changes, line ∈ newLines c.new := by
        rw [rewriteFrom, rewriteFrom, List.append_nil, lineAfter, ← List.append_assoc] at h
        -- a last line that stays has none below it
        split at h
        · rw [List.append_nil] at h
          exact (List.mem_append.mp (List.dropLast_subset _ h)).imp_right mem_new_lines
        · rw [List.dropLast_concat] at h
          exact (List.mem_append.mp h).imp_right mem_new_lines
      exact .inr (hnews.elim mem_rewrite_from .inr)

/-- Changes of which no new line ends in a carriage return bring no line ending of two characters
into a text that has none. -/
theorem no_crlf_after (h : apply content changes = .ok after)
    (hnone : ¬LineEnding.crlf.mark <:+: content.toList)
    (hreturns : ∀ c ∈ changes, ∀ line ∈ newLines c.new, line.getLast? ≠ some '\r') :
    ¬LineEnding.crlf.mark <:+: after.toList := by
  rw [crlf_after_iff h hnone]
  rintro ⟨line, hline, hreturn⟩
  rcases mem_ended_changed hline with rfl | hold | ⟨c, hc, hnew⟩
  · cases hreturn
  · have hreads := Document.of_text_reads content.toList
    obtain ⟨hending, hlines⟩ := hreads.plain hnone
    obtain ⟨hended, hrest⟩ := Document.forall_ended_rest (by simp) hlines
    rw [← hreads.text, Document.to_text_eq, hending] at hnone
    exact hnone ((crlf_infix_iff hended hrest).mpr ⟨line, hold, hreturn⟩)
  · exact hreturns c hc line hnew hreturn

/-- Changes keep the line feeds of a text paired where it has paired ones. -/
theorem paired_after (h : apply content changes = .ok after)
    (hcrlf : LineEnding.crlf.mark <:+: content.toList) (hpaired : Paired content.toList) :
    Paired after.toList := by
  have hreads := Document.of_text_reads content.toList
  have hending := hreads.ending.mpr hcrlf
  have hlines : ∀ line ∈ (Document.ofText content.toList).lines, '\n' ∉ line := by
    have hbetween := hreads.between
    rw [hending] at hbetween
    obtain ⟨hended, hrest⟩ := Document.forall_ended_rest (by simp [LineEnding.mark]) hbetween
    rw [← hreads.text, Document.to_text_eq, hending] at hpaired
    obtain ⟨hended, hrest⟩ := (paired_iff hended hrest).mp hpaired
    intro line hline
    rcases Document.mem_lines hline with hmem | rfl
    · exact hended line hmem
    · exact hrest
  obtain ⟨hended, hrest⟩ := Document.forall_ended_rest (d := changed content changes) (by simp)
    (rewritten_no_feed hlines)
  have hpieces : ∀ line : List Char, '\n' ∉ line → ¬['\r', '\n'] <:+: line :=
    fun line hline hcrlf => hline (hcrlf.subset (by simp))
  rw [apply_eq_changed h, Document.to_text_eq,
    show (changed content changes).ending = .crlf from hending]
  exact (paired_iff (fun line hline => hpieces line (hended line hline)) (hpieces _ hrest)).mpr
    ⟨hended, hrest⟩


/-- Changes keep the line feed at the end of a text that ends in its line ending. -/
theorem feed_after_closed (h : apply content changes = .ok after)
    (hclosed : (Document.ofText content.toList).closed = true) :
    content.toList.getLast? = some '\n' ∧ after.toList.getLast? = some '\n' := by
  have hbefore := Document.closed_ends_in_feed hclosed
  rw [(Document.of_text_reads content.toList).text] at hbefore
  rw [apply_eq_changed h]
  exact ⟨hbefore, Document.closed_ends_in_feed hclosed⟩

/-! ## The end of a text that no line ending closes -/

/-- Changes leave nothing below a line of a file of `size` lines: every line there is covered, and
no change that begins there brings in a text. -/
structure NothingBelow (changes : List Change) (size : Nat) (line : Int) : Prop where
  covered : ∀ k : Nat, line < k → k ≤ size → ∃ c ∈ changes, c.first ≤ k ∧ (k : Int) ≤ c.last
  emptied : ∀ c ∈ changes, line < c.first → c.new = ""

/-- Lines all of which are covered go away if no change that begins at one of them brings in a
text. -/
theorem rewrite_from_emptied {number : Nat}
    (hcovered : ∀ k, number ≤ k → k < number + lines.length →
      ∃ c ∈ changes, c.first ≤ (k : Int) ∧ (k : Int) ≤ c.last)
    (hemptied : ∀ c ∈ changes, (number : Int) ≤ c.first → c.new = "") :
    rewriteFrom changes number lines = [] := by
  induction lines generalizing number with
  | nil => rfl
  | cons line lines ih =>
      rw [List.length_cons] at hcovered
      have hnews : (changes.filter fun c => c.first = (number : Int)).flatMap
          (fun c => newLines c.new) = [] := by
        refine List.flatMap_eq_nil_iff.mpr fun c hc => ?_
        obtain ⟨hchange, hfirst⟩ := List.mem_filter.mp hc
        rw [hemptied c hchange (Int.le_of_eq (of_decide_eq_true hfirst).symm)]
        rfl
      have hgoes : changes.any (fun c => c.first ≤ number ∧ (number : Int) ≤ c.last) = true := by
        obtain ⟨c, hc, hcovers⟩ := hcovered number le_rfl (by omega)
        exact List.any_eq_true.mpr ⟨c, hc, decide_eq_true hcovers⟩
      rw [rewriteFrom, lineAfter, hnews, if_pos hgoes, List.append_nil, List.nil_append]
      exact ih (fun k hk hlast => hcovered k (by omega) (by omega))
        fun c hc hfirst => hemptied c hc (by omega)

/-- What changes leave of a file is what they make of the lines below which they leave nothing. -/
theorem rewritten_take {n : Nat} (hbelow : NothingBelow changes lines.length n)
    (hn : n ≤ lines.length) : rewritten changes lines = rewriteFrom changes 1 (lines.take n) := by
  have hlength : (lines.take n).length = n := by
    rw [List.length_take, Nat.min_eq_left hn]
  have hlower : rewriteFrom changes (1 + n) (lines.drop n) = [] := by
    rw [rewrite_from_emptied]
    · intro k hk hlast
      rw [List.length_drop] at hlast
      exact hbelow.covered k (by omega) (by omega)
    · exact fun c hc hfirst => hbelow.emptied c hc (by omega)
  rw [rewritten, ← List.take_append_drop n lines, rewrite_from_append, hlength, hlower,
    List.append_nil, List.take_append_drop]

/-- A line that no change covers is the last one if nothing is left below it. -/
theorem rewritten_uncovered {k : Nat} (hline : lines[k]? = some line)
    (hfits : Fits lines.length changes) (hbelow : NothingBelow changes lines.length (k + 1))
    (hkept : ∀ c ∈ changes, c.last < k + 1 ∨ (k + 1 : Int) < c.first) :
    rewritten changes lines = rewriteFrom changes 1 (lines.take k) ++ [line] := by
  have hk : k < lines.length := (List.getElem?_eq_some_iff.mp hline).1
  have hlength : (lines.take k).length = k := by
    rw [List.length_take, Nat.min_eq_left hk.le]
  have htake : lines.take (k + 1) = lines.take k ++ [line] := by
    rw [List.take_add_one, hline, Option.toList_some]
  have hstays : rewriteFrom changes (1 + k) [line] = [line] :=
    rewrite_from_away fun c hc => ⟨(hfits.inside c hc).2.1, by
      have := hkept c hc
      rw [List.length_singleton]
      omega⟩
  rw [rewritten_take (by exact_mod_cast hbelow) hk, htake, rewrite_from_append, hlength, hstays]

/-- The new lines of a change are the last ones if nothing is left below its range. -/
theorem rewritten_replaced {c : Change} (hc : c ∈ changes) (hfits : Fits lines.length changes)
    (hbelow : NothingBelow changes lines.length c.last) :
    rewritten changes lines =
      rewriteFrom changes 1 (lines.take (c.first - 1).toNat) ++ newLines c.new := by
  obtain ⟨hfirst, hrange, hlast⟩ := hfits.inside c hc
  obtain ⟨m, hm⟩ : ∃ m : Nat, c.first = m + 1 := ⟨(c.first - 1).toNat, by omega⟩
  have hlength : (lines.take m).length = m := by
    rw [List.length_take, Nat.min_eq_left (by omega)]
  obtain ⟨line, lower, hlower⟩ : ∃ line lower, lines.drop m = line :: lower :=
    List.exists_cons_of_length_pos (by rw [List.length_drop]; omega)
  -- the ranges are apart, so no other change begins here
  have hbegins : changes.filter (fun d => d.first = ((1 + m : Nat) : Int)) = [c] := by
    have hmem : c ∈ changes.filter fun d => d.first = ((1 + m : Nat) : Int) :=
      List.mem_filter.mpr ⟨hc, decide_eq_true (by omega)⟩
    obtain ⟨d, hd⟩ := List.length_eq_one_iff.mp
      (le_antisymm (hfits.begins_at (1 + m)) (List.length_pos_of_mem hmem))
    rw [hd] at hmem ⊢
    rw [List.mem_singleton.mp hmem]
  have hcovers : changes.any (fun d => d.first ≤ (1 + m : Nat) ∧ ((1 + m : Nat) : Int) ≤ d.last) =
      true := List.any_eq_true.mpr ⟨c, hc, decide_eq_true (by omega)⟩
  -- the other lines of the range go, and nothing is left below it
  have hrest : rewriteFrom changes (1 + m + 1) lower = [] := by
    have hsize : lower.length + 1 + m = lines.length := by
      have := congrArg List.length hlower
      rw [List.length_drop, List.length_cons] at this
      omega
    refine rewrite_from_emptied (fun k hk hsmall => ?_) fun d hd hdown => ?_
    · by_cases hinside : (k : Int) ≤ c.last
      · exact ⟨c, hc, by omega, hinside⟩
      · exact hbelow.covered k (by omega) (by omega)
    · have hsymm : Std.Symm fun a b : Change => a.last < b.first ∨ b.last < a.first :=
        ⟨fun _ _ => Or.symm⟩
      have hapart := hfits.apart.forall hc hd fun heq => by
        rw [← heq] at hdown
        omega
      have := hfits.inside d hd
      exact hbelow.emptied d hd (by omega)
  have hm' : (c.first - 1).toNat = m := by omega
  rw [rewritten, hm']
  conv => lhs; rw [← List.take_append_drop m lines]
  rw [rewrite_from_append, hlength, hlower, rewriteFrom, lineAfter, hbegins, if_pos hcovers, hrest]
  simp

/-- The last line of a new text that does not end in a line feed is not empty, and neither does it.
-/
theorem new_lines_last {new : String} (hsome : new ≠ "")
    (hfeed : new.toList.getLast? ≠ some '\n') :
    ∃ upper last, newLines new = upper ++ [last] ∧ last ≠ [] ∧ last.getLast? ≠ some '\n' := by
  obtain ⟨hno, ⟨pieces, htext, -, hjoin⟩, hplain⟩ := new_lines_read new
  obtain ⟨upper, last, hlines⟩ :=
    (List.eq_nil_or_concat (newLines new)).resolve_left fun hnone => hsome (hno.mp hnone)
  rw [List.concat_eq_append] at hlines
  -- joined by line feeds alone, the text ends in one where it did before
  have hends : (joinText LineEnding.lf.mark (newLines new)).getLast? ≠ some '\n' := by
    have hcrlf := (⟨.crlf, pieces, false⟩ : Document).ends_in_feed_iff
    have hlf := (⟨.lf, pieces, false⟩ : Document).ends_in_feed_iff
    simp only [Document.toText, Bool.false_eq_true, if_false, List.append_nil, htext] at hcrlf hlf
    rw [hjoin, Ne, hlf]
    exact fun h => hfeed (hcrlf.mpr h)
  rw [hlines, join_text_concat] at hends
  have hlast : '\n' ∉ last := hplain last (by simp [hlines])
  refine ⟨upper, last, hlines, ?_, fun h => hlast (List.mem_of_getLast? h)⟩
  rintro rfl
  rcases List.eq_nil_or_concat upper with rfl | ⟨above, line, rfl⟩
  · -- a single empty line is read of an empty text only
    rw [hlines] at hjoin
    refine hsome (String.toList_injective (htext.symm.trans ?_))
    rcases pieces with _ | ⟨piece, _ | ⟨other, others⟩⟩
    · rfl
    · exact hjoin.symm
    · simp [joinText, LineEnding.mark] at hjoin
  · exact hends (by simp [LineEnding.mark])

/-- The ways in which changes let a text end in a line feed exactly when it did. -/
inductive EndKept (d : Document) (changes : List Change) : Prop
  /-- The text ends in its line ending. -/
  | closed : d.ending.mark <:+ d.toText → EndKept d changes
  /-- No change reaches the last line. -/
  | above : (∀ c ∈ changes, c.last < d.lines.length) → EndKept d changes
  /-- No line feed is at the end, and nothing is left. -/
  | emptied : d.toText.getLast? ≠ some '\n' → NothingBelow changes d.lines.length 0 →
      EndKept d changes
  /-- No line feed is at the end, and the last thing left is a line that is not empty. -/
  | uncovered {k : Nat} {line : List Char} : d.toText.getLast? ≠ some '\n' →
      NothingBelow changes d.lines.length (k + 1) → d.lines[k]? = some line →
      (∀ c ∈ changes, c.last < k + 1 ∨ (k + 1 : Int) < c.first) → line ≠ [] →
      line.getLast? ≠ some '\n' → EndKept d changes
  /-- No line feed is at the end, and the last thing left is a new text that does not end in one. -/
  | replaced {c : Change} : d.toText.getLast? ≠ some '\n' → c ∈ changes →
      NothingBelow changes d.lines.length c.last → c.new ≠ "" →
      c.new.toList.getLast? ≠ some '\n' → EndKept d changes

/-- Changes above the last line leave the end of a file as it was. -/
theorem feed_after_above (h : apply content changes = .ok after)
    (habove : ∀ c ∈ changes, c.last < (Document.ofText content.toList).lines.length) :
    after.toList.getLast? = some '\n' ↔ content.toList.getLast? = some '\n' := by
  have hreads := Document.of_text_reads content.toList
  cases hclosed : (Document.ofText content.toList).closed with
  | true =>
      obtain ⟨hbefore, hafter⟩ := feed_after_closed h hclosed
      exact iff_of_true hafter hbefore
  | false =>
      have hopen : (changed content changes).closed = false := hclosed
      obtain ⟨upper, last, hlines⟩ :=
        (List.eq_nil_or_concat (Document.ofText content.toList).lines).resolve_left
          hreads.some_line
      rw [List.concat_eq_append] at hlines
      have hsize : (Document.ofText content.toList).lines.length = upper.length + 1 := by
        rw [hlines, List.length_append, List.length_singleton]
      have hfits := fits_of_apply h
      have hbelow : NothingBelow changes (Document.ofText content.toList).lines.length
          (upper.length + 1) :=
        ⟨fun k _ _ => by omega, fun c hc hdown => by
          have := hfits.inside c hc
          have := habove c hc
          omega⟩
      have hline : (Document.ofText content.toList).lines[upper.length]? = some last := by
        simp [hlines]
      have hchanged : (changed content changes).lines = _ :=
        rewritten_uncovered hline hfits hbelow fun c hc => .inl (by
          have := habove c hc
          omega)
      rw [hlines, List.take_left] at hchanged
      rw [apply_eq_changed h, Document.ends_in_feed_iff, hreads.open_ends_in_feed hclosed]
      have hrest : (changed content changes).rest = (Document.ofText content.toList).rest := by
        simp [Document.rest, hopen, hclosed, hchanged, hlines]
      rw [hrest, or_iff_right_iff_imp]
      rintro ⟨hnothing, hended⟩
      -- an empty last line is the only one of an open text
      obtain rfl : last = [] := by
        simpa [Document.rest, hclosed, hlines] using hnothing
      have halone := hreads.last hclosed (by simp [hlines])
      obtain rfl : upper = [] := by simpa [hlines] using halone
      simp [Document.ended, hopen, hchanged, rewriteFrom] at hended

/-- Changes that keep the end of a text let it end in a line feed exactly when it did. -/
theorem feed_after_kept (h : apply content changes = .ok after)
    (hkept : EndKept (Document.ofText content.toList) changes) :
    after.toList.getLast? = some '\n' ↔ content.toList.getLast? = some '\n' := by
  have hreads := Document.of_text_reads content.toList
  have hfits := fits_of_apply h
  have hopen : content.toList.getLast? ≠ some '\n' → (changed content changes).closed = false :=
    fun hfeed => Bool.eq_false_iff.mpr fun hclosed => hfeed (feed_after_closed h hclosed).1
  cases hkept with
  | closed hends =>
      rw [hreads.text] at hends
      obtain ⟨hbefore, hafter⟩ := feed_after_closed h (hreads.closed_of_suffix hends)
      exact iff_of_true hafter hbefore
  | above habove => exact feed_after_above h habove
  | emptied hfeed hbelow =>
      rw [hreads.text] at hfeed
      refine iff_of_false ?_ hfeed
      have hnone : (changed content changes).lines = [] := rewritten_take hbelow (Nat.zero_le _)
      rw [apply_eq_changed h, Document.toText, hnone, hopen hfeed]
      simp [joinText]
  | uncovered hfeed hbelow hline hkept hsome hlast =>
      rw [hreads.text] at hfeed
      refine iff_of_false ?_ hfeed
      rw [apply_eq_changed h]
      exact Document.open_no_feed (hopen hfeed) (rewritten_uncovered hline hfits hbelow hkept) hsome
        hlast
  | replaced hfeed hc hbelow hsome hlast =>
      rw [hreads.text] at hfeed
      refine iff_of_false ?_ hfeed
      obtain ⟨upper, last, hnew, hpiece, hend⟩ := new_lines_last hsome hlast
      have hchanged : (changed content changes).lines = _ := rewritten_replaced hc hfits hbelow
      rw [hnew, ← List.append_assoc] at hchanged
      rw [apply_eq_changed h]
      exact Document.open_no_feed (hopen hfeed) hchanged hpiece hend

/-- Changes that can be made keep the line ending of a file and the line feed at its end. A file
that does not end in its line ending ends in the last thing that they leave of it, and a carriage
return at the end of a new line would make a line ending of two characters with the line feed after
it. -/
theorem apply_keeps_endings (h : apply content changes = .ok after) :
    (EndKept (Document.ofText content.toList) changes →
      (after.toList.getLast? = some '\n' ↔ content.toList.getLast? = some '\n')) ∧
    (¬LineEnding.crlf.mark <:+: content.toList →
      (∀ c ∈ changes, ∀ line ∈ newLines c.new, line.getLast? ≠ some '\r') →
      ¬LineEnding.crlf.mark <:+: after.toList) ∧
    (LineEnding.crlf.mark <:+: content.toList → Paired content.toList → Paired after.toList) :=
  ⟨feed_after_kept h, no_crlf_after h, paired_after h⟩

/-- A single change needs no sorting. -/
theorem apply_single (content : String) (c : Change) :
    apply content [c] = (applyDown [c] none (Document.ofText content.toList).lines).map fun lines =>
      String.ofList { Document.ofText content.toList with lines }.toText := by
  rw [apply, bottomUp, List.mergeSort_singleton]
  rfl

/-- Two new lines at the end of an open file are parted by its own line ending, and a file that
loses its last line ends in the one above it. -/
theorem apply_keeps_endings_last_line :
    apply "a\nb" [⟨"a.txt", 2, 2, "", "x\r\ny"⟩] = .ok "a\nx\ny" ∧
      ("a\nx\ny".toList.getLast? = some '\n' ↔ "a\nb".toList.getLast? = some '\n') ∧
      ¬LineEnding.crlf.mark <:+: "a\nx\ny".toList ∧
      apply "a\r\nb" [⟨"a.txt", 2, 2, "", "x\ny"⟩] = .ok "a\r\nx\r\ny" ∧
      Paired "a\r\nx\r\ny".toList ∧
      apply "a\nb" [⟨"a.txt", 2, 2, "", ""⟩] = .ok "a" ∧
      ("a".toList.getLast? = some '\n' ↔ "a\nb".toList.getLast? = some '\n') := by
  have hfeed : apply "a\nb" [⟨"a.txt", 2, 2, "", "x\r\ny"⟩] = .ok "a\nx\ny" := by
    rw [apply_single]
    rfl
  have hcrlf : apply "a\r\nb" [⟨"a.txt", 2, 2, "", "x\ny"⟩] = .ok "a\r\nx\r\ny" := by
    rw [apply_single]
    rfl
  have hdropped : apply "a\nb" [⟨"a.txt", 2, 2, "", ""⟩] = .ok "a" := by
    rw [apply_single]
    rfl
  have hpaired : Paired "a\r\nb".toList :=
    (@paired_iff ['b'] [['a']] (by decide) (by decide)).mpr (by decide)
  obtain ⟨hends, hnone, _⟩ := apply_keeps_endings hfeed
  obtain ⟨_, _, hkeeps⟩ := apply_keeps_endings hcrlf
  obtain ⟨hloses, _, _⟩ := apply_keeps_endings hdropped
  have hsize : (Document.ofText "a\nb".toList).lines.length = 2 := rfl
  have hlast : NothingBelow [⟨"a.txt", 2, 2, "", "x\r\ny"⟩] 2 2 :=
    ⟨fun k hlow hhigh => by omega, by decide⟩
  have hfirst : NothingBelow [⟨"a.txt", 2, 2, "", ""⟩] 2 ((0 : Nat) + 1) :=
    ⟨fun k hlow hhigh => ⟨_, List.mem_cons_self, show (2 : Int) ≤ k ∧ (k : Int) ≤ 2 by omega⟩,
      by decide⟩
  exact ⟨hfeed,
    hends (.replaced (by decide) List.mem_cons_self (hsize ▸ hlast) (by decide) (by decide)),
    hnone (by decide) (by decide), hcrlf, hkeeps (by decide) hpaired, hdropped,
    hloses (.uncovered (by decide) (hsize ▸ hfirst) rfl (by decide) (by decide) (by decide))⟩

/-- A text without a line ending gets the plain one between new lines. -/
theorem apply_ends_lines_plainly :
    apply "a" [⟨"a.txt", 1, 1, "", "x\ny"⟩] = .ok "x\ny" ∧ Paired "a".toList ∧
      ¬Paired "x\ny".toList := by
  refine ⟨?_, paired_of_not_mem (by decide), fun h => absurd (h ['x'] ['y'] rfl) (by decide)⟩
  rw [apply_single]
  rfl

end Mender.Edit
