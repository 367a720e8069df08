import Mathlib.Data.List.Infix
import Mathlib.Data.List.TakeWhile
import Mender.Text.Blank
import Mender.Text.Cut

/-!
# Where marks occur

A mark in a text that is put together stands in one of its parts or straddles two of them
(`Text.infix_append_cases`). A character that the mark lacks keeps it from straddling, and so do the
brackets of a mark that has some at its ends only (`Text.Bracketed`). So the first occurrence of a
mark is where it was put, when no part before it holds one: `Text.find_text_after`.
-/

namespace Mender.Text

variable {mark before rest : List Char}

/-! ## Parts of a text -/

/-- A mark in a joined text stands in either part, or a front of it ends the one part and the back
of it begins the other. -/
theorem infix_append_cases (h : mark <:+: before ++ rest) :
    mark <:+: before ∨ mark <:+: rest ∨ ∃ front back, mark = front ++ back ∧ front ≠ [] ∧
      back ≠ [] ∧ front <:+ before ∧ back <+: rest := by
  obtain ⟨left, right, heq⟩ := h
  rw [List.append_assoc] at heq
  rcases List.append_eq_append_iff.mp heq with ⟨more, hbefore, hmore⟩ | ⟨more, _, hrest⟩
  · rcases List.append_eq_append_iff.mp hmore with ⟨inner, hinner, _⟩ | ⟨back, hmark, hback⟩
    · exact .inl ⟨left, inner, by rw [hbefore, hinner, List.append_assoc]⟩
    · by_cases hfront : more = []
      · exact .inr (.inl (by rw [hmark, hfront, List.nil_append, hback]; exact ⟨[], right, rfl⟩))
      by_cases hsome : back = []
      · exact .inl (by rw [hmark, hsome, List.append_nil, hbefore]; exact ⟨left, [], by simp⟩)
      · exact .inr (.inr ⟨more, back, hmark, hfront, hsome, ⟨left, hbefore.symm⟩,
          ⟨right, hback.symm⟩⟩)
  · exact .inr (.inl ⟨more, right, by rw [hrest, List.append_assoc]⟩)

/-- A mark does not go over a character that it lacks. -/
theorem infix_append_cons_iff {c : Char} (hc : c ∉ mark) :
    mark <:+: before ++ c :: rest ↔ mark <:+: before ∨ mark <:+: rest := by
  have hbegin {back : List Char} (hback : back <+: c :: rest) (hsub : back ⊆ mark) :
      back = [] := by
    cases back with
    | nil => rfl
    | cons d back =>
        obtain ⟨rfl, _⟩ := List.cons_prefix_cons.mp hback
        exact absurd (hsub List.mem_cons_self) hc
  constructor
  · intro h
    rcases infix_append_cases h with h | h | ⟨front, back, rfl, _, hsome, _, hback⟩
    · exact .inl h
    · rcases List.infix_cons_iff.mp h with hprefix | h
      · rw [hbegin hprefix (List.Subset.refl _)]
        exact .inr (List.nil_infix)
      · exact .inr h
    · exact absurd (hbegin hback (List.subset_append_right _ _)) hsome
  · rintro (h | h)
    · exact h.trans (List.prefix_append _ _).isInfix
    · exact h.trans ((List.suffix_cons _ _).trans (List.suffix_append _ _)).isInfix

/-! ## First occurrences -/

/-- The first occurrence of a mark is behind a text when no other is complete before that one. -/
theorem find_text_after (h : ¬mark <:+: before ++ mark.dropLast) (rest : List Char) :
    findText? mark (before ++ (mark ++ rest)) = some before.length := by
  induction before with
  | nil =>
      cases mark with
      | nil => exact absurd List.nil_infix h
      | cons m ms => simp [findText?]
  | cons c before ih =>
      rw [List.cons_append, List.infix_cons_iff, not_or] at h
      have hlater : ¬mark.isPrefixOf (c :: (before ++ (mark ++ rest))) = true := by
        intro hprefix
        have hfront : c :: (before ++ mark.dropLast) <+: c :: (before ++ (mark ++ rest)) := by
          rw [List.cons_prefix_cons, and_iff_right rfl, List.prefix_append_right_inj]
          exact (List.dropLast_prefix mark).trans (List.prefix_append _ _)
        have hlength : mark.length ≤ (c :: (before ++ mark.dropLast)).length := by
          simp only [List.length_cons, List.length_append, List.length_dropLast]
          omega
        exact h.1 (List.prefix_of_prefix_length_le (List.isPrefixOf_iff_prefix.mp hprefix) hfront
          hlength)
      rw [List.cons_append, findText?, if_neg hlater, ih h.2, List.length_cons]
      rfl

/-! ## Marks in brackets -/

/-- A mark that begins with an opening angle bracket and ends with a closing one, and has no others.
-/
structure Bracketed (mark : List Char) : Prop where
  head : mark.head? = some '<'
  tail : '<' ∉ mark.tail
  last : mark.getLast? = some '>'
  front : '>' ∉ mark.dropLast

namespace Bracketed

variable {other : List Char}

theorem of_inner {inner : List Char} (h : ∀ c ∈ inner, c ≠ '<' ∧ c ≠ '>') :
    Bracketed ('<' :: inner ++ ['>']) where
  head := rfl
  tail := by
    simpa using fun hmem => (h '<' hmem).1 rfl
  last := List.getLast?_concat
  front := by
    rw [List.dropLast_concat]
    simpa using fun hmem => (h '>' hmem).2 rfl

/-- A part in front of a bracketed mark, not all of it, does not hold the closing bracket. -/
theorem front_part {front back : List Char} (h : Bracketed (front ++ back)) (hback : back ≠ []) :
    '>' ∉ front := by
  intro hmem
  apply h.front
  rw [List.dropLast_append_of_ne_nil hback]
  exact List.mem_append_left _ hmem

/-- A part at the end of a bracketed mark, not all of it, does not hold the opening bracket. -/
theorem back_part {front back : List Char} (h : Bracketed (front ++ back)) (hfront : front ≠ []) :
    '<' ∉ back := by
  intro hmem
  apply h.tail
  rw [List.tail_append_of_ne_nil hfront]
  exact List.mem_append_right _ hmem

/-- A bracketed mark holds no other. -/
theorem eq_of_infix (h : Bracketed mark) (hother : Bracketed other) (hoccurs : mark <:+: other) :
    mark = other := by
  obtain ⟨left, right, rfl⟩ := hoccurs
  have hopen : '<' ∈ mark := List.mem_of_mem_head? h.head
  have hclose : '>' ∈ mark := List.mem_of_mem_getLast? h.last
  have hleft : left = [] := by
    by_contra hleft
    rw [List.append_assoc] at hother
    exact hother.back_part hleft (List.mem_append_left _ hopen)
  have hright : right = [] := by
    by_contra hright
    exact hother.front_part hright (List.mem_append_right _ hclose)
  rw [hleft, hright, List.nil_append, List.append_nil]

/-- Around a bracketed mark another one is before it, is it, or is behind it. -/
theorem infix_around_iff (h : Bracketed mark) (hother : Bracketed other) :
    mark <:+: before ++ (other ++ rest) ↔ mark <:+: before ∨ mark = other ∨ mark <:+: rest := by
  constructor
  · intro hoccurs
    rcases infix_append_cases hoccurs with hbefore | hbehind |
      ⟨front, back, rfl, hfront, hsome, _, hback⟩
    · exact .inl hbefore
    · rcases infix_append_cases hbehind with hin | hrest |
        ⟨front, back, rfl, hfront, hsome, hsuffix, _⟩
      · exact .inr (.inl (h.eq_of_infix hother hin))
      · exact .inr (.inr hrest)
      · -- what ends the other mark would end this one, which goes on
        have hlast : front.getLast? = some '>' := by
          obtain ⟨left, rfl⟩ := hsuffix
          rw [← hother.last, List.getLast?_append_of_ne_nil _ hfront]
        exact absurd (List.mem_of_mem_getLast? hlast) (h.front_part hsome)
    · -- what begins the other mark would begin this one, which is under way
      have hhead : back.head? = some '<' := by
        obtain ⟨right, hright⟩ := hback
        have hsame := congrArg List.head? hright
        rwa [List.head?_append_of_ne_nil _ hsome, List.head?_append, hother.head,
          Option.some_or] at hsame
      exact absurd (List.mem_of_mem_head? hhead) (h.back_part hfront)
  · rintro (hbefore | rfl | hrest)
    · exact hbefore.trans (List.prefix_append _ _).isInfix
    · exact ⟨before, rest, by rw [List.append_assoc]⟩
    · exact hrest.trans ((List.suffix_append _ _).trans (List.suffix_append _ _)).isInfix

/-- The first occurrence of a bracketed mark is behind a text that holds none. -/
theorem find_text (h : Bracketed mark) (hbefore : ¬mark <:+: before) (rest : List Char) :
    findText? mark (before ++ (mark ++ rest)) = some before.length := by
  refine find_text_after (fun hoccurs => ?_) rest
  rcases infix_append_cases hoccurs with hoccurs | hoccurs | ⟨front, back, heq, _, hsome, _, hback⟩
  · exact hbefore hoccurs
  · exact h.front (hoccurs.subset (List.mem_of_mem_getLast? h.last))
  · have hlast := h.last
    rw [heq, List.getLast?_append_of_ne_nil _ hsome] at hlast
    exact h.front (hback.subset (List.mem_of_mem_getLast? hlast))

end Bracketed

/-! ## Runs and ends -/

section Runs

variable {p : Char → Bool} {c : Char}

/-- A run of a class ends where a character outside it follows. -/
theorem take_while_append_stop (h : p c = false) (cs rest : List Char) :
    (cs ++ c :: rest).takeWhile p = cs.takeWhile p := by
  induction cs with
  | nil => simp [h]
  | cons d cs ih => cases hd : p d <;> simp [hd, ih]

theorem drop_while_append_stop (h : p c = false) (cs rest : List Char) :
    (cs ++ c :: rest).dropWhile p = cs.dropWhile p ++ c :: rest := by
  induction cs with
  | nil => simp [h]
  | cons d cs ih => cases hd : p d <;> simp [hd, ih]

theorem drop_end_while_append_stop (h : p c = false) (cs rest : List Char) :
    dropEndWhile p (cs ++ c :: rest) = cs ++ c :: dropEndWhile p rest := by
  simp only [dropEndWhile, List.reverse_append, List.reverse_cons, List.append_assoc,
    List.singleton_append, drop_while_append_stop h, List.reverse_reverse]

/-- What is dropped at the end of a text belongs to the class, and what is left does not end in
it. -/
theorem drop_end_while_spec (p : Char → Bool) (cs : List Char) :
    ∃ dropped, cs = dropEndWhile p cs ++ dropped ∧ (∀ c ∈ dropped, p c = true) ∧
      ∀ c, (dropEndWhile p cs).getLast? = some c → p c = false := by
  refine ⟨(cs.reverse.takeWhile p).reverse, ?_, fun c hc => ?_, fun c hc => ?_⟩
  · rw [dropEndWhile, ← List.reverse_append, List.takeWhile_append_dropWhile, List.reverse_reverse]
  · exact List.all_eq_true.mp List.all_takeWhile c (List.mem_reverse.mp hc)
  · rw [dropEndWhile, List.getLast?_reverse] at hc
    have := List.head?_dropWhile_not p cs.reverse
    rw [hc] at this
    simpa using this

theorem drop_end_while_prefix (p : Char → Bool) (cs : List Char) : dropEndWhile p cs <+: cs := by
  obtain ⟨dropped, hcs, _⟩ := drop_end_while_spec p cs
  exact ⟨dropped, hcs.symm⟩

theorem drop_end_while_all {cs : List Char} (h : ∀ c ∈ cs, p c = true) :
    dropEndWhile p cs = [] := by
  rw [dropEndWhile, List.reverse_eq_nil_iff, List.dropWhile_eq_nil_iff]
  exact fun c hc => h c (List.mem_reverse.mp hc)

/-- Trimming a text leaves what stands between two characters that are no blanks. -/
theorem trim_around {c d : Char} (hc : isBlank c = false) (hd : isBlank d = false)
    (before inner after : List Char) :
    trim (before ++ c :: (inner ++ d :: after)) =
      before.dropWhile isBlank ++ c :: (inner ++ d :: trimEnd after) := by
  rw [trim, trimBy, drop_while_append_stop hc, ← List.cons_append, ← List.append_assoc,
    drop_end_while_append_stop hd]
  simp [trimEnd]

end Runs

end Mender.Text
