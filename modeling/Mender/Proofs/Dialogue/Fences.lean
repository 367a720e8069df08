import Mender.Dialogue.FixReply
import Mender.Proofs.Text.Occurrence

/-!
# Code in fences

Code without a row of three backticks can be put in a fence and is read back from it, whatever
stands around the fence but such a row before it. What is read back is the code without the line
feeds around it and the blanks at its end (`Fence.Unwraps`): `Fence.code_block_of_fenced`.
-/

namespace Mender.Fence

/-! ## Unwrapped code -/

/-- A code is another without the line feeds around it and the blanks at its end. -/
structure Unwraps (code bare : List Char) : Prop where
  around : ∃ feeds blanks, code = feeds ++ (bare ++ blanks) ∧ (∀ c ∈ feeds, c = '\n') ∧
    ∀ c ∈ blanks, Text.isBlank c = true
  head : bare.head? ≠ some '\n'
  last : ∀ c ∈ bare.getLast?, Text.isBlank c = false

theorem unwrapped_unwraps (code : List Char) : Unwraps code (unwrapped code) := by
  let body := code.dropWhile (· == '\n')
  obtain ⟨feeds, hfeeds, hall, _⟩ := Text.drop_end_while_spec (· == '\n') body
  obtain ⟨blanks, hblanks, hblank, hlast⟩ :=
    Text.drop_end_while_spec Text.isBlank (Text.dropEndWhile (· == '\n') body)
  have hbody : body = unwrapped code ++ (blanks ++ feeds) := by
    rw [← List.append_assoc, ← show _ = unwrapped code ++ blanks from hblanks, ← hfeeds]
  refine ⟨⟨code.takeWhile (· == '\n'), blanks ++ feeds, ?_, fun c hc => ?_, ?_⟩, ?_, hlast⟩
  · rw [← hbody, List.takeWhile_append_dropWhile]
  · exact eq_of_beq (List.all_eq_true.mp List.all_takeWhile c hc)
  · refine List.forall_mem_append.mpr ⟨hblank, fun c hc => ?_⟩
    rw [eq_of_beq (hall c hc)]
    decide
  · intro hhead
    have hstart : body.head? = some '\n' := by rw [hbody, List.head?_append, hhead, Option.some_or]
    have hother := List.head?_dropWhile_not (· == '\n') code
    rw [show (code.dropWhile (· == '\n')).head? = some '\n' from hstart] at hother
    simp at hother

/-- There is one such code at most. -/
theorem Unwraps.unwrapped_eq {code bare : List Char} (h : Unwraps code bare) :
    unwrapped code = bare := by
  obtain ⟨⟨feeds, blanks, rfl, hfeeds, hblanks⟩, hhead, hlast⟩ := h
  have hnone {cs : List Char} (hcs : cs ⊆ blanks) : Text.trimEnd cs = [] := by
    rw [Text.trimEnd, Text.drop_end_while_all fun c hc => hblanks c (hcs hc)]
  have hstart : (feeds ++ (bare ++ blanks)).dropWhile (· == '\n') =
      (bare ++ blanks).dropWhile (· == '\n') :=
    List.dropWhile_append_of_pos fun c hc => by simp [hfeeds c hc]
  rw [unwrapped, Text.trimBy, hstart]
  rcases List.eq_nil_or_concat' bare with rfl | ⟨front, c, rfl⟩
  · exact hnone fun c hc =>
      (List.dropWhile_suffix _).subset ((Text.drop_end_while_prefix _ _).subset hc)
  · -- the code begins with no line feed and ends with no blank, so nothing of it is dropped
    have hc : Text.isBlank c = false := hlast c (by simp)
    have hfeed : (c == '\n') = false := by
      rw [beq_eq_false_iff_ne]
      rintro rfl
      exact absurd hc (by decide)
    have hkeep : (front ++ [c] ++ blanks).dropWhile (· == '\n') = front ++ c :: blanks := by
      rw [List.append_assoc, List.singleton_append]
      cases front with
      | nil => exact List.dropWhile_cons_of_neg (by simp [hfeed])
      | cons d front => exact List.dropWhile_cons_of_neg (by simpa using hhead)
    rw [hkeep, Text.drop_end_while_append_stop (p := (· == '\n')) hfeed, Text.trimEnd,
      Text.drop_end_while_append_stop hc, ← Text.trimEnd,
      hnone (Text.drop_end_while_prefix _ _).subset]

/-- A line feed behind a code makes no difference. -/
theorem unwrapped_append_feed (code : List Char) : unwrapped (code ++ ['\n']) = unwrapped code := by
  obtain ⟨⟨feeds, blanks, hcode, hfeeds, hblanks⟩, hhead, hlast⟩ := unwrapped_unwraps code
  refine Unwraps.unwrapped_eq ⟨⟨feeds, blanks ++ ['\n'], ?_, hfeeds, ?_⟩, hhead, hlast⟩
  · conv => lhs; rw [hcode]
    simp only [List.append_assoc]
  · exact List.forall_mem_append.mpr ⟨hblanks, List.forall_mem_singleton.mpr (by decide)⟩

/-! ## Blocks -/

section Blocks

variable {before : List Char}

/-- A row that begins in front of another and goes into it opens no block. -/
theorem after_opening_straddling {c : Char} (h : ¬mark <:+: c :: before) (rest : List Char) :
    afterOpening? (c :: (before ++ (mark ++ rest))) = none := by
  unfold afterOpening?
  split
  · rename_i hprefix
    have hstart := List.isPrefixOf_iff_prefix.mp hprefix
    match before, h with
    | [], _ | [_], _ => rfl
    | d :: e :: more, h =>
        refine absurd ?_ h
        refine List.IsPrefix.isInfix (List.prefix_of_prefix_length_le hstart ?_ (by simp [mark]))
        exact ⟨mark ++ rest, rfl⟩
  · rfl

/-- Text without a row of backticks is skipped up to the first row. -/
theorem find_block_after (h : ¬mark <:+: before) (rest : List Char) :
    findBlock? (before ++ (mark ++ rest)) = findBlock? (mark ++ rest) := by
  induction before with
  | nil => rfl
  | cons c before ih =>
      rw [List.cons_append, findBlock?, after_opening_straddling h]
      exact ih fun hoccurs => h (hoccurs.trans (List.suffix_cons c before).isInfix)

/-- A label ends its row. -/
theorem after_opening_labelled {label : List Char} (h : ∀ c ∈ label, inLabel c = true)
    (body : List Char) : afterOpening? (mark ++ (label ++ '\n' :: body)) = some body := by
  have hrow : mark.isPrefixOf (mark ++ (label ++ '\n' :: body)) = true :=
    List.isPrefixOf_iff_prefix.mpr (List.prefix_append _ _)
  have hfeed : ¬inLabel '\n' = true := by decide
  rw [afterOpening?, if_pos hrow, List.drop_left, List.dropWhile_append_of_pos h,
    List.dropWhile_cons_of_neg hfeed]
  rfl

/-- A block ends at the first row of backticks behind its code. -/
theorem before_closing_code {code : List Char} (h : ¬mark <:+: code) (after : List Char) :
    beforeClosing? (code ++ '\n' :: (mark ++ after)) = some (code ++ ['\n']) := by
  have hfirst : ¬mark <:+: code ++ ['\n'] ++ mark.dropLast := by
    rw [List.append_assoc, List.singleton_append, Text.infix_append_cons_iff (by decide), not_or]
    exact ⟨h, by decide⟩
  rw [← List.singleton_append, ← List.append_assoc, beforeClosing?, Text.find_text_after hfirst,
    Option.map_some, List.take_left]

theorem find_block_here {c : Char} {cs code : List Char}
    (h : (afterOpening? (c :: cs)).bind beforeClosing? = some code) :
    findBlock? (c :: cs) = some code := by
  rw [findBlock?, h]

/-- A text that is one block has that block as its first one. -/
theorem find_block_of_whole {cs code : List Char} (h : wholeBlock? cs = some code) :
    findBlock? cs = some code := by
  obtain ⟨body, hopening, h⟩ := Option.bind_eq_some_iff.mp h
  obtain ⟨n, hclosing, h⟩ := Option.bind_eq_some_iff.mp h
  obtain ⟨_, hcode⟩ := Option.ite_none_right_eq_some.mp h
  cases cs with
  | nil => cases hopening
  | cons c cs =>
      refine find_block_here ?_
      rw [hopening, Option.bind_some, beforeClosing?, hclosing, Option.map_some, hcode]

/-- It makes no difference that a text is first tried as one block. -/
theorem whole_block_or_find (cs : List Char) :
    (wholeBlock? cs).or (findBlock? cs) = findBlock? cs := by
  cases hwhole : wholeBlock? cs with
  | none => rfl
  | some code => rw [find_block_of_whole hwhole, Option.some_or]

/-- Code in a fence is the first block behind text without a row of backticks. -/
theorem find_block_fenced {label code : List Char} (hbefore : ¬mark <:+: before)
    (hlabel : ∀ c ∈ label, inLabel c = true) (hcode : ¬mark <:+: code) (after : List Char) :
    findBlock? (before ++ (mark ++ (label ++ '\n' :: (code ++ '\n' :: (mark ++ after))))) =
      some (code ++ ['\n']) := by
  have hblock : (afterOpening? (mark ++ (label ++ '\n' :: (code ++ '\n' :: (mark ++ after))))).bind
      beforeClosing? = some (code ++ ['\n']) := by
    rw [after_opening_labelled hlabel, Option.bind_some, before_closing_code hcode]
  rw [find_block_after hbefore]
  exact find_block_here hblock

end Blocks

/-- ASCII letters and digits may stand in labels. -/
theorem in_label_of_alphanum {c : Char} (h : c.isAlphanum = true) : inLabel c = true := by
  have hsort : (c.isUpper || c.isLower || c.isDigit) = true := h
  have hbound {last : Char} (hc : c.val ≤ last.val) (hlast : last.toNat < 128) : c.toNat < 128 :=
    Nat.lt_of_le_of_lt hc hlast
  have hascii : c.toNat < 128 := by
    rcases Bool.or_eq_true_iff.mp hsort with hletter | hdigit
    · rcases Bool.or_eq_true_iff.mp hletter with hupper | hlower
      · exact hbound (of_decide_eq_true hupper).2 (by decide)
      · exact hbound (of_decide_eq_true (Bool.and_eq_true_iff.mp hlower).2) (by decide)
    · exact hbound (of_decide_eq_true (Bool.and_eq_true_iff.mp hdigit).2) (by decide)
  simp [inLabel, Text.isWord, Text.isAlphanumeric, hascii, h]

/-- Trimming a text leaves a fence in it alone. -/
theorem trim_fenced (before label code after : List Char) :
    Text.trim (before ++ (mark ++ (label ++ '\n' :: (code ++ '\n' :: (mark ++ after))))) =
      before.dropWhile Text.isBlank ++
        (mark ++ (label ++ '\n' :: (code ++ '\n' :: (mark ++ Text.trimEnd after)))) := by
  have htrim := Text.trim_around (c := '`') (d := '`') (by decide) (by decide) before
    ('`' :: '`' :: (label ++ '\n' :: (code ++ ['\n', '`', '`']))) after
  simpa [mark] using htrim

theorem fenced_to_list (code label : String) :
    (fenced code label).toList =
      mark ++ (label.toList ++ '\n' :: (code.toList ++ '\n' :: mark)) := by
  simp [fenced, toString]

/-- Code without a row of three backticks is read back from a fence with any label, between any
text without such a row and any text at all, by replies and by dialogues: without the line feeds
around it and the blanks at its end, also when nothing is left of it. -/
theorem code_block_of_fenced {before code label : String} (after : String)
    (hbefore : ¬mark <:+: before.toList) (hcode : ¬mark <:+: code.toList)
    (hlabel : ∀ c ∈ label.toList, c.isAlphanum = true ∨ c = '_' ∨ c = '+' ∨ c = '-') :
    ∃ bare : String, Unwraps code.toList bare.toList ∧
      codeBlock? (before ++ fenced code label ++ after) = some bare ∧
      FixReply.chatCode? (before ++ fenced code label ++ after) = some bare := by
  have hlabelled : ∀ c ∈ label.toList, inLabel c = true := by
    intro c hc
    rcases hlabel c hc with h | rfl | rfl | rfl
    · exact in_label_of_alphanum h
    all_goals decide
  have hstart : ¬mark <:+: before.toList.dropWhile Text.isBlank :=
    fun h => hbefore (h.trans (List.dropWhile_suffix _).isInfix)
  have htext : (before ++ fenced code label ++ after).toList =
      before.toList ++
        (mark ++ (label.toList ++ '\n' :: (code.toList ++ '\n' :: (mark ++ after.toList)))) := by
    simp [fenced_to_list]
  have hblock : codeBlock? (before ++ fenced code label ++ after) =
      some (String.ofList (unwrapped code.toList)) := by
    simp only [codeBlock?]
    rw [htext, trim_fenced, whole_block_or_find, find_block_fenced hstart hlabelled hcode,
      Option.map_some, unwrapped_append_feed]
  refine ⟨String.ofList (unwrapped code.toList), ?_, hblock, ?_⟩
  · rw [String.toList_ofList]
    exact unwrapped_unwraps code.toList
  · rw [FixReply.chatCode?, hblock]
    rfl

/-- Backticks before a fence do not open it sooner, and one more fence behind it is not read. -/
theorem code_block_of_fenced_among_backticks :
    ¬mark <:+: "Use ``".toList ∧ ¬mark <:+: "  if x:\n    y = ``\n\n".toList ∧
      (∀ c ∈ "c++".toList, c.isAlphanum = true ∨ c = '_' ∨ c = '+' ∨ c = '-') ∧
      ∃ bare : String, Unwraps "  if x:\n    y = ``\n\n".toList bare.toList ∧
        codeBlock? ("Use ``" ++ fenced "  if x:\n    y = ``\n\n" "c++" ++
          fenced "z = 1" "") = some bare ∧
        FixReply.chatCode? ("Use ``" ++ fenced "  if x:\n    y = ``\n\n" "c++" ++
          fenced "z = 1" "") = some bare := by
  have hbefore : ¬mark <:+: "Use ``".toList := by decide +kernel
  have hcode : ¬mark <:+: "  if x:\n    y = ``\n\n".toList := by decide +kernel
  have hlabel : ∀ c ∈ "c++".toList, c.isAlphanum = true ∨ c = '_' ∨ c = '+' ∨ c = '-' := by
    simp
  exact ⟨hbefore, hcode, hlabel, code_block_of_fenced _ hbefore hcode hlabel⟩

end Mender.Fence
