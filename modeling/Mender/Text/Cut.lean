/-!
# Cutting and joining text

Search, replacement, splitting and joining over lists of characters. Occurrences are taken from the
left and never overlap. `join_split_text` says that splitting at a mark and joining with it gives
the text back.
-/

namespace Mender.Text

/-- Puts a character in front of the first piece. -/
def consFirst (c : Char) : List (List Char) → List (List Char)
  | [] => [[c]]
  | piece :: pieces => (c :: piece) :: pieces

/-- Splits at a mark, after skipping what is left of the previous mark. -/
def splitAfter (mark : List Char) : Nat → List Char → List (List Char)
  | _, [] => [[]]
  | skip + 1, _ :: cs => splitAfter mark skip cs
  | 0, c :: cs =>
    if mark.isPrefixOf (c :: cs) then [] :: splitAfter mark (mark.length - 1) cs
    else consFirst c (splitAfter mark 0 cs)

/-- The pieces between the occurrences of a mark; there is always at least one. -/
def splitText (mark : List Char) (cs : List Char) : List (List Char) :=
  splitAfter mark 0 cs

/-- Joins pieces with a mark between them. -/
def joinText (mark : List Char) : List (List Char) → List Char
  | [] => []
  | [piece] => piece
  | piece :: pieces => piece ++ mark ++ joinText mark pieces

/-- Replaces a mark, after skipping what is left of its previous occurrence. -/
def replaceAfter (mark new : List Char) : Nat → List Char → List Char
  | _, [] => []
  | skip + 1, _ :: cs => replaceAfter mark new skip cs
  | 0, c :: cs =>
    if mark.isPrefixOf (c :: cs) then new ++ replaceAfter mark new (mark.length - 1) cs
    else c :: replaceAfter mark new 0 cs

/-- Replaces every occurrence of a mark. -/
def replaceText (mark new cs : List Char) : List Char :=
  replaceAfter mark new 0 cs

/-- The number of characters before the first occurrence of a mark. -/
def findText? (mark : List Char) : List Char → Option Nat
  | [] => if mark.isEmpty then some 0 else none
  | c :: cs => if mark.isPrefixOf (c :: cs) then some 0 else (findText? mark cs).map (· + 1)

/-- The mark occurs in the text. -/
def hasText (mark cs : List Char) : Bool :=
  (findText? mark cs).isSome

/-- The part after the last occurrence of a character, or the whole text without one. -/
def afterLast (mark : Char) (cs : List Char) : List Char :=
  (cs.reverse.takeWhile (· ≠ mark)).reverse

/-- The text ends with a mark. -/
def endsWith (mark cs : List Char) : Bool :=
  mark.reverse.isPrefixOf cs.reverse

/-- Joins strings with a mark between them. -/
def joined (mark : String) (parts : List String) : String :=
  String.ofList (joinText mark.toList (parts.map String.toList))

/-- Replaces every occurrence of a mark in a string. -/
def replaced (mark new s : String) : String :=
  String.ofList (replaceText mark.toList new.toList s.toList)

/-- One string occurs in another. -/
def occursIn (mark s : String) : Bool :=
  hasText mark.toList s.toList

/-- The string starts with a mark. -/
def startsWith (mark s : String) : Bool :=
  mark.toList.isPrefixOf s.toList

theorem split_after_ne_nil (mark : List Char) (skip : Nat) (cs : List Char) :
    splitAfter mark skip cs ≠ [] := by
  induction cs generalizing skip with
  | nil => simp [splitAfter]
  | cons c cs ih =>
    cases skip with
    | succ skip => simpa [splitAfter] using ih skip
    | zero =>
      by_cases h : mark.isPrefixOf (c :: cs)
      · simp [splitAfter, h]
      · simp only [splitAfter, h]
        cases splitAfter mark 0 cs <;> simp [consFirst]

theorem split_text_ne_nil (mark cs : List Char) : splitText mark cs ≠ [] :=
  split_after_ne_nil mark 0 cs

theorem join_text_cons_first (mark : List Char) (c : Char) {pieces : List (List Char)}
    (h : pieces ≠ []) : joinText mark (consFirst c pieces) = c :: joinText mark pieces := by
  match pieces, h with
  | [piece], _ => rfl
  | piece :: next :: pieces, _ => rfl

theorem join_text_cons (mark piece : List Char) {pieces : List (List Char)} (h : pieces ≠ []) :
    joinText mark (piece :: pieces) = piece ++ mark ++ joinText mark pieces := by
  match pieces, h with
  | next :: pieces, _ => rfl

theorem split_after_eq_drop (mark : List Char) (skip : Nat) (cs : List Char) :
    splitAfter mark skip cs = splitAfter mark 0 (cs.drop skip) := by
  induction cs generalizing skip with
  | nil => cases skip <;> simp [splitAfter]
  | cons c cs ih =>
    cases skip with
    | zero => simp
    | succ skip => simpa [splitAfter] using ih skip

/-- Splitting at a mark and joining with it gives the text back. -/
theorem join_split_text {mark : List Char} (hmark : mark ≠ []) (cs : List Char) :
    joinText mark (splitText mark cs) = cs := by
  suffices h : ∀ n cs, cs.length ≤ n → joinText mark (splitAfter mark 0 cs) = cs from
    h cs.length cs (Nat.le_refl _)
  intro n
  induction n with
  | zero =>
    intro cs hn
    match cs, hn with
    | [], _ => simp [splitAfter, joinText]
  | succ n ih =>
    intro cs hn
    match cs, hn with
    | [], _ => simp [splitAfter, joinText]
    | c :: cs, hn =>
      simp only [List.length_cons, Nat.add_le_add_iff_right] at hn
      by_cases h : mark.isPrefixOf (c :: cs)
      · obtain ⟨rest, hrest⟩ := List.isPrefixOf_iff_prefix.1 h
        match mark, hmark, hrest with
        | m :: marks, _, hrest =>
          simp only [List.cons_append, List.cons.injEq] at hrest
          obtain ⟨rfl, rfl⟩ := hrest
          simp only [splitAfter, h, if_true, List.length_cons, Nat.add_sub_cancel]
          rw [join_text_cons _ _ (split_after_ne_nil _ _ _), split_after_eq_drop, List.drop_left]
          rw [ih rest (by simp at hn; omega)]
          simp
      · simp only [splitAfter, h]
        rw [if_neg (by simp), join_text_cons_first _ _ (split_after_ne_nil _ _ _), ih cs hn]

end Mender.Text
