import Mathlib.Data.List.TakeWhile
import Mender.Learning.Store
import Mender.Proofs.Text.Occurrence

/-!
# Positions in messages

A position `:line:column` is left out of a message before its signature is taken. What stands before
and behind it is treated as if the position were not there (`Signature.without_position`), unless
the text before it ends in a number of its own, so messages that differ in a position only have one
signature and find the same strategy: `Signature.signature_ignores_position`.
-/

namespace Mender

namespace Signature

/-- A number that a position is made of. -/
def IsNumber (cs : List Char) : Prop :=
  cs ≠ [] ∧ ∀ c ∈ cs, Text.isDecimal c = true

/-- The text ends in a colon and a number, which the line of a position would be the column of. -/
def EndsInNumber (cs : List Char) : Prop :=
  ∃ before number, cs = before ++ ':' :: number ∧ IsNumber number

instance (cs : List Char) : Decidable (IsNumber cs) :=
  decidable_of_iff ((!cs.isEmpty && cs.all Text.isDecimal) = true) (by simp [IsNumber])

/-- The number at the end of a text is found from there backwards. -/
theorem ends_in_number_iff (cs : List Char) :
    EndsInNumber cs ↔ IsNumber (cs.reverse.takeWhile Text.isDecimal) ∧
      (cs.reverse.dropWhile Text.isDecimal).head? = some ':' := by
  constructor
  · rintro ⟨before, number, rfl, hsome, hall⟩
    have hcolon : ¬Text.isDecimal ':' = true := by decide
    have hdigits : ∀ c ∈ number.reverse, Text.isDecimal c = true := by simpa using hall
    rw [List.reverse_append, List.reverse_cons, List.append_assoc,
      List.takeWhile_append_of_pos hdigits, List.dropWhile_append_of_pos hdigits,
      List.singleton_append, List.takeWhile_cons_of_neg hcolon, List.dropWhile_cons_of_neg hcolon,
      List.append_nil]
    exact ⟨⟨by simpa using hsome, hdigits⟩, rfl⟩
  · rintro ⟨⟨hsome, hall⟩, hcolon⟩
    obtain ⟨more, hmore⟩ := List.head?_eq_some_iff.mp hcolon
    refine ⟨more.reverse, (cs.reverse.takeWhile Text.isDecimal).reverse, ?_, by simpa using hsome,
      by simpa using hall⟩
    rw [← List.reverse_inj]
    simp only [List.reverse_append, List.reverse_cons, List.reverse_reverse, List.append_assoc,
      List.singleton_append]
    rw [← hmore, List.takeWhile_append_dropWhile]

instance (cs : List Char) : Decidable (EndsInNumber cs) :=
  decidable_of_iff _ (ends_in_number_iff cs).symm

/-- A position. -/
def position (line column : List Char) : List Char :=
  ':' :: line ++ ':' :: column

section Leaving

variable {length? : List Char → Option Nat}

theorem without_after_eq_drop (skip : Nat) (cs : List Char) :
    withoutAfter length? skip cs = without length? (cs.drop skip) := by
  induction cs generalizing skip with
  | nil => cases skip <;> rfl
  | cons c cs ih =>
      cases skip with
      | zero => rfl
      | succ skip => exact ih skip

/-- What is found at the start of a text is left out. -/
theorem without_found {cs : List Char} {n : Nat} (h : length? cs = some n) (hn : 0 < n) :
    without length? cs = without length? (cs.drop n) := by
  cases cs with
  | nil => rw [List.drop_nil]
  | cons c cs =>
      obtain ⟨m, rfl⟩ := Nat.exists_eq_add_of_lt hn
      rw [without, withoutAfter, h]
      simp only [Nat.zero_add, Nat.add_sub_cancel, without_after_eq_drop, List.drop_succ_cons]

/-- A character at which nothing is found is kept. -/
theorem without_kept {c : Char} {cs : List Char} (h : length? (c :: cs) = none) :
    without length? (c :: cs) = c :: without length? cs := by
  rw [without, withoutAfter, h]
  rfl

/-- Induction along what is left of a text: it is empty, something is found at its start, or its
first character is kept. -/
@[elab_as_elim]
theorem leaving_induction (hpositive : ∀ cs n, length? cs = some n → 0 < n)
    {motive : List Char → Prop} (nil : motive [])
    (found : ∀ c cs n, length? (c :: cs) = some n → motive ((c :: cs).drop n) → motive (c :: cs))
    (kept : ∀ c cs, length? (c :: cs) = none → motive cs → motive (c :: cs)) (cs : List Char) :
    motive cs := by
  match cs with
  | [] => exact nil
  | c :: cs =>
      cases hfind : length? (c :: cs) with
      | none => exact kept c cs hfind (leaving_induction hpositive nil found kept cs)
      | some n =>
          have hpos := hpositive _ n hfind
          exact found c cs n hfind
            (leaving_induction hpositive nil found kept ((c :: cs).drop n))
termination_by cs.length
decreasing_by
  · simp
  · simp only [List.length_drop, List.length_cons]
    omega

end Leaving

/-- A text that does not end in a number has no part at its end that does. -/
theorem not_ends_of_drop {cs : List Char} (h : ¬EndsInNumber cs) (n : Nat) :
    ¬EndsInNumber (cs.drop n) := by
  rintro ⟨before, number, hdrop, hnumber⟩
  refine h ⟨cs.take n ++ before, number, ?_, hnumber⟩
  rw [List.append_assoc, ← hdrop, List.take_append_drop]

/-- A position has a length that the text has room for. -/
theorem position_length_bounds {cs : List Char} {n : Nat} (h : positionLength? cs = some n) :
    0 < n ∧ n ≤ cs.length := by
  unfold positionLength? at h
  split at h
  · rename_i cs
    dsimp only at h
    split at h
    · rename_i rest hrest
      split at h
      · cases h
      · cases h
        have hline := congrArg List.length (cs.takeWhile_append_dropWhile (p := Text.isDecimal))
        have hcolumn := (List.takeWhile_prefix (l := rest) Text.isDecimal).length_le
        simp only [hrest, List.length_append, List.length_cons] at hline ⊢
        omega
    · cases h
  · cases h

/-- A text that does not end in a number has no position that goes on into a colon behind it. -/
theorem position_length_append {cs : List Char} (hsome : cs ≠ []) (h : ¬EndsInNumber cs)
    (rest : List Char) : positionLength? (cs ++ ':' :: rest) = positionLength? cs := by
  have hcolon : Text.isDecimal ':' = false := by decide
  obtain ⟨c, cs, rfl⟩ := List.exists_cons_of_ne_nil hsome
  by_cases hc : c = ':'
  · subst hc
    simp only [List.cons_append, positionLength?, Text.take_while_append_stop hcolon,
      Text.drop_while_append_stop hcolon]
    cases hrest : cs.dropWhile Text.isDecimal with
    | nil =>
        -- a colon and digits only: no digits, as the text does not end in a number
        have hall := List.dropWhile_eq_nil_iff.mp hrest
        obtain rfl : cs = [] := by
          cases cs with
          | nil => rfl
          | cons d ds => exact absurd ⟨[], d :: ds, rfl, by simp, hall⟩ h
        rfl
    | cons d ds =>
        by_cases hd : d = ':'
        · subst hd
          simp only [List.cons_append, Text.take_while_append_stop hcolon]
        · simp [hd]
  · simp [positionLength?, hc]

/-- The digits behind a position belong to its column. -/
theorem position_length_self {line column : List Char} (hline : IsNumber line)
    (hcolumn : IsNumber column) (after : List Char) :
    positionLength? (position line column ++ after) =
      some ((position line column).length + (after.takeWhile Text.isDecimal).length) := by
  have hcolon : ¬Text.isDecimal ':' = true := by decide
  have hhead : (line ++ ':' :: (column ++ after)).takeWhile Text.isDecimal = line := by
    rw [List.takeWhile_append_of_pos hline.2, List.takeWhile_cons_of_neg hcolon, List.append_nil]
  have htail : (line ++ ':' :: (column ++ after)).dropWhile Text.isDecimal =
      ':' :: (column ++ after) := by
    rw [List.dropWhile_append_of_pos hline.2, List.dropWhile_cons_of_neg hcolon]
  simp only [position, List.cons_append, List.append_assoc, positionLength?, hhead, htail,
    List.takeWhile_append_of_pos hcolumn.2, List.length_append, List.length_cons]
  rw [if_neg (by simp [hline.1, hcolumn.1])]
  congr 1
  omega

/-- A position is left out together with the digits behind it, and what stands before and behind
them is treated as if it stood alone. -/
theorem without_position {before line column : List Char} (h : ¬EndsInNumber before)
    (hline : IsNumber line) (hcolumn : IsNumber column) (after : List Char) :
    without positionLength? (before ++ (position line column ++ after)) =
      without positionLength? before ++
        without positionLength? (after.dropWhile Text.isDecimal) := by
  have hpositive (cs n) (hfind : positionLength? cs = some n) : 0 < n :=
    (position_length_bounds hfind).1
  induction before using leaving_induction hpositive with
  | nil =>
      -- the position stands here, and the digits behind it go with it
      have hself := position_length_self hline hcolumn after
      have hall : position line column ++ after =
          (position line column ++ after.takeWhile Text.isDecimal) ++
            after.dropWhile Text.isDecimal := by
        rw [List.append_assoc, List.takeWhile_append_dropWhile]
      rw [List.nil_append, without_found hself (hpositive _ _ hself), hall,
        List.drop_left' (List.length_append)]
      rfl
  | kept c cs hnone ih =>
      -- the position is further on, and what is found here does not reach it
      have hsame : positionLength? (c :: (cs ++ (position line column ++ after))) = none :=
        (position_length_append (by simp) h _).trans hnone
      rw [List.cons_append, without_kept hsame, ih (not_ends_of_drop h 1), without_kept hnone,
        List.cons_append]
  | found c cs n hfind ih =>
      obtain ⟨hpos, hroom⟩ := position_length_bounds hfind
      have hsame : positionLength? (c :: cs ++ (position line column ++ after)) = some n :=
        (position_length_append (by simp) h _).trans hfind
      rw [without_found hsame hpos, List.drop_append_of_le_length hroom,
        ih (not_ends_of_drop h n), without_found hfind hpos]

/-- A message that tells of a position between two texts. -/
def messageAt (before line column after : String) : String :=
  s!"{before}:{line}:{column}{after}"

theorem message_at_to_list (before line column after : String) :
    (messageAt before line column after).toList =
      before.toList ++ (position line.toList column.toList ++ after.toList) := by
  simp [messageAt, position, toString]

/-- Messages that agree in what is left of them without positions have one signature and find one
strategy. -/
theorem same_of_without {message other : String}
    (h : without positionLength? message.toList = without positionLength? other.toList) :
    normalized message = normalized other ∧ ofMessage message = ofMessage other ∧
      ∀ store : LearningStore, store.lookup message = store.lookup other := by
  have hnormalized : normalized message = normalized other := by
    rw [normalized, normalized, h]
  have hsignature : ofMessage message = ofMessage other := by
    rw [ofMessage, ofMessage, hnormalized]
  refine ⟨hnormalized, hsignature, fun store => ?_⟩
  rw [LearningStore.lookup, LearningStore.lookup, hsignature, hnormalized]

/-- Of a message only a position and the digits behind it are lost, unless the text before it ends
in a number. So messages that differ in the position have the same normal form and signature, and
every store gives the same strategy for them. -/
theorem signature_ignores_position {before after line column line' column' : String}
    (hbefore : ¬EndsInNumber before.toList)
    (hline : IsNumber line.toList) (hcolumn : IsNumber column.toList)
    (hline' : IsNumber line'.toList) (hcolumn' : IsNumber column'.toList) :
    without positionLength? (messageAt before line column after).toList =
        without positionLength? before.toList ++
          without positionLength? (after.toList.dropWhile Text.isDecimal) ∧
      normalized (messageAt before line column after) =
        normalized (messageAt before line' column' after) ∧
      ofMessage (messageAt before line column after) =
        ofMessage (messageAt before line' column' after) ∧
      ∀ store : LearningStore, store.lookup (messageAt before line column after) =
        store.lookup (messageAt before line' column' after) := by
  have hleft {line column : String} (hline : IsNumber line.toList)
      (hcolumn : IsNumber column.toList) :
      without positionLength? (messageAt before line column after).toList =
        without positionLength? before.toList ++
          without positionLength? (after.toList.dropWhile Text.isDecimal) := by
    rw [message_at_to_list]
    exact without_position hbefore hline hcolumn after.toList
  exact ⟨hleft hline hcolumn,
    same_of_without ((hleft hline hcolumn).trans (hleft hline' hcolumn').symm)⟩

theorem signature_ignores_position_of_call :
    ¬EndsInNumber "wrong value at a.py:3:5, from line 12".toList ∧ IsNumber "10".toList ∧
      IsNumber "4".toList ∧ IsNumber "7".toList ∧ IsNumber "128".toList ∧
      ∀ store : LearningStore,
        store.lookup (messageAt "wrong value at a.py:3:5, from line 12" "10" "4" " of b:2:2") =
          store.lookup
            (messageAt "wrong value at a.py:3:5, from line 12" "7" "128" " of b:2:2") := by
  have hbefore : ¬EndsInNumber "wrong value at a.py:3:5, from line 12".toList := by
    decide +kernel
  have hline : IsNumber "10".toList := by decide +kernel
  have hcolumn : IsNumber "4".toList := by decide +kernel
  have hline' : IsNumber "7".toList := by decide +kernel
  have hcolumn' : IsNumber "128".toList := by decide +kernel
  exact ⟨hbefore, hline, hcolumn, hline', hcolumn',
    (signature_ignores_position hbefore hline hcolumn hline' hcolumn').2.2.2⟩

end Signature

end Mender
