import Mender.Diagnostic.Reference
import Mender.Proofs.Dialogue.Reply

/-!
# Files that cannot be referred to

The number after a file in free text is a run of digits of any length, but only so many can be read
as a number. A reference with more of them is an error, although nothing else is wrong with the text
(`Diagnostic.reference_fails_iff_long`).
-/

namespace Mender

/-- A greedy repetition takes the whole of a text whose characters are all of its class, if what
follows does not fail. -/
theorem Pattern.run_many_all {β : Type} {c : CharClass}
    {k : Option Char → Nat → List Char → β} {cs : List Char} (hall : ∀ x ∈ cs, c x = true)
    {least : Nat} (hleast : least ≤ cs.length) (previous : Option Char) (position : Nat) :
    runMany c (fun previous position rest => some (k previous position rest)) least previous
        position cs =
      some (k (cs.getLast?.or previous) (position + cs.length) []) := by
  induction cs generalizing least previous position with
  | nil =>
      obtain rfl : least = 0 := Nat.le_zero.mp hleast
      rfl
  | cons x cs ih =>
      obtain ⟨hx, hcs⟩ := List.forall_mem_cons.mp hall
      have hrest : least - 1 ≤ cs.length := Nat.sub_le_of_le_add hleast
      have hlast : (x :: cs).getLast?.or previous = cs.getLast?.or (some x) := by
        rw [List.getLast?_cons, Option.some_or, Option.or_some]
      rw [runMany, if_pos hx, ih hcs hrest, Option.orElse_some, hlast, List.length_cons,
        Nat.add_assoc, Nat.add_comm 1]

namespace Diagnostic

open Pattern

/-- A text that refers to a line of a file by its digits. -/
def referenceTo (digits : List Char) : String :=
  String.ofList (['a', 't', ' ', 'a', '.', 'p', 'y', ':'] ++ digits)

/-- All digits are taken for the number. -/
theorem reference_number {digits : List Char} (hdigits : ∀ d ∈ digits, Text.isDecimal d = true)
    (hsome : digits ≠ []) :
    ∃ m, fileReference.search (referenceTo digits).toList = some m ∧
      m.group? 2 = some (String.ofList digits) := by
  have hsolid : blank 'a' = false ∧ blank '.' = false ∧ blank 'p' = false ∧ blank 'y' = false := by
    decide
  have hblank : blank ' ' = true := by decide
  have hall : ∀ d ∈ digits, digit d = true := hdigits
  have hone : 1 ≤ digits.length := List.length_pos_iff.mpr hsome
  rw [referenceTo, String.toList_ofList]
  -- up to the digits the text is known, and the search runs by computation
  simp [fileReference, sourceExtensions, concat, firstOf, anyCase, sameLetter, text, gap, search,
    searchFrom, matchHere, Pattern.run, runMany, Pattern.digits, hsolid, hblank,
    run_many_all hall hone, Match.group?, Capture.text]

/-- A reference fails when its number has more digits than can be read, and only then. -/
theorem reference_fails_iff_long {digits : List Char}
    (hdigits : ∀ d ∈ digits, Text.isDecimal d = true) (hsome : digits ≠ []) :
    (∃ e, referenceOf? (referenceTo digits) = .error e) ↔ Integer.maxDigits < digits.length := by
  obtain ⟨m, hsearch, hgroup⟩ := reference_number hdigits hsome
  have hlike : ∀ d ∈ digits, Text.isDigitLike d = true := fun d hd => by
    simp [Text.isDigitLike, hdigits d hd]
  have hreads : (∃ e, referenceOf? (referenceTo digits) = .error e) ↔
      ∃ e, Integer.read (String.ofList digits) = .error e := by
    rw [referenceOf?, hsearch, Option.mapM_some]
    simp only [hgroup]
    cases Integer.read (String.ofList digits) with
    | error e => exact ⟨fun _ => ⟨e, rfl⟩, fun _ => ⟨e, rfl⟩⟩
    | ok n =>
        constructor <;>
          · rintro ⟨_, ⟨⟩⟩
  rw [hreads]
  simp only [Integer.read_eq_error_iff hlike]
  rw [Integer.magnitude_fails_iff hlike hsome]
  exact ⟨fun h => h.resolve_left fun hnot => hnot hdigits, .inr⟩

end Diagnostic

end Mender
