/-!
# Windows of a list

A place in a list is counted from its start, or from its end when it is negative, and is held inside
the list. A window is the part between two places.
-/

namespace Mender

/-- The place that a signed count names in a list of a size. -/
def place (size : Nat) (i : Int) : Nat :=
  if i < 0 then (size + i).toNat else min i.toNat size

/-- The part of a list from one place to another; nothing when they are the wrong way round. -/
def window {α : Type} (first last : Int) (xs : List α) : List α :=
  let start := place xs.length first
  (xs.drop start).take (place xs.length last - start)

/-- The part of a list before a place. -/
def before {α : Type} (last : Int) (xs : List α) : List α :=
  xs.take (place xs.length last)

/-- The part of a list from a place on. -/
def onwards {α : Type} (first : Int) (xs : List α) : List α :=
  xs.drop (place xs.length first)

/-- The item at a signed place; nothing outside the list. -/
def item? {α : Type} (i : Int) (xs : List α) : Option α :=
  let index := if i < 0 then i + xs.length else i
  if index < 0 then none else xs[index.toNat]?

theorem place_of_nonneg {i : Int} (h : 0 ≤ i) (size : Nat) : place size i = min i.toNat size :=
  if_neg (by omega)

theorem place_of_neg {i : Int} (h : i < 0) (size : Nat) : place size i = (size + i).toNat :=
  if_pos h

theorem before_of_nonneg {α : Type} {n : Int} (hn : 0 ≤ n) (xs : List α) :
    before n xs = xs.take n.toNat := by
  rw [before, place_of_nonneg hn, ← List.take_eq_take_min]

/-- A window whose ends are counted from the start. -/
theorem window_of_nonneg {α : Type} {first last : Int} (hfirst : 0 ≤ first) (hlast : 0 ≤ last)
    (xs : List α) : window first last xs = (xs.take last.toNat).drop first.toNat := by
  simp only [window, place_of_nonneg hfirst, place_of_nonneg hlast]
  rw [List.drop_take]
  rcases Nat.le_total first.toNat xs.length with hinside | hbeyond
  · rw [Nat.min_eq_left hinside]
    rcases Nat.le_total last.toNat xs.length with h | h
    · rw [Nat.min_eq_left h]
    · rw [Nat.min_eq_right h, List.take_of_length_le (by simp),
        List.take_of_length_le (by simp; omega)]
  · rw [List.drop_eq_nil_of_le (by omega), List.drop_eq_nil_of_le hbeyond, List.take_nil,
      List.take_nil]

end Mender
