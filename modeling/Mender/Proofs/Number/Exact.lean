import Mathlib
import Mender.Number.Arithmetic

/-!
# Exact arithmetic

The arithmetic of scores read over the real numbers. A quotient by zero is no number, and nothing
that is computed from it is one, so a score that is a number has divided by zero nowhere.
-/

namespace Mender

/-- A real number, or nothing where a quotient by zero was taken. -/
abbrev Exact := Option ℝ

namespace Exact

/-- An operation on two numbers. -/
def lift (op : ℝ → ℝ → ℝ) (x y : Exact) : Exact :=
  x.bind fun a => y.map (op a)

/-- A quotient, none by zero. -/
noncomputable def quotient (x y : Exact) : Exact :=
  x.bind fun a => y.bind fun b => if b = 0 then none else some (a / b)

end Exact

/-- Exact numbers are never rounded and never too large. -/
noncomputable instance : Arithmetic Exact where
  ofInt n := .ok (some n)
  ratio a b := if b = 0 then .error .divisionByZero else .ok (some (a / b))
  inversePower a b := if a = 0 then .error .zeroToNegativePower else .ok (some ((a : ℝ) ^ b))
  add := Exact.lift (· + ·)
  sub := Exact.lift (· - ·)
  mul := Exact.lift (· * ·)
  div := Exact.quotient
  sqrt
    | some x => if x < 0 then .error .outsideDomain else .ok (some √x)
    | none => .error .undefined
  floor
    | some x => .ok ⌊x⌋
    | none => .error .undefined
  isZero x := decide (x = some 0)

namespace Exact

open Arithmetic

theorem of_int_eq (n : Int) : (ofInt n : Except NumberFault Exact) = .ok (some n) := rfl

theorem of_int_zero : (ofInt 0 : Except NumberFault Exact) = .ok (some 0) :=
  (of_int_eq 0).trans (by rw [Int.cast_zero])

theorem ratio_eq {a b : Int} (hb : b ≠ 0) :
    (ratio a b : Except NumberFault Exact) = .ok (some (a / b)) :=
  if_neg hb

theorem add_eq (x y : ℝ) : add (some x : Exact) (some y) = some (x + y) := rfl

theorem sub_eq (x y : ℝ) : sub (some x : Exact) (some y) = some (x - y) := rfl

theorem mul_eq (x y : ℝ) : mul (some x : Exact) (some y) = some (x * y) := rfl

theorem div_eq {x y : ℝ} (hy : y ≠ 0) : div (some x : Exact) (some y) = some (x / y) :=
  if_neg hy

theorem sqrt_eq {x : ℝ} (hx : 0 ≤ x) :
    (sqrt (some x) : Except NumberFault Exact) = .ok (some √x) :=
  if_neg hx.not_gt

theorem floor_eq (x : ℝ) : floor (some x : Exact) = .ok ⌊x⌋ := rfl

theorem is_zero_iff (x : ℝ) : isZero (some x : Exact) = true ↔ x = 0 := by
  rw [show isZero (some x : Exact) = decide ((some x : Exact) = some 0) from rfl,
    decide_eq_true_iff, Option.some_inj]

end Exact

end Mender
