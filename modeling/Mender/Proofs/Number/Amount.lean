import Mender.Proofs.Number.Order
import Mender.Proofs.Number.Rounding

/-!
# Amounts

The operations on doubles are those on unpacked values. What is computed from numbers that are not
below zero is a number, and mostly not below zero again (`Binary64.IsAmount`).
-/

namespace Mender.Binary64

open Float.Model Float.Model.UnpackedFloat

/-- The sign of a value; what is not a number is kept with the positive one. -/
def signOf : UnpackedFloat → Sign
  | .infinity s | .zero s | .finite s .. => s
  | .notANumber => .positive

theorem is_negative_eq (x : Float) : isNegative x = isMinus (signOf x.toModel.unpack) := by
  have h := encodes_unpack x
  generalize x.toModel.unpack = u at h
  cases u with
  | notANumber | infinity s | zero s => exact h.2
  | finite s m e hm => exact h.2.1

/-- The double of a value has its sign. -/
theorem is_negative_pack (u : UnpackedFloat) : isNegative ⟨pack u⟩ = isMinus (signOf u) := by
  have hcomponents : ∀ (s : Sign) (e : BitVec 11) (m : BitVec 52),
      decide (2 ^ 63 ≤ (packComponents .binary64 s e m).toNat) = isMinus s := fun s e m => by
    have he := e.isLt
    have hm := m.isLt
    rw [to_nat_pack_components]
    cases s <;> simp [isMinus, Sign.toBitVec] <;> omega
  show decide (2 ^ 63 ≤ (UnpackedFloat.pack .binary64 u).toNat) = _
  cases u with
  | notANumber | infinity s | zero s => exact hcomponents _ _ _
  | finite s m e h =>
      unfold UnpackedFloat.pack
      dsimp only
      split
      · exact hcomponents _ _ _
      · split <;> exact hcomponents _ _ _

/-- The double of a value is a number if the value is. -/
theorem is_nan_pack (u : UnpackedFloat) : (pack u).unpack.isNaN = u.isNaN := by
  show (UnpackedFloat.unpack .binary64 (UnpackedFloat.pack .binary64 u)).isNaN = _
  have hnumber : ∀ (s : Sign) (e : BitVec 11) (m : BitVec 52), e ≠ -1#11 →
      (UnpackedFloat.unpack .binary64 (packComponents .binary64 s e m)).isNaN = false := by
    intro s e m he
    simp only [UnpackedFloat.unpack, unpackExponent_packComponents]
    rw [if_neg he]
    split
    · split <;> rfl
    · rfl
  cases u with
  | notANumber => rfl
  | infinity s | zero s => cases s <;> rfl
  | finite s m e h =>
      unfold UnpackedFloat.pack
      dsimp only
      split
      · cases s <;> rfl
      · rename_i hsmall
        split
        · refine hnumber s _ _ fun hall => hsmall ?_
          have := congrArg BitVec.toNat hall
          simp at this
          omega
        · exact hnumber s _ _ (by decide)

/-- The values that are numbers and not below zero. -/
inductive Amount : UnpackedFloat → Prop
  | zero : Amount (.zero .positive)
  | finite (m : Nat) (e : Int) (h : 0 < m) : Amount (.finite .positive m e h)
  | infinity : Amount (.infinity .positive)

/-- A number that is not below zero. -/
def IsAmount (x : Float) : Prop :=
  Amount x.toModel.unpack

theorem amount_iff (u : UnpackedFloat) :
    Amount u ↔ u.isNaN = false ∧ isMinus (signOf u) = false := by
  constructor
  · rintro (_ | _ | _) <;> exact ⟨rfl, rfl⟩
  · rintro ⟨hnumber, hsign⟩
    cases u with
    | notANumber => cases hnumber
    | infinity s | zero s | finite s m e h =>
        cases s with
        | negative => cases hsign
        | positive => constructor

theorem is_amount_iff {x : Float} : IsAmount x ↔ x.isNaN = false ∧ isNegative x = false := by
  rw [is_negative_eq]
  exact amount_iff _

theorem IsAmount.number {x : Float} (h : IsAmount x) : x.isNaN = false :=
  (is_amount_iff.mp h).1

theorem Amount.pack {u : UnpackedFloat} (h : Amount u) : IsAmount ⟨Float.Model.pack u⟩ := by
  rw [amount_iff] at h
  rw [is_amount_iff, is_negative_pack]
  exact ⟨(is_nan_pack u).trans h.1, h.2⟩

theorem number_pack {u : UnpackedFloat} (h : u.isNaN = false) :
    (Float.ofModel (Float.Model.pack u)).isNaN = false :=
  (is_nan_pack u).trans h

section Values

variable (spec : Format)

theorem round_is_number (s : Sign) (m : Nat) (e : Int) (a : Accuracy) :
    (roundWithAccuracy spec s m e a).isNaN = false := by
  unfold roundWithAccuracy
  dsimp only
  split <;> rfl

theorem amount_of_round (m : Nat) (e : Int) (a : Accuracy) :
    Amount (roundWithAccuracy spec .positive m e a) := by
  unfold roundWithAccuracy
  dsimp only
  split
  · exact .zero
  · exact .finite _ _ _

theorem normalize_is_number (m e : Int) (s : Sign) :
    (UnpackedFloat.normalize spec m e s).isNaN = false := by
  unfold UnpackedFloat.normalize
  split
  · exact round_is_number _ _ _ _ _
  · rfl
  · exact round_is_number _ _ _ _ _

theorem amount_of_normalize {m : Int} (hm : 0 ≤ m) (e : Int) :
    Amount (UnpackedFloat.normalize spec m e .positive) := by
  unfold UnpackedFloat.normalize
  split
  · rename_i hlt
    exact absurd hm (not_le.mpr (compare_lt_iff_lt.mp hlt))
  · exact .zero
  · exact amount_of_round _ _ _ _

variable {spec} {u v : UnpackedFloat}

theorem Amount.add (hu : Amount u) (hv : Amount v) : Amount (UnpackedFloat.add spec u v) := by
  cases hu with
  | zero | infinity => cases hv <;> constructor
  | finite m e h =>
      cases hv with
      | zero | infinity => constructor
      | finite n d h' => exact amount_of_normalize spec (by simp only [Sign.apply]; positivity) _

theorem Amount.mul (hu : Amount u) (hv : Amount v) (huf : u.isFinite = true)
    (hvf : v.isFinite = true) : Amount (UnpackedFloat.mul spec u v) := by
  cases hu with
  | infinity => cases huf
  | zero =>
      cases hv with
      | infinity => cases hvf
      | zero | finite n d h' => exact .zero
  | finite m e h =>
      cases hv with
      | infinity => cases hvf
      | zero => exact .zero
      | finite n d h' => exact amount_of_round _ _ _ _

theorem Amount.div (hu : Amount u) (hv : Amount v) (huf : u.isFinite = true)
    (hzero : v ≠ .zero .positive) : Amount (UnpackedFloat.div spec u v) := by
  cases hu with
  | infinity => cases huf
  | zero =>
      cases hv with
      | zero => exact absurd rfl hzero
      | finite n d h' | infinity => exact .zero
  | finite m e h =>
      cases hv with
      | zero => exact absurd rfl hzero
      | finite n d h' => exact amount_of_round _ _ _ _
      | infinity => exact .zero

theorem Amount.sqrt (hu : Amount u) : Amount (UnpackedFloat.sqrt spec u) := by
  cases hu with
  | zero => exact .zero
  | finite m e h => exact amount_of_round _ _ _ _
  | infinity => exact .infinity

theorem sub_is_number (hu : u.isFinite = true) (hv : v.isFinite = true) :
    (UnpackedFloat.sub spec u v).isNaN = false := by
  cases u with
  | notANumber | infinity s => cases hu
  | zero s =>
      cases v with
      | notANumber | infinity t => cases hv
      | zero t => cases s <;> cases t <;> rfl
      | finite t n d h' => rfl
  | finite s m e h =>
      cases v with
      | notANumber | infinity t => cases hv
      | zero t => rfl
      | finite t n d h' => exact normalize_is_number _ _ _ _

end Values

variable {x y : Float}

theorem IsAmount.add (hx : IsAmount x) (hy : IsAmount y) : IsAmount (x + y) :=
  (Amount.add hx hy).pack

theorem IsAmount.mul (hx : IsAmount x) (hy : IsAmount y) (hxf : x.isFinite = true)
    (hyf : y.isFinite = true) : IsAmount (x * y) :=
  (Amount.mul hx hy hxf hyf).pack

theorem IsAmount.div (hx : IsAmount x) (hy : IsAmount y) (hxf : x.isFinite = true)
    (hzero : (y == 0) = false) : IsAmount (x / y) := by
  refine (Amount.div hx hy hxf fun hy0 => ?_).pack
  change y.toModel.unpack.beq (Float.toModel 0).unpack = false at hzero
  rw [hy0] at hzero
  cases hzero

theorem IsAmount.sqrt (hx : IsAmount x) : IsAmount x.sqrt :=
  (Amount.sqrt hx).pack

/-- A difference of finite numbers is a number. -/
theorem is_number_sub (hx : x.isFinite = true) (hy : y.isFinite = true) :
    (x - y).isNaN = false :=
  number_pack (sub_is_number hx hy)

theorem IsAmount.not_lt_zero (hx : IsAmount x) : ¬ x < 0 := by
  show ¬ decide (x.toModel.unpack.lt (Float.toModel 0).unpack = true) = true
  unfold IsAmount at hx
  rw [show (Float.toModel 0).unpack = .zero .positive from rfl]
  generalize x.toModel.unpack = u at hx
  cases hx <;> simp [UnpackedFloat.lt, UnpackedFloat.compare]

theorem IsAmount.floor_nonneg (hx : IsAmount x) : 0 ≤ Binary64.floor x := by
  rw [Binary64.floor, if_neg (by rw [(is_amount_iff.mp hx).2]; decide)]
  exact Int.natCast_nonneg _

/-- A finite number that is not below zero. -/
structure IsFiniteAmount (x : Float) : Prop where
  amount : IsAmount x
  finite : x.isFinite = true

/-- The double with the magnitude bits of a finite number. -/
theorem amount_of_magnitude {bits : Nat} (h : bits < infinityBits) :
    IsFiniteAmount (ofMagnitude false bits) := by
  obtain ⟨hmagnitude, hsign⟩ := magnitude_of_magnitude h
  have hcodes := encodes_unpack (ofMagnitude false bits)
  have hclass : (ofMagnitude false bits).isNaN = false ∧
      (ofMagnitude false bits).isFinite = true := by
    show (ofMagnitude false bits).toModel.unpack.isNaN = false ∧
      (ofMagnitude false bits).toModel.unpack.isFinite = true
    generalize (ofMagnitude false bits).toModel.unpack = u at hcodes
    cases u with
    | notANumber | infinity s =>
        have := hcodes.1
        omega
    | zero s | finite s m e hm => exact ⟨rfl, rfl⟩
  exact ⟨is_amount_iff.mpr ⟨hclass.1, hsign⟩, hclass.2⟩

theorem amount_of_quotient {num den : Nat} (h : ofQuotient? false num den = some x) :
    IsFiniteAmount x := by
  rw [ofQuotient?, round_bits_eq] at h
  split at h
  · cases h
  · rename_i hsmall
    obtain rfl := Option.some.inj h
    exact amount_of_magnitude (not_le.mp hsmall)

/-- The double nearest to an integer that is not below zero. -/
theorem amount_of_int {n : Int} (hn : 0 ≤ n) (h : Arithmetic.doubleOfInt n = .ok x) :
    IsFiniteAmount x := by
  rw [Arithmetic.doubleOfInt, ofInt?, decide_eq_false (not_lt.mpr hn)] at h
  split at h
  · rename_i hsome
    cases h
    exact amount_of_quotient hsome
  · cases h

/-- The double nearest to a quotient of integers that are not below zero. -/
theorem amount_of_ratio {a b : Int} (ha : 0 ≤ a) (hb : 0 ≤ b)
    (h : Arithmetic.doubleRatio a b = .ok x) : IsFiniteAmount x := by
  rw [Arithmetic.doubleRatio, decide_eq_false (not_lt.mpr ha),
    decide_eq_false (not_lt.mpr hb)] at h
  split at h
  · cases h
  · split at h
    · rename_i hsome
      cases h
      exact amount_of_quotient hsome
    · cases h

/-- A quotient is at most its numerator. -/
theorem quotient_le {num den n : Nat} (hden : 0 < den) (h : num ≤ n) :
    (num : ℚ) / den ≤ n / (1 : Nat) := by
  have hden' : (1 : ℚ) ≤ den := by exact_mod_cast hden
  rw [Nat.cast_one, div_one]
  exact (div_le_self (Nat.cast_nonneg _) hden').trans (by exact_mod_cast h)

/-- A quotient that is not too large has a nearest double. -/
theorem of_quotient_defined (num : Nat) {den : Nat} (hden : 0 < den) (h : num ≤ 2 ^ 1000) :
    ∃ x, ofQuotient? false num den = some x := by
  have hbits : nearestBits num den < infinityBits :=
    (nearest_bits_mono hden Nat.one_pos (quotient_le hden h)).trans_lt (by decide +kernel)
  exact ⟨_, by rw [ofQuotient?, round_bits_eq, if_neg (not_le.mpr hbits)]; rfl⟩

/-- An integer that is not too large has a nearest double. -/
theorem int_defined {n : Int} (hn : 0 ≤ n) (h : n ≤ 2 ^ 1000) :
    ∃ x, Arithmetic.doubleOfInt n = .ok x := by
  obtain ⟨x, hx⟩ := of_quotient_defined n.natAbs Nat.one_pos (by omega)
  exact ⟨x, by rw [Arithmetic.doubleOfInt, ofInt?, decide_eq_false (not_lt.mpr hn), hx]⟩

/-- A quotient of integers that are not too large has a nearest double. -/
theorem ratio_defined {a b : Int} (ha : 0 ≤ a) (hb : 0 < b) (h : a ≤ 2 ^ 1000) :
    ∃ x, Arithmetic.doubleRatio a b = .ok x := by
  obtain ⟨x, hx⟩ := of_quotient_defined a.natAbs (show 0 < b.natAbs by omega) (by omega)
  refine ⟨x, ?_⟩
  rw [Arithmetic.doubleRatio, if_neg hb.ne', decide_eq_false (not_lt.mpr ha),
    decide_eq_false (not_lt.mpr hb.le), bne_self_eq_false, hx]

end Mender.Binary64
