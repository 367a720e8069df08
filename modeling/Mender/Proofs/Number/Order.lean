import Mathlib
import Mender.Number.Arithmetic

/-!
# The order of doubles

The comparison of doubles is that of keys in a linear order, as long as none of them is something
else than a number (`Binary64.lt_iff_key_lt`). The magnitude bits of a double count its units in the
last place, so the comparison is also that of the integers which the bits make
(`Binary64.lt_iff_order_key_lt`).
-/

namespace Mender.Binary64

open Float.Model

/-- Unpacked doubles in order: by sign and size of their sort, then by exponent, then by
mantissa. -/
def unpackedKey : UnpackedFloat → ℤ ×ₗ ℤ ×ₗ ℤ
  | .infinity .negative => toLex (-2, toLex (0, 0))
  | .finite .negative mantissa exponent _ => toLex (-1, toLex (-exponent, -mantissa))
  | .zero _ | .notANumber => toLex (0, toLex (0, 0))
  | .finite .positive mantissa exponent _ => toLex (1, toLex (exponent, mantissa))
  | .infinity .positive => toLex (2, toLex (0, 0))

/-- Doubles in order; what is not a number has the key of zero. -/
def key (x : Float) : ℤ ×ₗ ℤ ×ₗ ℤ :=
  unpackedKey x.toModel.unpack

theorem finite_lt_iff (s t : UnpackedFloat.Sign) {m n : ℕ} (d e : ℤ) (hm : 0 < m) (hn : 0 < n) :
    (UnpackedFloat.finite s m d hm).lt (.finite t n e hn) = true ↔
      unpackedKey (.finite s m d hm) < unpackedKey (.finite t n e hn) := by
  cases s <;> cases t <;> dsimp only [UnpackedFloat.lt, UnpackedFloat.compare, unpackedKey] <;>
    simp [Prod.Lex.toLex_lt_toLex, Ordering.then_eq_lt, Ordering.then_eq_gt, compare_lt_iff_lt,
      compare_gt_iff_gt]

theorem unpacked_lt_iff {a b : UnpackedFloat} (ha : a.isNaN = false) (hb : b.isNaN = false) :
    a.lt b = true ↔ unpackedKey a < unpackedKey b := by
  cases a with
  | notANumber => cases ha
  | infinity s =>
      cases b with
      | notANumber => cases hb
      | infinity t => cases s <;> cases t <;> decide
      | zero t | finite t m e h =>
          cases s <;> cases t <;>
            dsimp only [UnpackedFloat.lt, UnpackedFloat.compare, unpackedKey] <;>
            simp [Prod.Lex.toLex_lt_toLex]
  | zero s =>
      cases b with
      | notANumber => cases hb
      | infinity t | zero t | finite t m e h =>
          cases t <;>
            dsimp only [UnpackedFloat.lt, UnpackedFloat.compare, unpackedKey] <;>
            simp [Prod.Lex.toLex_lt_toLex]
  | finite s m e h =>
      cases b with
      | notANumber => cases hb
      | finite t n d h' => exact finite_lt_iff s t e d h h'
      | infinity t | zero t =>
          cases s <;> cases t <;>
            dsimp only [UnpackedFloat.lt, UnpackedFloat.compare, unpackedKey] <;>
            simp [Prod.Lex.toLex_lt_toLex]

theorem lt_iff_key_lt {x y : Float} (hx : x.isNaN = false) (hy : y.isNaN = false) :
    x < y ↔ key x < key y := by
  refine Iff.trans ?_ (unpacked_lt_iff hx hy)
  exact decide_eq_true_iff

/-- Comparing unpacked doubles the other way round swaps the result. -/
theorem compare_swap (a b : UnpackedFloat) : b.compare a = (a.compare b).map Ordering.swap := by
  cases a with
  | notANumber => cases b <;> rfl
  | infinity s =>
      cases b with
      | infinity t => cases s <;> cases t <;> rfl
      | notANumber | zero t | finite t n d h => cases s <;> rfl
  | zero s =>
      cases b with
      | notANumber | zero t => rfl
      | infinity t | finite t n d h => cases t <;> rfl
  | finite s m e h =>
      cases b with
      | notANumber => rfl
      | infinity t => cases t <;> rfl
      | zero t => cases s <;> rfl
      | finite t n d h' =>
          have hswap : (compare d e).then (compare n m) =
              ((compare e d).then (compare m n)).swap := by
            have hexponent : compare d e = (compare e d).swap := Std.OrientedCmp.eq_swap
            have hsignificand : compare n m = (compare m n).swap := Std.OrientedCmp.eq_swap
            rw [Ordering.swap_then, hexponent, hsignificand]
          cases s <;> cases t <;>
            simp only [UnpackedFloat.compare, Option.map_some, hswap, Ordering.swap]

theorem compare_number {a b : UnpackedFloat} (ha : a.isNaN = false) (hb : b.isNaN = false) :
    ∃ o, a.compare b = some o := by
  cases a with
  | notANumber => cases ha
  | infinity s | zero s | finite s m e h =>
      cases b with
      | notANumber => cases hb
      | infinity t | zero t | finite t n d h' => cases s <;> cases t <;> exact ⟨_, rfl⟩

/-- Numbers are at most one another when the other one is not less. -/
theorem le_iff_not_lt {x y : Float} (hx : x.isNaN = false) (hy : y.isNaN = false) :
    x ≤ y ↔ ¬ y < x := by
  have hle : x ≤ y ↔ x.toModel.unpack.le y.toModel.unpack = true := decide_eq_true_iff
  have hlt : y < x ↔ y.toModel.unpack.lt x.toModel.unpack = true := decide_eq_true_iff
  obtain ⟨o, ho⟩ := compare_number hx hy
  rw [hle, hlt, UnpackedFloat.le, UnpackedFloat.lt, compare_swap x.toModel.unpack, ho]
  cases o <;> decide

/-- Only numbers can be compared. -/
theorem numbers_of_compare {a b : UnpackedFloat} {o : Ordering} (h : a.compare b = some o) :
    a.isNaN = false ∧ b.isNaN = false := by
  cases a with
  | notANumber => cases b <;> cases h
  | infinity s | zero s | finite s m e _ =>
      cases b with
      | notANumber => cases s <;> cases h
      | infinity t | zero t | finite t n d _ => exact ⟨rfl, rfl⟩

theorem numbers_of_lt {x y : Float} (h : x < y) : x.isNaN = false ∧ y.isNaN = false := by
  have hlt : x.toModel.unpack.lt y.toModel.unpack = true := decide_eq_true_iff.mp h
  exact numbers_of_compare (beq_iff_eq.mp hlt)

theorem numbers_of_le {x y : Float} (h : x ≤ y) : x.isNaN = false ∧ y.isNaN = false := by
  have hle : x.toModel.unpack.le y.toModel.unpack = true := decide_eq_true_iff.mp h
  obtain ⟨o, ho, _⟩ := (Option.any_eq_true _ _).mp hle
  exact numbers_of_compare ho

protected theorem lt_trans {x y z : Float} (hxy : x < y) (hyz : y < z) : x < z := by
  obtain ⟨hx, hy⟩ := numbers_of_lt hxy
  obtain ⟨_, hz⟩ := numbers_of_lt hyz
  rw [lt_iff_key_lt hx hz]
  exact ((lt_iff_key_lt hx hy).mp hxy).trans ((lt_iff_key_lt hy hz).mp hyz)

theorem not_lt_of_lt {x y : Float} (h : x < y) : ¬ y < x := by
  obtain ⟨hx, hy⟩ := numbers_of_lt h
  rw [lt_iff_key_lt hy hx]
  exact ((lt_iff_key_lt hx hy).mp h).le.not_gt

protected theorem le_of_lt {x y : Float} (h : x < y) : x ≤ y :=
  (le_iff_not_lt (numbers_of_lt h).1 (numbers_of_lt h).2).mpr (not_lt_of_lt h)

protected theorem not_le_of_lt {x y : Float} (h : x < y) : ¬ y ≤ x := fun hle =>
  (le_iff_not_lt (numbers_of_lt h).2 (numbers_of_lt h).1).mp hle h

section Bits

open Float.Model.UnpackedFloat

theorem to_nat_pack_components (s : Sign) (e : BitVec 11) (m : BitVec 52) :
    (packComponents .binary64 s e m).toNat =
      s.toBitVec.toNat * 2 ^ 63 + e.toNat * 2 ^ 52 + m.toNat := by
  have he := e.isLt
  have hm := m.isLt
  show (s.toBitVec ++ e ++ m).toNat = _
  rw [BitVec.toNat_append, BitVec.toNat_append, ← Nat.shiftLeft_add_eq_or_of_lt he,
    ← Nat.shiftLeft_add_eq_or_of_lt hm, Nat.shiftLeft_eq, Nat.shiftLeft_eq]
  omega

theorem to_nat_unpack_sign (b : BitVec 64) :
    (@unpackSign .binary64 b).toNat = b.toNat / 2 ^ 63 := by
  have hb := b.isLt
  rw [unpackSign_def]
  simp [BitVec.extractLsb'_toNat, Nat.shiftRight_eq_div_pow]
  omega

theorem to_nat_unpack_exponent (b : BitVec 64) :
    (@unpackExponent .binary64 b).toNat = b.toNat / 2 ^ 52 % 2 ^ 11 := by
  rw [unpackExponent_def]
  simp [BitVec.extractLsb'_toNat, Nat.shiftRight_eq_div_pow]

theorem to_nat_unpack_mantissa (b : BitVec 64) :
    (@unpackMantissa .binary64 b).toNat = b.toNat % 2 ^ 52 := by
  rw [unpackMantissa_def]
  simp [BitVec.extractLsb'_toNat, Nat.shiftRight_eq_div_pow]

/-- The sign is the negative one. -/
def isMinus : Sign → Bool
  | .negative => true
  | .positive => false

/-- A double has the bits of a value: its magnitude bits are the units of the value's last place, as
there are more of them with each power of two. -/
def Encodes (x : Float) : UnpackedFloat → Prop
  | .notANumber => infinityBits < magnitudeBits x ∧ isNegative x = false
  | .infinity s => magnitudeBits x = infinityBits ∧ isNegative x = isMinus s
  | .zero s => magnitudeBits x = 0 ∧ isNegative x = isMinus s
  | .finite s m e _ => (magnitudeBits x : ℤ) = (e + 1074) * 2 ^ 52 + m ∧ isNegative x = isMinus s ∧
      m < 2 ^ 53 ∧ (2 ^ 52 ≤ m ∨ e = -1074) ∧ -1074 ≤ e ∧ e ≤ 971

theorem is_negative_eq_sign (x : Float) :
    isNegative x =
      isMinus (Sign.ofBitVec (@unpackSign .binary64 x.toModel.toBits.toBitVec)) := by
  have hword : x.toBits.toNat = x.toModel.toBits.toBitVec.toNat := rfl
  generalize x.toModel.toBits.toBitVec = b at hword
  have hbit := to_nat_unpack_sign b
  have hb := b.isLt
  rw [isNegative, hword, Sign.ofBitVec]
  simp only [Nat.pow_eq, ← BitVec.toNat_inj, hbit]
  split <;> rename_i hzero <;> simp [isMinus] at hzero ⊢ <;> omega

theorem magnitude_bits_eq_fields (x : Float) :
    magnitudeBits x = (@unpackExponent .binary64 x.toModel.toBits.toBitVec).toNat * 2 ^ 52 +
      (@unpackMantissa .binary64 x.toModel.toBits.toBitVec).toNat := by
  have hword : x.toBits.toNat = x.toModel.toBits.toBitVec.toNat := rfl
  rw [to_nat_unpack_exponent, to_nat_unpack_mantissa, magnitudeBits, hword]
  simp only [Nat.pow_eq]
  omega

theorem encodes_unpack (x : Float) : Encodes x x.toModel.unpack := by
  have hvalid := x.toModel.valid.eq_packedNaN
  show Encodes x (UnpackedFloat.unpack .binary64 x.toModel.toBits.toBitVec)
  have hword : x.toBits.toNat = x.toModel.toBits.toBitVec.toNat := rfl
  have hsign := is_negative_eq_sign x
  have hmagnitude := magnitude_bits_eq_fields x
  generalize x.toModel.toBits.toBitVec = b at hvalid hword hsign hmagnitude
  have hE : (@unpackExponent .binary64 b).toNat < 2 ^ 11 := BitVec.isLt _
  have hM : (@unpackMantissa .binary64 b).toNat < 2 ^ 52 := BitVec.isLt _
  have hbias : (Format.binary64.exponentBias : ℤ) + (52 : ℕ) = 1075 := rfl
  unfold UnpackedFloat.unpack
  dsimp only
  split
  · -- the greatest exponent: infinity, and what is not a number
    rename_i hall
    have hE' : (@unpackExponent .binary64 b).toNat = 2047 := by rw [hall]; rfl
    split
    · rename_i hzero
      have hM' : (@unpackMantissa .binary64 b).toNat = 0 := by rw [hzero]; rfl
      refine ⟨?_, hsign⟩
      rw [hmagnitude, hE', hM']
      rfl
    · rename_i hsome
      have hM' : (@unpackMantissa .binary64 b).toNat ≠ 0 := fun h =>
        hsome (BitVec.toNat_inj.mp (by simpa using h))
      refine ⟨?_, ?_⟩
      · rw [hmagnitude, hE', infinityBits]
        simp only [Nat.pow_eq]
        omega
      · rw [isNegative, hword, hvalid hall hsome]
        decide
  split
  · -- no exponent: zero, and the values below the least power of two
    rename_i hnone
    have hE' : (@unpackExponent .binary64 b).toNat = 0 := by rw [hnone]; rfl
    split
    · rename_i hzero
      have hM' : (@unpackMantissa .binary64 b).toNat = 0 := by rw [hzero]; rfl
      refine ⟨?_, hsign⟩
      rw [hmagnitude, hE', hM', Nat.zero_mul]
    · rw [hE', Nat.zero_mul, Nat.zero_add] at hmagnitude
      have hleast : ((@unpackExponent .binary64 b).toNat : ℤ) -
          (Format.binary64.exponentBias + (52 : ℕ)) + 1 = -1074 := by
        rw [hE', hbias]
        rfl
      refine ⟨?_, hsign, by omega, .inr hleast, hleast.ge, hleast.trans_le (by decide)⟩
      rw [hleast, hmagnitude]
      omega
  · -- any other exponent: the significand has a first bit that is not stored
    rename_i hmost hsome
    have hmost' : (@unpackExponent .binary64 b).toNat ≠ 2047 := fun h =>
      hmost (BitVec.toNat_inj.mp (by simpa using h))
    have hsome' : (@unpackExponent .binary64 b).toNat ≠ 0 := fun h =>
      hsome (BitVec.toNat_inj.mp (by simpa using h))
    have hM' : (1#1 ++ @unpackMantissa .binary64 b).toNat =
        2 ^ 52 + (@unpackMantissa .binary64 b).toNat := by
      rw [BitVec.toNat_append, ← Nat.shiftLeft_add_eq_or_of_lt hM]
      rfl
    refine ⟨?_, hsign, ?_, .inl ?_, ?_, ?_⟩ <;> simp only [hM', hbias] <;> omega

/-- Doubles that are numbers are ordered as the integers that stand for them. -/
theorem lt_iff_order_key_lt {x y : Float} (hx : x.isNaN = false) (hy : y.isNaN = false) :
    x < y ↔ orderKey x < orderKey y := by
  have hinfinity : infinityBits = 2047 * 2 ^ 52 := rfl
  rw [lt_iff_key_lt hx hy, key, key, orderKey, orderKey]
  have hxs := encodes_unpack x
  have hys := encodes_unpack y
  change x.toModel.unpack.isNaN = false at hx
  change y.toModel.unpack.isNaN = false at hy
  generalize x.toModel.unpack = u at hx hxs
  generalize y.toModel.unpack = v at hy hys
  cases u with
  | notANumber => cases hx
  | infinity s | zero s | finite s m e h =>
      cases v with
      | notANumber => cases hy
      | infinity t | zero t | finite t n d h' =>
          cases s <;> cases t <;> simp only [Encodes, isMinus] at hxs hys <;>
            simp [unpackedKey, Prod.Lex.toLex_lt_toLex, hxs, hys] <;> omega

end Bits

end Mender.Binary64
