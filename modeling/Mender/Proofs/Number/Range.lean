import Mender.Proofs.Number.Amount

/-!
# The range of doubles

Sums and products of doubles that are far below infinity are below infinity: the last place of a
result is bounded by those of the operands (`Binary64.IsBelow.mul`, `Binary64.IsBelow.add`), and the
bits of a double by its last place.
-/

namespace Mender.Binary64

open Float.Model Float.Model.UnpackedFloat

section Rounding

theorem mantissa_shifted (em : ExtendedMantissa) (n : Nat) :
    (em >>> n).mantissa = em.mantissa / 2 ^ n := by
  show (n.repeat ExtendedMantissa.shiftRightOne em).mantissa = _
  induction n with
  | zero => simp [Nat.repeat]
  | succ n ih =>
      show (n.repeat ExtendedMantissa.shiftRightOne em).mantissa / 2 = _
      rw [ih, Nat.div_div_eq_div_mul, pow_succ]

theorem rounded_mantissa_le (em : ExtendedMantissa) : em.roundedMantissa ≤ em.mantissa + 1 := by
  obtain ⟨m, round, sticky⟩ := em
  cases round <;> cases sticky <;>
    simp only [ExtendedMantissa.roundedMantissa, ExtendedMantissa.accuracy,
      Accuracy.roundToNearestEven] <;> omega

/-- A finite value whose last place is at most a power of two. -/
def PlaceLE (place : Int) : UnpackedFloat → Prop
  | .zero _ => True
  | .finite _ _ e _ => e ≤ place
  | .infinity _ | .notANumber => False

section Shift

variable (m : Nat) (e : Int) (a : Accuracy)

/-- A mantissa is shifted to fifty-three bits, unless its exponent is too small. -/
theorem shifted_exponent :
    (shiftToTargetExponent .binary64 m e a).2 = max e (max (m.log2 + 1 + e - 53) (-1074)) := by
  have htarget : Format.binary64.targetExponent (totalExponent m e) =
      max (m.log2 + 1 + e - 53) (-1074) := rfl
  simp only [shiftToTargetExponent, shiftToExponent, htarget]
  omega

theorem shifted_mantissa_le :
    (shiftToTargetExponent .binary64 m e a).1.roundedMantissa ≤ 2 ^ 53 := by
  have htarget : Format.binary64.targetExponent (totalExponent m e) =
      max (m.log2 + 1 + e - 53) (-1074) := rfl
  have hstart : (ExtendedMantissa.ofMantissaAndAccuracy m a).mantissa = m := by
    unfold ExtendedMantissa.ofMantissaAndAccuracy
    split <;> rfl
  refine (rounded_mantissa_le _).trans (Nat.succ_le_of_lt ?_)
  simp only [shiftToTargetExponent, shiftToExponent, htarget, mantissa_shifted, hstart]
  generalize hcount : (max ((m.log2 : Int) + 1 + e - 53) (-1074) - e).toNat = count
  rw [Nat.div_lt_iff_lt_mul (Nat.two_pow_pos _), ← pow_add]
  exact Nat.lt_log2_self.trans_le (Nat.pow_le_pow_right two_pos (by omega))

end Shift

/-- Rounding leaves the fifty-three highest bits of a mantissa, or one less of them. -/
theorem place_of_round {m p : Nat} {e place : Int} (hm : m < 2 ^ p) (hbits : p + e ≤ place + 52)
    (he : e < place) (hplace : -1074 < place) (s : Sign) (a : Accuracy) :
    PlaceLE place (roundWithAccuracy .binary64 s m e a) := by
  have hlog : m.log2 + 1 ≤ p ∨ m.log2 = 0 := by
    rcases Nat.eq_zero_or_pos m with rfl | h
    · exact .inr rfl
    · exact .inl ((Nat.log2_lt h.ne').mpr hm)
  have hfirst := shifted_exponent m e a
  have hrounded := shifted_mantissa_le m e a
  unfold roundWithAccuracy
  generalize shiftToTargetExponent .binary64 m e a = first at hfirst hrounded
  dsimp only
  -- the mantissa that was rounded may have a bit too much
  have hcarry : first.1.roundedMantissa.log2 ≤ 53 := by
    have hlt : first.1.roundedMantissa < 2 ^ 54 := hrounded.trans_lt (by decide)
    rcases Nat.eq_zero_or_pos first.1.roundedMantissa with h | h
    · rw [h]
      decide
    · exact Nat.le_of_lt_succ ((Nat.log2_lt h.ne').mpr hlt)
  split
  · trivial
  · show (shiftToTargetExponent .binary64 first.1.roundedMantissa first.2 .exact).2 ≤ place
    rw [shifted_exponent]
    omega

/-- A mantissa is widened by as many bits as its exponent is lowered. -/
theorem decreased_mantissa_lt {m p : Nat} (hm : m < 2 ^ p) (e target : Int) :
    (decreaseExponent m e target).1 < 2 ^ (p + (e - target).toNat) := by
  show m <<< (e - target).toNat < _
  rw [Nat.shiftLeft_eq, pow_add]
  exact Nat.mul_lt_mul_of_pos_right hm (Nat.two_pow_pos _)

theorem place_of_normalize {m p : Nat} {e place : Int} (hm : m < 2 ^ p)
    (hbits : p + e ≤ place + 52) (he : e < place) (hplace : -1074 < place) (s : Sign) :
    PlaceLE place (UnpackedFloat.normalize .binary64 m e s) := by
  unfold UnpackedFloat.normalize
  split
  · rename_i hneg
    exact absurd (compare_lt_iff_lt.mp hneg) (by omega)
  · trivial
  · unfold UnpackedFloat.round
    rw [Int.toNat_natCast]
    exact place_of_round (decreased_mantissa_lt hm e _) (by push_cast; omega) (by omega) hplace _ _

end Rounding

section Bounds

variable {x y : Float} {a b n : Nat}

/-- The bits of a double are bounded by its last place. -/
theorem magnitude_of_place {u : UnpackedFloat} (h : PlaceLE ((n : Int) - 1076) u) (hn : 0 < n)
    (hfinite : n ≤ 2047) : magnitudeBits ⟨Float.Model.pack u⟩ < n * 2 ^ 52 := by
  have hcomponents : ∀ (s : Sign) (e : BitVec 11) (m : BitVec 52), e.toNat < n →
      (packComponents .binary64 s e m).toNat % 2 ^ 63 < n * 2 ^ 52 := fun s e m he => by
    have he' := e.isLt
    have hm := m.isLt
    rw [to_nat_pack_components]
    omega
  show (UnpackedFloat.pack .binary64 u).toNat % 2 ^ 63 < _
  cases u with
  | notANumber | infinity s => cases h
  | zero s => exact hcomponents s 0 0 hn
  | finite s m e hm =>
      have hbiased : (e + Format.binary64.exponentBias + (52 : Nat)).toNat < n := by
        have hplace : e ≤ (n : Int) - 1076 := h
        have hbias : (Format.binary64.exponentBias : Int) = 1023 := rfl
        omega
      unfold UnpackedFloat.pack
      dsimp only
      split
      · omega
      · split
        · refine hcomponents s _ _ ?_
          rw [BitVec.toNat_ofNat]
          exact (Nat.mod_le _ _).trans_lt hbiased
        · exact hcomponents s _ _ hn

/-- A number that is not below zero and has bits below those of a power of two. -/
structure IsBelow (n : Nat) (x : Float) : Prop where
  amount : IsAmount x
  bits : magnitudeBits x < n * 2 ^ 52

namespace IsBelow

theorem isFinite (h : IsBelow n x) (hn : n ≤ 2047) : x.isFinite = true := by
  have hcodes := encodes_unpack x
  have hamount : Amount x.toModel.unpack := h.amount
  have hbits := h.bits
  show x.toModel.unpack.isFinite = true
  generalize x.toModel.unpack = u at hcodes hamount
  cases hamount with
  | zero | finite m e hm => rfl
  | infinity =>
      have hinfinite : magnitudeBits x = 2047 * 2 ^ 52 := hcodes.1
      omega

theorem mono (h : IsBelow a x) (hab : a ≤ b) : IsBelow b x :=
  ⟨h.amount, h.bits.trans_le (Nat.mul_le_mul_right _ hab)⟩

/-- A double that is bounded has a greatest integer below it. -/
theorem floor_defined (h : IsBelow n x) (hn : n ≤ 2047) : ∃ i, Arithmetic.floor x = .ok i := by
  have hbits : magnitudeBits x < infinityBits :=
    h.bits.trans_le (Nat.mul_le_mul_right _ hn)
  have hnumber : isNaN x = false := decide_eq_false (by omega)
  have hfinite : isInfinite x = false := beq_false_of_ne hbits.ne
  exact ⟨Binary64.floor x, by simp [Arithmetic.floor, hnumber, hfinite]⟩

/-- The value of a bounded double is zero or has a bounded last place. -/
theorem unpacked (h : IsBelow n x) (hn : 2 ≤ n) (hfinite : n ≤ 2047) :
    x.toModel.unpack = .zero .positive ∨ ∃ m e hm, x.toModel.unpack = .finite .positive m e hm ∧
      m < 2 ^ 53 ∧ e ≤ (n : Int) - 1076 := by
  have hcodes := encodes_unpack x
  have hamount : Amount x.toModel.unpack := h.amount
  have hbits := h.bits
  generalize x.toModel.unpack = u at hcodes hamount
  cases hamount with
  | zero => exact .inl rfl
  | infinity =>
      have hinfinite : magnitudeBits x = 2047 * 2 ^ 52 := hcodes.1
      omega
  | finite m e hm =>
      obtain ⟨hmagnitude, -, hm', hbig, hlow, -⟩ := hcodes
      exact .inr ⟨m, e, hm, rfl, hm', by omega⟩

/-- The last place of a product is at most fifty-four above the sum of those of the factors. -/
theorem mul (hx : IsBelow a x) (hy : IsBelow b y) (ha : 1076 ≤ a) (hb : 1076 ≤ b)
    (hn : a + b ≤ n + 1022) (hfinite : n ≤ 2047) : IsBelow n (x * y) := by
  have hamount : IsAmount (x * y) :=
    hx.amount.mul hy.amount (hx.isFinite (by omega)) (hy.isFinite (by omega))
  refine ⟨hamount, magnitude_of_place ?_ (by omega) hfinite⟩
  obtain hx | ⟨m, e, hm, hx, hm', he⟩ := hx.unpacked (by omega) (by omega)
  · obtain hy | ⟨k, d, hk, hy, hk', hd⟩ := hy.unpacked (by omega) (by omega) <;> rw [hx, hy] <;>
      trivial
  · obtain hy | ⟨k, d, hk, hy, hk', hd⟩ := hy.unpacked (by omega) (by omega) <;> rw [hx, hy]
    · trivial
    · have hproduct : m * k < 2 ^ 106 := by
        calc m * k < 2 ^ 53 * 2 ^ 53 := Nat.mul_lt_mul'' hm' hk'
          _ = 2 ^ 106 := by norm_num
      exact place_of_round hproduct (by push_cast; omega) (by omega) (by omega) _ _

/-- The last place of a sum is at most two above the larger one of the summands. -/
theorem add (hx : IsBelow a x) (hy : IsBelow a y) (ha : 1076 ≤ a) (hn : a + 2 ≤ n)
    (hfinite : n ≤ 2047) : IsBelow n (x + y) := by
  refine ⟨hx.amount.add hy.amount, magnitude_of_place ?_ (by omega) hfinite⟩
  obtain hx | ⟨m, e, hm, hx, hm', he⟩ := hx.unpacked (by omega) (by omega)
  · obtain hy | ⟨k, d, hk, hy, hk', hd⟩ := hy.unpacked (by omega) (by omega) <;> rw [hx, hy]
    · trivial
    · show d ≤ _
      omega
  · obtain hy | ⟨k, d, hk, hy, hk', hd⟩ := hy.unpacked (by omega) (by omega) <;> rw [hx, hy]
    · show e ≤ _
      omega
    · have hwiden : ∀ (m : Nat) (e' : Int), m < 2 ^ 53 → e' ≤ max e d →
          (decreaseExponent m e' (min e d)).1 < 2 ^ (53 + (max e d - min e d).toNat) :=
        fun m e' hm he => (decreased_mantissa_lt hm e' _).trans_le
          (Nat.pow_le_pow_right two_pos (by omega))
      have hsum : (decreaseExponent m e (min e d)).1 + (decreaseExponent k d (min e d)).1 <
          2 ^ (54 + (max e d - min e d).toNat) := by
        calc _ < 2 ^ (53 + (max e d - min e d).toNat) + 2 ^ (53 + (max e d - min e d).toNat) :=
              Nat.add_lt_add (hwiden m e hm' (le_max_left _ _)) (hwiden k d hk' (le_max_right _ _))
          _ = 2 ^ (54 + (max e d - min e d).toNat) := by ring
      exact place_of_normalize hsum (by push_cast; omega) (by omega) (by omega) _

end IsBelow

/-- Quotients of at most `2 ^ 400` have nearest doubles of at most that. -/
theorem below_of_quotient (num : Nat) {den : Nat} (hden : 0 < den) (h : num ≤ 2 ^ 400) :
    ∃ x, ofQuotient? false num den = some x ∧ IsBelow 1424 x := by
  have hbits : nearestBits num den < 1424 * 2 ^ 52 :=
    (nearest_bits_mono hden Nat.one_pos (quotient_le hden h)).trans_lt (by decide +kernel)
  have hfinite : nearestBits num den < infinityBits := hbits.trans (by decide)
  refine ⟨ofMagnitude false (nearestBits num den), ?_, (amount_of_magnitude hfinite).amount, ?_⟩
  · rw [ofQuotient?, round_bits_eq, if_neg (not_le.mpr hfinite)]
    rfl
  · rwa [(magnitude_of_magnitude hfinite).1]

theorem below_of_int {i : Int} (hi : 0 ≤ i) (h : i ≤ 2 ^ 400) :
    ∃ x, Arithmetic.doubleOfInt i = .ok x ∧ IsBelow 1424 x := by
  obtain ⟨x, hx, hbelow⟩ := below_of_quotient i.natAbs Nat.one_pos (by omega)
  refine ⟨x, ?_, hbelow⟩
  rw [Arithmetic.doubleOfInt, ofInt?, decide_eq_false (not_lt.mpr hi), hx]

theorem below_of_ratio {i j : Int} (hi : 0 ≤ i) (hj : 0 < j) (h : i ≤ 2 ^ 400) :
    ∃ x, Arithmetic.doubleRatio i j = .ok x ∧ IsBelow 1424 x := by
  obtain ⟨x, hx, hbelow⟩ :=
    below_of_quotient i.natAbs (show 0 < j.natAbs by omega) (by omega)
  refine ⟨x, ?_, hbelow⟩
  rw [Arithmetic.doubleRatio, if_neg hj.ne', decide_eq_false (not_lt.mpr hi),
    decide_eq_false (not_lt.mpr hj.le), bne_self_eq_false, hx]

end Bounds

end Mender.Binary64
