import Mathlib
import Mender.Number.Arithmetic

/-!
# Rounding keeps the order

The double nearest to a quotient is found in two steps: the place of its last bit, and the nearest
integer of units in that place. Both are monotone in the quotient, and the order of doubles is that
of their bits, so quotients and the doubles nearest to them are in one order
(`Binary64.order_key_mono`).
-/

namespace Mender.Binary64

/-- A quotient times a power of two. -/
theorem shifted_eq (num den : Nat) (power : Int) :
    ((shifted num den power).1 : ℚ) / (shifted num den power).2 = num / den * 2 ^ power := by
  unfold shifted
  obtain ⟨n, rfl | rfl⟩ := power.eq_nat_or_neg
  · have hsign : ¬((n : Int) < 0) := by omega
    simp [hsign, mul_div_right_comm]
  · rcases Nat.eq_zero_or_pos n with rfl | hn
    · simp
    · have hsign : -(n : Int) < 0 := by omega
      simp only [hsign, if_true, Int.natAbs_neg, Int.natAbs_natCast, Nat.pow_eq, Nat.cast_mul,
        Nat.cast_pow, Nat.cast_ofNat, zpow_neg, zpow_natCast]
      rw [div_mul_eq_div_div, div_eq_mul_inv (_ / _)]

theorem shifted_pos {num den : Nat} (hden : 0 < den) (power : Int) :
    0 < (shifted num den power).2 := by
  unfold shifted
  split
  · exact Nat.mul_pos hden (Nat.two_pow_pos _)
  · exact hden

section Nearest

variable {num den : Nat}

/-- The nearest integer is above another when the quotient is above the middle between that one and
the next, or is the middle and the next one is even. -/
theorem lt_round_quotient_iff (hden : 0 < den) (k : Nat) :
    k < roundQuotient num den ↔
      (2 * k + 1) * den < 2 * num ∨ (2 * k + 1) * den = 2 * num ∧ k % 2 = 1 := by
  have hdiv : den * (num / den) + num % den = num := Nat.div_add_mod num den
  have hmod : num % den < den := Nat.mod_lt num hden
  unfold roundQuotient
  generalize num / den = whole at *
  generalize num % den = part at *
  subst hdiv
  dsimp only
  -- the remainder decides only next to the whole part
  rcases Nat.lt_trichotomy k whole with hk | rfl | hk
  · obtain ⟨more, rfl⟩ := Nat.exists_eq_add_of_lt hk
    have hbelow : (2 * k + 1) * den < 2 * (den * (k + more + 1) + part) := by
      nlinarith [Nat.zero_le (more * den)]
    have hlt : k < if den < 2 * part ∨ 2 * part = den ∧ (k + more + 1) % 2 = 1 then
        k + more + 1 + 1 else k + more + 1 := by
      split <;> omega
    simpa [hbelow] using hlt
  · have hleft : (2 * k + 1) * den = 2 * (den * k) + den := by ring
    rw [hleft]
    simp only [Bool.or_eq_true, decide_eq_true_eq, Bool.and_eq_true, beq_iff_eq]
    split <;> omega
  · obtain ⟨more, rfl⟩ := Nat.exists_eq_add_of_lt hk
    have habove : 2 * (den * whole + part) < (2 * (whole + more + 1) + 1) * den := by
      nlinarith [Nat.zero_le (more * den)]
    constructor
    · intro h
      split at h <;> omega
    · rintro (h | ⟨h, _⟩) <;> omega

/-- The middle between an integer and the next, against a quotient. -/
theorem middle_lt_iff (hden : 0 < den) (k : Nat) :
    (2 * k + 1) * den < 2 * num ↔ (k : ℚ) + 1 / 2 < num / den := by
  have hpos : (0 : ℚ) < den := by exact_mod_cast hden
  rw [lt_div_iff₀ hpos, ← Nat.cast_lt (α := ℚ)]
  push_cast
  constructor <;> intro h <;> linarith

theorem middle_eq_iff (hden : 0 < den) (k : Nat) :
    (2 * k + 1) * den = 2 * num ↔ (k : ℚ) + 1 / 2 = num / den := by
  have hpos : (den : ℚ) ≠ 0 := by exact_mod_cast hden.ne'
  rw [eq_div_iff hpos, ← Nat.cast_inj (R := ℚ)]
  push_cast
  constructor <;> intro h <;> linarith

/-- Nearest integers are in the order of the quotients. -/
theorem round_quotient_mono {num' den' : Nat} (hden : 0 < den) (hden' : 0 < den')
    (hle : (num : ℚ) / den ≤ num' / den') : roundQuotient num den ≤ roundQuotient num' den' := by
  refine le_of_forall_lt fun k hk => ?_
  rw [lt_round_quotient_iff hden, middle_lt_iff hden, middle_eq_iff hden] at hk
  rw [lt_round_quotient_iff hden', middle_lt_iff hden', middle_eq_iff hden']
  rcases hk with hk | ⟨hk, hodd⟩
  · exact .inl (hk.trans_le hle)
  · exact (hk.trans_le hle).lt_or_eq.imp_right fun h => ⟨h, hodd⟩

theorem round_quotient_one (n : Nat) : roundQuotient n 1 = n := by
  simp [roundQuotient, Nat.mod_one]

theorem le_round_quotient {n : Nat} (hden : 0 < den) (hle : (n : ℚ) ≤ num / den) :
    n ≤ roundQuotient num den := by
  have hmono : roundQuotient n 1 ≤ roundQuotient num den :=
    round_quotient_mono Nat.one_pos hden (by simpa using hle)
  rwa [round_quotient_one] at hmono

theorem round_quotient_le {n : Nat} (hden : 0 < den) (hle : (num : ℚ) / den ≤ n) :
    roundQuotient num den ≤ n := by
  have hmono : roundQuotient num den ≤ roundQuotient n 1 :=
    round_quotient_mono hden Nat.one_pos (by simpa using hle)
  rwa [round_quotient_one] at hmono

end Nearest

section Place

/-- The power of two of the last of the fifty-three bits of a quotient. -/
def lastPlace (num den : Nat) : Int :=
  let low : Int := (num.log2 : Int) - den.log2 - 53
  let wide := shifted num den (-low)
  if Nat.pow 2 53 ≤ wide.1 / wide.2 then low + 1 else low

theorem two_pow_log_le {n : Nat} (h : 0 < n) : (2 : ℚ) ^ (n.log2 : Int) ≤ n := by
  rw [zpow_natCast]
  exact_mod_cast Nat.log2_self_le h.ne'

theorem lt_two_pow_log (n : Nat) : (n : ℚ) < 2 ^ ((n.log2 : Int) + 1) := by
  have h := Nat.lt_log2_self (n := n)
  rw [← Nat.cast_succ, zpow_natCast]
  exact_mod_cast h

variable {num den num' den' : Nat}

/-- The lengths of its terms in bits place a quotient between two powers of two. -/
theorem quotient_between_powers (hnum : 0 < num) (hden : 0 < den) :
    (2 : ℚ) ^ ((num.log2 : Int) - den.log2 - 1) ≤ num / den ∧
      (num : ℚ) / den < 2 ^ ((num.log2 : Int) - den.log2 + 1) := by
  have hpos : (0 : ℚ) < den := by exact_mod_cast hden
  constructor
  · rw [le_div_iff₀ hpos]
    calc (2 : ℚ) ^ ((num.log2 : Int) - den.log2 - 1) * den
        ≤ 2 ^ ((num.log2 : Int) - den.log2 - 1) * 2 ^ ((den.log2 : Int) + 1) := by
          gcongr
          exact (lt_two_pow_log den).le
      _ = 2 ^ (num.log2 : Int) := by
          rw [← zpow_add₀ two_ne_zero]
          congr 1
          omega
      _ ≤ num := two_pow_log_le hnum
  · rw [div_lt_iff₀ hpos]
    calc (num : ℚ) < 2 ^ ((num.log2 : Int) + 1) := lt_two_pow_log num
      _ = 2 ^ ((num.log2 : Int) - den.log2 + 1) * 2 ^ (den.log2 : Int) := by
          rw [← zpow_add₀ two_ne_zero]
          congr 1
          omega
      _ ≤ 2 ^ ((num.log2 : Int) - den.log2 + 1) * den := by
          gcongr
          exact two_pow_log_le hden

/-- A quotient has fifty-three bits in front of its last place. -/
theorem last_place_spec (hnum : 0 < num) (hden : 0 < den) :
    (2 : ℚ) ^ (lastPlace num den + 52) ≤ num / den ∧
      (num : ℚ) / den < 2 ^ (lastPlace num den + 53) := by
  obtain ⟨hlow, hhigh⟩ := quotient_between_powers hnum hden
  unfold lastPlace
  dsimp only
  generalize hlowest : (num.log2 : Int) - den.log2 - 53 = low
  have hwide : (num : ℚ) / den * 2 ^ (-low) = _ := (shifted_eq num den (-low)).symm
  have hwidth : (0 : ℚ) < (shifted num den (-low)).2 := by exact_mod_cast shifted_pos hden (-low)
  have hback : (num : ℚ) / den = num / den * 2 ^ (-low) * 2 ^ low := by
    rw [mul_assoc, ← zpow_add₀ two_ne_zero, neg_add_cancel, zpow_zero, mul_one]
  split
  · -- the quotient has one more bit than its terms suggest
    rename_i hbig
    have hbits : ((2 : ℚ) ^ (53 : Int)) ≤ num / den * 2 ^ (-low) := by
      rw [hwide, le_div_iff₀ hwidth]
      exact_mod_cast (Nat.le_div_iff_mul_le (shifted_pos hden (-low))).mp hbig
    refine ⟨?_, hhigh.trans_le (zpow_le_zpow_right₀ one_le_two (by omega))⟩
    rw [hback, show low + 1 + 52 = 53 + low by ring, zpow_add₀ two_ne_zero]
    gcongr
  · rename_i hsmall
    have hbits : (num : ℚ) / den * 2 ^ (-low) < 2 ^ (53 : Int) := by
      rw [hwide, div_lt_iff₀ hwidth]
      exact_mod_cast (Nat.div_lt_iff_lt_mul (shifted_pos hden (-low))).mp (not_le.mp hsmall)
    refine ⟨(zpow_le_zpow_right₀ one_le_two (by omega)).trans hlow, ?_⟩
    rw [hback, add_comm, zpow_add₀ two_ne_zero]
    gcongr

/-- Last places are in the order of the quotients. -/
theorem last_place_mono (hnum : 0 < num) (hden : 0 < den) (hnum' : 0 < num') (hden' : 0 < den')
    (hle : (num : ℚ) / den ≤ num' / den') : lastPlace num den ≤ lastPlace num' den' := by
  have hbetween : (2 : ℚ) ^ (lastPlace num den + 52) < 2 ^ (lastPlace num' den' + 53) :=
    (last_place_spec hnum hden).1.trans_lt (hle.trans_lt (last_place_spec hnum' hden').2)
  have hplaces := (zpow_lt_zpow_iff_right₀ one_lt_two).mp hbetween
  omega

end Place

section Bits

/-- The bits of the double nearest to a quotient, if there is no end to its exponents. -/
def nearestBits (num den : Nat) : Nat :=
  if num = 0 then 0
  else
    let power := max (lastPlace num den) (-1074)
    let scaled := shifted num den (-power)
    (power + 1074).toNat * Nat.pow 2 52 + roundQuotient scaled.1 scaled.2

theorem round_bits_eq (num den : Nat) :
    roundBits? num den =
      if infinityBits ≤ nearestBits num den then none else some (nearestBits num den) := by
  unfold roundBits? nearestBits
  split
  · rfl
  · rfl

variable {num den num' den' : Nat}

/-- The bits of nearest doubles are in the order of the quotients. -/
theorem nearest_bits_mono (hden : 0 < den) (hden' : 0 < den')
    (hle : (num : ℚ) / den ≤ num' / den') : nearestBits num den ≤ nearestBits num' den' := by
  have hpos : (0 : ℚ) < den := by exact_mod_cast hden
  have hpos' : (0 : ℚ) < den' := by exact_mod_cast hden'
  rcases Nat.eq_zero_or_pos num with rfl | hnum
  · exact Nat.zero_le _
  have hnum' : 0 < num' := by
    have hquotient : (0 : ℚ) < num' / den' :=
      (div_pos (by exact_mod_cast hnum) hpos).trans_le hle
    exact_mod_cast (div_pos_iff_of_pos_right hpos').mp hquotient
  have hplaces := last_place_mono hnum hden hnum' hden' hle
  have hspec := last_place_spec hnum hden
  have hspec' := last_place_spec hnum' hden'
  unfold nearestBits
  rw [if_neg hnum.ne', if_neg hnum'.ne']
  dsimp only
  generalize hpower : max (lastPlace num den) (-1074) = power
  generalize hpower' : max (lastPlace num' den') (-1074) = power'
  -- in one place the significands are rounded in order
  rcases (show power ≤ power' by omega).eq_or_lt with heq | hlt
  · rw [heq]
    refine Nat.add_le_add_left (round_quotient_mono (shifted_pos hden _) (shifted_pos hden' _) ?_) _
    rw [shifted_eq, shifted_eq]
    gcongr
  · -- in a higher place even the least of the significands is not below the greatest
    have hsmall : roundQuotient (shifted num den (-power)).1 (shifted num den (-power)).2 ≤
        2 ^ 53 := by
      refine round_quotient_le (shifted_pos hden _) ?_
      rw [shifted_eq, zpow_neg, ← div_eq_mul_inv, div_le_iff₀ (by positivity)]
      refine hspec.2.le.trans ?_
      rw [Nat.cast_pow, ← zpow_natCast, Nat.cast_ofNat, ← zpow_add₀ two_ne_zero]
      exact zpow_le_zpow_right₀ one_le_two (by push_cast; omega)
    have hgreat : 2 ^ 52 ≤
        roundQuotient (shifted num' den' (-power')).1 (shifted num' den' (-power')).2 := by
      refine le_round_quotient (shifted_pos hden' _) ?_
      rw [shifted_eq, zpow_neg, ← div_eq_mul_inv, le_div_iff₀ (by positivity)]
      refine le_trans ?_ hspec'.1
      rw [Nat.cast_pow, ← zpow_natCast, Nat.cast_ofNat, ← zpow_add₀ two_ne_zero]
      exact zpow_le_zpow_right₀ one_le_two (by push_cast; omega)
    have hstep : (power + 1074).toNat + 1 ≤ (power' + 1074).toNat := by omega
    simp only [Nat.pow_eq] at hsmall hgreat ⊢
    omega

end Bits

open Float.Model Float.Model.UnpackedFloat in
/-- The double with some bits has these bits, as long as they stand for a number. -/
theorem to_bits_of_bits {bits : Nat} (h : bits < infinityBits) :
    (Float.ofBits (UInt64.ofNat bits)).toBits = UInt64.ofNat bits := by
  have hbits : bits < 2047 * 2 ^ 52 := h
  have hnumber : ¬@isNaNBits Format.binary64 (UInt64.ofNat bits).toBitVec := by
    intro hnan
    have hexp : @unpackExponent Format.binary64 (UInt64.ofNat bits).toBitVec = -1#11 :=
      (of_decide_eq_true hnan).1
    rw [unpackExponent_def] at hexp
    have hnat := congrArg BitVec.toNat hexp
    rw [BitVec.extractLsb'_toNat, Nat.shiftRight_eq_div_pow] at hnat
    have hword : (UInt64.ofNat bits).toBitVec.toNat = bits := by
      show bits % 2 ^ 64 = bits
      omega
    rw [hword] at hnat
    have hmax : bits / 2 ^ 52 % 2 ^ 11 = 2047 := hnat
    omega
  show UInt64.ofBitVec (pack Format.binary64 (UnpackedFloat.unpack Format.binary64 _)) = _
  rw [pack_unpack, if_neg hnumber]

theorem magnitude_of_magnitude {bits : Nat} (h : bits < infinityBits) :
    magnitudeBits (ofMagnitude false bits) = bits ∧
      isNegative (ofMagnitude false bits) = false := by
  have hbits : bits < 2047 * 2 ^ 52 := h
  have hword : (UInt64.ofNat bits).toNat = bits := by
    rw [UInt64.toNat_ofNat']
    omega
  simp only [magnitudeBits, isNegative, ofMagnitude, Bool.false_eq_true, if_false,
    to_bits_of_bits h, hword, Nat.pow_eq, decide_eq_false_iff_not]
  omega

/-- The order of positive doubles is that of their bits. -/
theorem order_key_of_magnitude {bits : Nat} (h : bits < infinityBits) :
    orderKey (ofMagnitude false bits) = bits := by
  obtain ⟨hmagnitude, hsign⟩ := magnitude_of_magnitude h
  rw [orderKey, hsign, hmagnitude]
  rfl

/-- Doubles nearest to quotients that are at most one are in the order of the quotients. -/
theorem order_key_mono {num den num' den' : Nat} (hden : 0 < den) (hden' : 0 < den')
    (hle : (num : ℚ) / den ≤ num' / den') (hone : (num' : ℚ) / den' ≤ 1) :
    orderKey ((ofQuotient? false num den).getD 0.0) ≤
      orderKey ((ofQuotient? false num' den').getD 0.0) := by
  have hbits := nearest_bits_mono hden hden' hle
  have hsmall : nearestBits num' den' ≤ nearestBits 1 1 :=
    nearest_bits_mono hden' Nat.one_pos (by simpa using hone)
  have hbound : nearestBits num' den' < infinityBits := hsmall.trans_lt (by decide)
  have hkey : ∀ n d, nearestBits n d < infinityBits →
      orderKey ((ofQuotient? false n d).getD 0.0) = nearestBits n d := by
    intro n d h
    rw [ofQuotient?, round_bits_eq, if_neg (by omega)]
    exact order_key_of_magnitude h
  rw [hkey _ _ (by omega), hkey _ _ hbound]
  exact_mod_cast hbits

end Mender.Binary64
