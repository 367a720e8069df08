import Mender.Proofs.Failure
import Mender.Proofs.Number.Amount
import Mender.Proofs.Number.Exact
import Mender.Spectrum.Metric

/-!
# What the metrics score

Read over the real numbers, every metric has a score on all non-negative counts, and the score grows
with the failing tests that execute a statement and falls with the passing ones
(`Metric.scores_rank_spectra`). Tarantula, Jaccard, Barinel and the square of Ochiai are made of
shares, `a / (a + b)`, so one lemma on shares carries them all. With doubles, a score is a number
(`Metric.score_is_number`), and there is one on counts that are not beyond what a double holds
(`Metric.score_defined`).
-/

namespace Mender

section Share

variable {a b a' b' : ℝ}

/-- The part that a number makes of its sum with another; nothing makes no part of nothing. -/
noncomputable def shareOf (a b : ℝ) : ℝ :=
  a / (a + b)

theorem share_nonneg (ha : 0 ≤ a) (hb : 0 ≤ b) : 0 ≤ shareOf a b :=
  div_nonneg ha (add_nonneg ha hb)

theorem share_le_one (ha : 0 ≤ a) (hb : 0 ≤ b) : shareOf a b ≤ 1 :=
  div_le_one_of_le₀ (le_add_of_nonneg_right hb) (add_nonneg ha hb)

theorem share_of_zero (b : ℝ) : shareOf 0 b = 0 :=
  zero_div _

/-- A part grows with the number and falls with the other. -/
theorem share_mono (ha : 0 ≤ a) (hb' : 0 ≤ b') (hle : a ≤ a') (hge : b' ≤ b) :
    shareOf a b ≤ shareOf a' b' := by
  rcases ha.eq_or_lt with rfl | hpos
  · rw [share_of_zero]
    exact share_nonneg hle hb'
  · have hcross : a * b' ≤ a' * b := mul_le_mul hle hge hb' (ha.trans hle)
    rw [shareOf, shareOf, div_le_div_iff₀ (by linarith) (by linarith)]
    linarith

end Share

namespace Metric

open Arithmetic

/-- The score of a spectrum as a real number. -/
noncomputable def value : Metric → Counts → ℝ
  | .ochiai, c => √(shareOf c.ef c.nf * shareOf c.ef c.ep)
  | .tarantula, c => shareOf (c.ef * (c.ep + c.np)) (c.ep * (c.ef + c.nf))
  | .jaccard, c => shareOf c.ef (c.nf + c.ep)
  | .dstar, c => c.ef ^ 2 / (c.ep + c.nf)
  | .barinel, c => shareOf c.ef c.ep
  | .op2, c => c.ef - c.ep / (c.ep + c.np + 1)

/-- No count is below zero. -/
structure NonNeg (c : Counts) : Prop where
  ef : 0 ≤ c.ef
  ep : 0 ≤ c.ep
  nf : 0 ≤ c.nf
  np : 0 ≤ c.np

theorem non_neg_iff {c : Counts} : hasNegative c = false ↔ NonNeg c := by
  simp only [hasNegative, Bool.or_eq_false_iff, decide_eq_false_iff_not, not_lt]
  exact ⟨fun ⟨⟨⟨hef, hep⟩, hnf⟩, hnp⟩ => ⟨hef, hep, hnf, hnp⟩,
    fun h => ⟨⟨⟨h.ef, h.ep⟩, h.nf⟩, h.np⟩⟩

section Formulas

variable {c : Counts}

theorem tarantula_value (h : NonNeg c) :
    tarantulaScore c = .ok (some (value .tarantula c) : Exact) := by
  obtain ⟨hef, hep, hnf, hnp⟩ := h
  unfold tarantulaScore
  split
  · -- without failing or without passing tests the score is zero
    rename_i htotals
    have hzero : value .tarantula c = 0 := by
      rcases htotals with hfailing | hpassing
      · have : c.ef = 0 := by omega
        simp [value, share_of_zero, this]
      · have : ((c.ep : ℝ) + c.np) = 0 := by exact_mod_cast hpassing
        simp [value, share_of_zero, this]
    rw [hzero]
    exact Exact.of_int_zero
  · rename_i htotals
    obtain ⟨hfailing, hpassing⟩ := not_or.mp htotals
    have hF : (0 : ℝ) < c.ef + c.nf := by
      have : 0 < c.ef + c.nf := by omega
      exact_mod_cast this
    have hP : (0 : ℝ) < c.ep + c.np := by
      have : 0 < c.ep + c.np := by omega
      exact_mod_cast this
    simp only [Exact.ratio_eq hfailing, Exact.ratio_eq hpassing, bind, Except.bind, Exact.add_eq]
    push_cast
    have hvalue : value .tarantula c =
        c.ef / (c.ef + c.nf) / (c.ef / (c.ef + c.nf) + c.ep / (c.ep + c.np)) := by
      rw [value, shareOf, div_add_div _ _ hF.ne' hP.ne', div_div_div_eq]
      field_simp
    split
    · rename_i hzero
      rw [Exact.is_zero_iff] at hzero
      rw [hvalue, hzero, div_zero]
      exact Exact.of_int_zero
    · rename_i hnonzero
      rw [Exact.is_zero_iff] at hnonzero
      rw [Exact.div_eq hnonzero, hvalue]
      rfl

theorem ochiai_value (h : NonNeg c) :
    ochiaiScore c = .ok (some (value .ochiai c) : Exact) := by
  obtain ⟨hef, hep, hnf, hnp⟩ := h
  have hef' : (0 : ℝ) ≤ c.ef := by exact_mod_cast hef
  have hprod : (0 : ℝ) ≤ ((c.ef + c.nf) * (c.ef + c.ep) : Int) := by
    exact_mod_cast mul_nonneg (add_nonneg hef hnf) (add_nonneg hef hep)
  have hvalue : value .ochiai c = c.ef / √(((c.ef + c.nf) * (c.ef + c.ep) : Int) : ℝ) := by
    rw [value, shareOf, shareOf, div_mul_div_comm, Real.sqrt_div' _ (by exact_mod_cast hprod),
      Real.sqrt_mul_self hef']
    push_cast
    rfl
  simp only [ochiaiScore, Exact.of_int_eq, bind, Except.bind, Exact.sqrt_eq hprod]
  split
  · rename_i hzero
    rw [Exact.is_zero_iff] at hzero
    rw [hvalue, hzero, div_zero]
    simp
  · rename_i hnonzero
    rw [Exact.is_zero_iff] at hnonzero
    rw [Exact.div_eq hnonzero, hvalue]
    rfl

theorem jaccard_value (c : Counts) : jaccardScore c = .ok (some (value .jaccard c) : Exact) := by
  have hvalue : value .jaccard c = c.ef / ((c.ef + c.nf + c.ep : Int) : ℝ) := by
    rw [value, shareOf, ← add_assoc]
    push_cast
    rfl
  rw [hvalue]
  unfold jaccardScore
  split
  · rename_i hzero
    rw [hzero]
    simp [Exact.of_int_eq]
  · rename_i hnonzero
    exact Exact.ratio_eq hnonzero

theorem power_two (n : Int) : power n 2 = n ^ 2 := by
  unfold power
  split
  · simp [*]
  split
  · simp [*]
  split
  · simp [*]
  · rfl

theorem dstar_value (c : Counts) : dstarScore 2 c = .ok (some (value .dstar c) : Exact) := by
  have hvalue : value .dstar c = ((c.ef ^ 2 : Int) : ℝ) / ((c.ep + c.nf : Int) : ℝ) := by
    rw [value]
    push_cast
    rfl
  rw [hvalue]
  unfold dstarScore
  split
  · rename_i hzero
    rw [hzero]
    simp [Exact.of_int_eq]
  · rename_i hnonzero
    rw [if_pos (by decide), show (2 : Int).toNat = 2 from rfl, power_two]
    exact Exact.ratio_eq hnonzero

theorem barinel_value (c : Counts) : barinelScore c = .ok (some (value .barinel c) : Exact) := by
  unfold barinelScore
  split
  · rename_i hzero
    have hsum : (c.ef : ℝ) + c.ep = 0 := by
      rw [add_comm]
      exact_mod_cast hzero
    simp [value, shareOf, hsum, Exact.of_int_eq]
  · rename_i hnonzero
    have hsum : (c.ep : ℝ) + c.ef ≠ 0 := by exact_mod_cast hnonzero
    simp only [Exact.of_int_eq, Exact.ratio_eq hnonzero, bind, Except.bind, pure, Except.pure,
      Exact.sub_eq]
    congr 2
    rw [value, shareOf]
    push_cast
    rw [add_comm (c.ef : ℝ), eq_div_iff hsum, sub_mul, div_mul_cancel₀ _ hsum]
    ring

theorem op2_value (h : NonNeg c) : op2Score c = .ok (some (value .op2 c) : Exact) := by
  have hnonzero : c.ep + c.np + 1 ≠ 0 := by
    have := h.ep
    have := h.np
    omega
  simp only [op2Score, Exact.of_int_eq, Exact.ratio_eq hnonzero, bind, Except.bind, pure,
    Except.pure, Exact.sub_eq, value]
  push_cast
  rfl

/-- On non-negative counts every metric has a score. -/
theorem score_value (m : Metric) (h : NonNeg c) :
    m.score c = .ok (some (m.value c) : Exact) := by
  have hformula : m.formula c = .ok (some (m.value c) : Exact) := by
    cases m with
    | ochiai => exact ochiai_value h
    | tarantula => exact tarantula_value h
    | jaccard => exact jaccard_value c
    | dstar => exact dstar_value c
    | barinel => exact barinel_value c
    | op2 => exact op2_value h
  rw [score, if_neg (by rw [non_neg_iff.mpr h]; decide), hformula]
  rfl

end Formulas

section Order

variable {c d : Counts}

theorem value_mem_unit {m : Metric} (hm : m ∈ [.tarantula, .ochiai, .jaccard, .barinel])
    (h : NonNeg c) :
    0 ≤ m.value c ∧ m.value c ≤ 1 := by
  have hef : (0 : ℝ) ≤ c.ef := by exact_mod_cast h.ef
  have hep : (0 : ℝ) ≤ c.ep := by exact_mod_cast h.ep
  have hnf : (0 : ℝ) ≤ c.nf := by exact_mod_cast h.nf
  have hnp : (0 : ℝ) ≤ c.np := by exact_mod_cast h.np
  have hunit : ∀ {a b : ℝ}, 0 ≤ a → 0 ≤ b → 0 ≤ shareOf a b ∧ shareOf a b ≤ 1 :=
    fun ha hb => ⟨share_nonneg ha hb, share_le_one ha hb⟩
  cases m with
  | ochiai =>
      have hproduct : shareOf c.ef c.nf * shareOf (c.ef : ℝ) c.ep ≤ 1 :=
        mul_le_one₀ (hunit hef hnf).2 (hunit hef hep).1 (hunit hef hep).2
      exact ⟨Real.sqrt_nonneg _, Real.sqrt_le_one.mpr hproduct⟩
  | tarantula => exact hunit (by positivity) (by positivity)
  | jaccard => exact hunit hef (by positivity)
  | barinel => exact hunit hef hep
  | dstar | op2 => simp at hm

/-- A statement that no failing test executes has no score, except by Op2. -/
theorem value_of_ef_zero {m : Metric} (hm : m ≠ .op2) (hef : c.ef = 0) : m.value c = 0 := by
  cases m with
  | op2 => exact absurd rfl hm
  | _ => simp [value, share_of_zero, hef]

/-- Two spectra of one run of the tests, the second of a statement that no fewer failing and no more
passing tests execute. -/
structure Rises (c d : Counts) : Prop where
  failing : c.ef + c.nf = d.ef + d.nf
  passing : c.ep + c.np = d.ep + d.np
  ef : c.ef ≤ d.ef
  ep : d.ep ≤ c.ep

theorem value_mono (m : Metric) (hc : NonNeg c) (hd : NonNeg d) (h : Rises c d)
    (hstar : m = .dstar → 0 < c.ep + c.nf ∧ 0 < d.ep + d.nf) : m.value c ≤ m.value d := by
  have hef : (0 : ℝ) ≤ c.ef := by exact_mod_cast hc.ef
  have hnf' : (0 : ℝ) ≤ d.nf := by exact_mod_cast hd.nf
  have hep' : (0 : ℝ) ≤ d.ep := by exact_mod_cast hd.ep
  have hefs : (c.ef : ℝ) ≤ d.ef := by exact_mod_cast h.ef
  have heps : (d.ep : ℝ) ≤ c.ep := by exact_mod_cast h.ep
  have hfailing : (c.ef : ℝ) + c.nf = d.ef + d.nf := by exact_mod_cast h.failing
  have hpassing : (c.ep : ℝ) + c.np = d.ep + d.np := by exact_mod_cast h.passing
  have hnfs : (d.nf : ℝ) ≤ c.nf := by linarith
  have hF : (0 : ℝ) ≤ d.ef + d.nf := by linarith
  have hP : (0 : ℝ) ≤ d.ep + d.np := by
    have : (0 : ℝ) ≤ d.np := by exact_mod_cast hd.np
    linarith
  cases m with
  | ochiai =>
      refine Real.sqrt_le_sqrt (mul_le_mul (share_mono hef hnf' hefs hnfs)
        (share_mono hef hep' hefs heps) (share_nonneg hef (hep'.trans heps))
        (share_nonneg (hef.trans hefs) hnf'))
  | tarantula =>
      simp only [value, hfailing, hpassing]
      exact share_mono (mul_nonneg hef hP) (mul_nonneg hep' hF)
        (mul_le_mul_of_nonneg_right hefs hP) (mul_le_mul_of_nonneg_right heps hF)
  | jaccard => exact share_mono hef (add_nonneg hnf' hep') hefs (add_le_add hnfs heps)
  | dstar =>
      have hpos : (0 : ℝ) < d.ep + d.nf := by exact_mod_cast (hstar rfl).2
      exact div_le_div₀ (sq_nonneg _) (pow_le_pow_left₀ hef hefs 2) hpos (add_le_add heps hnfs)
  | barinel => exact share_mono hef hep' hefs heps
  | op2 =>
      simp only [value, hpassing]
      have hratio : (d.ep : ℝ) / (d.ep + d.np + 1) ≤ c.ep / (d.ep + d.np + 1) :=
        div_le_div_of_nonneg_right heps (by linarith)
      linarith

/-- Read over the real numbers, a metric gives every spectrum of non-negative counts a score,
without a division by zero. Tarantula, Ochiai, Jaccard and Barinel lie in the unit interval. Every
metric but Op2 is zero for a statement that no failing test executes. Of two spectra with the same
totals, one that more failing and fewer passing tests execute scores no less; by D* as long as some
passing test executes the statement or some failing test does not. -/
theorem scores_rank_spectra (m : Metric) (hc : hasNegative c = false) :
    ∃ x : ℝ, (m.score c : Except Failure Exact) = .ok (some x) ∧
      (m ∈ [.tarantula, .ochiai, .jaccard, .barinel] → 0 ≤ x ∧ x ≤ 1) ∧
      (m ≠ .op2 → c.ef = 0 → x = 0) ∧
      ∀ d, hasNegative d = false → Rises c d →
        (m = .dstar → 0 < c.ep + c.nf ∧ 0 < d.ep + d.nf) →
        ∃ y : ℝ, (m.score d : Except Failure Exact) = .ok (some y) ∧ x ≤ y := by
  rw [non_neg_iff] at hc
  refine ⟨m.value c, score_value m hc, fun hm => value_mem_unit hm hc, value_of_ef_zero, ?_⟩
  intro d hd hrises hstar
  rw [non_neg_iff] at hd
  exact ⟨m.value d, score_value m hd, value_mono m hc hd hrises hstar⟩

/-- With three failing and two passing tests, by D*. -/
theorem scores_rank_spectra_by_dstar :
    hasNegative ⟨1, 2, 2, 0⟩ = false ∧ ∃ x y : ℝ,
      (score .dstar ⟨1, 2, 2, 0⟩ : Except Failure Exact) = .ok (some x) ∧
      (score .dstar ⟨3, 1, 0, 1⟩ : Except Failure Exact) = .ok (some y) ∧ x ≤ y := by
  have hc : hasNegative ⟨1, 2, 2, 0⟩ = false := by decide
  have hd : hasNegative ⟨3, 1, 0, 1⟩ = false := by decide
  obtain ⟨x, hx, _, _, hmono⟩ := scores_rank_spectra .dstar hc
  obtain ⟨y, hy, hxy⟩ := hmono ⟨3, 1, 0, 1⟩ hd ⟨by decide, by decide, by decide, by decide⟩
    fun _ => ⟨by decide, by decide⟩
  exact ⟨hc, x, y, hx, hy, hxy⟩

end Order

section Doubles

open Binary64

variable {c : Counts} {x : Float}

theorem tarantula_number (h : NonNeg c) (hx : tarantulaScore c = .ok x) : x.isNaN = false := by
  unfold tarantulaScore at hx
  split at hx
  · exact (amount_of_int le_rfl hx).amount.number
  · obtain ⟨failing, hfailing, hx⟩ := bind_eq_ok hx
    obtain ⟨passing, hpassing, hx⟩ := bind_eq_ok hx
    have hfailing := amount_of_ratio h.ef (add_nonneg h.ef h.nf) hfailing
    have hpassing := amount_of_ratio h.ep (add_nonneg h.ep h.np) hpassing
    dsimp only at hx
    split at hx
    · exact (amount_of_int le_rfl hx).amount.number
    · rename_i hnonzero
      cases hx
      exact (hfailing.amount.div (hfailing.amount.add hpassing.amount) hfailing.finite
        (Bool.eq_false_iff.mpr hnonzero)).number

theorem ochiai_number (h : NonNeg c) (hx : ochiaiScore c = .ok x) : x.isNaN = false := by
  obtain ⟨product, hproduct, hx⟩ := bind_eq_ok hx
  obtain ⟨root, hroot, hx⟩ := bind_eq_ok hx
  have hproduct := amount_of_int
    (mul_nonneg (add_nonneg h.ef h.nf) (add_nonneg h.ef h.ep)) hproduct
  have hamount : IsAmount root := by
    change (if product < 0 then _ else _) = _ at hroot
    rw [if_neg hproduct.amount.not_lt_zero] at hroot
    cases hroot
    exact hproduct.amount.sqrt
  split at hx
  · exact (amount_of_int le_rfl hx).amount.number
  · rename_i hnonzero
    obtain ⟨ef, hef, hx⟩ := bind_eq_ok hx
    cases hx
    have hef := amount_of_int h.ef hef
    exact (hef.amount.div hamount hef.finite (Bool.eq_false_iff.mpr hnonzero)).number

theorem jaccard_number (h : NonNeg c) (hx : jaccardScore c = .ok x) : x.isNaN = false := by
  unfold jaccardScore at hx
  split at hx
  · exact (amount_of_int le_rfl hx).amount.number
  · exact (amount_of_ratio h.ef (add_nonneg (add_nonneg h.ef h.nf) h.ep) hx).amount.number

theorem dstar_number (h : NonNeg c) (hx : dstarScore 2 c = .ok x) : x.isNaN = false := by
  unfold dstarScore at hx
  split at hx
  · exact (amount_of_int le_rfl hx).amount.number
  · rw [if_pos (by decide), show (2 : Int).toNat = 2 from rfl, power_two] at hx
    exact (amount_of_ratio (sq_nonneg _) (add_nonneg h.ep h.nf) hx).amount.number

theorem barinel_number (h : NonNeg c) (hx : barinelScore c = .ok x) : x.isNaN = false := by
  unfold barinelScore at hx
  split at hx
  · exact (amount_of_int le_rfl hx).amount.number
  · obtain ⟨one, hone, hx⟩ := bind_eq_ok hx
    obtain ⟨passing, hpassing, hx⟩ := bind_eq_ok hx
    cases hx
    exact is_number_sub (amount_of_int zero_le_one hone).finite
      (amount_of_ratio h.ep (add_nonneg h.ep h.ef) hpassing).finite

theorem op2_number (h : NonNeg c) (hx : op2Score c = .ok x) : x.isNaN = false := by
  obtain ⟨passing, hpassing, hx⟩ := bind_eq_ok hx
  obtain ⟨ef, hef, hx⟩ := bind_eq_ok hx
  cases hx
  exact is_number_sub (amount_of_int h.ef hef).finite
    (amount_of_ratio h.ep (add_nonneg (add_nonneg h.ep h.np) zero_le_one) hpassing).finite

/-- Computed with doubles, a score is a number too. -/
theorem score_is_number {m : Metric} (hx : m.score c = .ok x) : x.isNaN = false := by
  unfold score at hx
  split at hx
  · cases hx
  · rename_i hcounts
    have h : NonNeg c := non_neg_iff.mp (by simpa using hcounts)
    have hx := lift_number_eq_ok hx
    cases m with
    | ochiai => exact ochiai_number h hx
    | tarantula => exact tarantula_number h hx
    | jaccard => exact jaccard_number h hx
    | dstar => exact dstar_number h hx
    | barinel => exact barinel_number h hx
    | op2 => exact op2_number h hx

/-- Counts of which no power that a formula takes is too large for a double. -/
structure Moderate (c : Counts) : Prop extends NonNeg c where
  ef_le : c.ef ≤ 2 ^ 400
  ep_le : c.ep ≤ 2 ^ 400
  nf_le : c.nf ≤ 2 ^ 400

theorem zero_defined : ∃ x : Float, Arithmetic.ofInt 0 = .ok x :=
  int_defined le_rfl (by positivity)

theorem tarantula_defined (h : Moderate c) : ∃ x : Float, tarantulaScore c = .ok x := by
  obtain ⟨⟨hef, hep, hnf, hnp⟩, hef', hep', hnf'⟩ := h
  unfold tarantulaScore
  split
  · exact zero_defined
  · rename_i htotals
    obtain ⟨failing, hfailing⟩ :=
      ratio_defined (a := c.ef) (b := c.ef + c.nf) hef (by omega) (by omega)
    obtain ⟨passing, hpassing⟩ :=
      ratio_defined (a := c.ep) (b := c.ep + c.np) hep (by omega) (by omega)
    simp only [Arithmetic.ratio, hfailing, hpassing, bind, Except.bind]
    split
    · exact zero_defined
    · exact ⟨_, rfl⟩

theorem ochiai_defined (h : Moderate c) : ∃ x : Float, ochiaiScore c = .ok x := by
  obtain ⟨⟨hef, hep, hnf, hnp⟩, hef', hep', hnf'⟩ := h
  have hnonneg : 0 ≤ (c.ef + c.nf) * (c.ef + c.ep) :=
    mul_nonneg (add_nonneg hef hnf) (add_nonneg hef hep)
  have hle : (c.ef + c.nf) * (c.ef + c.ep) ≤ 2 ^ 1000 :=
    calc (c.ef + c.nf) * (c.ef + c.ep)
      _ ≤ 2 ^ 401 * 2 ^ 401 :=
        mul_le_mul (by omega) (by omega) (add_nonneg hef hep) (by positivity)
      _ ≤ 2 ^ 1000 := by
        rw [← pow_add]
        exact pow_le_pow_right₀ one_le_two (by decide)
  obtain ⟨product, hproduct⟩ := int_defined hnonneg hle
  obtain ⟨ef, hofef⟩ := int_defined (n := c.ef) hef (by omega)
  have hroot : (Arithmetic.sqrt product : Except NumberFault Float) = .ok product.sqrt :=
    if_neg (amount_of_int hnonneg hproduct).amount.not_lt_zero
  simp only [ochiaiScore, Arithmetic.ofInt, hproduct, bind, Except.bind, hroot, hofef]
  split
  · exact zero_defined
  · exact ⟨_, rfl⟩

theorem jaccard_defined (h : Moderate c) : ∃ x : Float, jaccardScore c = .ok x := by
  obtain ⟨⟨hef, hep, hnf, hnp⟩, hef', hep', hnf'⟩ := h
  unfold jaccardScore
  split
  · exact zero_defined
  · exact ratio_defined hef (by omega) (by omega)

theorem dstar_defined (h : Moderate c) : ∃ x : Float, dstarScore 2 c = .ok x := by
  obtain ⟨⟨hef, hep, hnf, hnp⟩, hef', hep', hnf'⟩ := h
  have hle : c.ef ^ 2 ≤ 2 ^ 1000 :=
    calc c.ef ^ 2
      _ ≤ (2 ^ 400) ^ 2 := pow_le_pow_left₀ hef hef' 2
      _ ≤ 2 ^ 1000 := by
        rw [← pow_mul]
        exact pow_le_pow_right₀ one_le_two (by decide)
  unfold dstarScore
  split
  · exact zero_defined
  · rw [if_pos (by decide), show (2 : Int).toNat = 2 from rfl, power_two]
    exact ratio_defined (sq_nonneg _) (by omega) hle

theorem barinel_defined (h : Moderate c) : ∃ x : Float, barinelScore c = .ok x := by
  obtain ⟨⟨hef, hep, hnf, hnp⟩, hef', hep', hnf'⟩ := h
  unfold barinelScore
  split
  · exact zero_defined
  · obtain ⟨one, hone⟩ := int_defined zero_le_one (one_le_pow₀ one_le_two)
    obtain ⟨passing, hpassing⟩ :=
      ratio_defined (a := c.ep) (b := c.ep + c.ef) hep (by omega) (by omega)
    simp only [Arithmetic.ratio, Arithmetic.ofInt, hone, hpassing, bind, Except.bind]
    exact ⟨_, rfl⟩

theorem op2_defined (h : Moderate c) : ∃ x : Float, op2Score c = .ok x := by
  obtain ⟨⟨hef, hep, hnf, hnp⟩, hef', hep', hnf'⟩ := h
  obtain ⟨ef, hofef⟩ := int_defined (n := c.ef) hef (by omega)
  obtain ⟨passing, hpassing⟩ :=
    ratio_defined (a := c.ep) (b := c.ep + c.np + 1) hep (by omega) (by omega)
  simp only [op2Score, Arithmetic.ratio, Arithmetic.ofInt, hofef, hpassing, bind, Except.bind]
  exact ⟨_, rfl⟩

/-- Computed with doubles, moderate counts have a score. -/
theorem score_defined (m : Metric) (h : Moderate c) : ∃ x : Float, m.score c = .ok x := by
  have hformula : ∃ x : Float, m.formula c = .ok x := by
    cases m with
    | ochiai => exact ochiai_defined h
    | tarantula => exact tarantula_defined h
    | jaccard => exact jaccard_defined h
    | dstar => exact dstar_defined h
    | barinel => exact barinel_defined h
    | op2 => exact op2_defined h
  obtain ⟨x, hx⟩ := hformula
  rw [score, if_neg (by rw [non_neg_iff.mpr h.toNonNeg]; decide), hx]
  exact ⟨x, rfl⟩

end Doubles

end Metric

end Mender
