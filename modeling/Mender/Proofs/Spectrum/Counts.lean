import Mender.Proofs.Number.Range
import Mender.Proofs.Spectrum.Metric
import Mender.Proofs.Spectrum.Report
import Mender.Spectrum.Ranking

/-!
# Counts of tests

The counts of a statement split the tests: each failing test executes it or does not, and so does
each passing one (`Coverage.counts_split_tests`). Counted test by test, each name counts once, as it
was added last. Estimated from totals, the counts stay between zero and the totals, in exact
arithmetic and in doubles, so that scoring never meets a negative count.
-/

namespace Mender

/-- Counts that split the failing and the passing tests into those that execute a statement and
those that do not. -/
structure Counts.Split (k : Counts) (failing passing : Int) : Prop extends Metric.NonNeg k where
  failing_eq : k.ef + k.nf = failing
  passing_eq : k.ep + k.np = passing

namespace CoverageMatrix

/-- The matrix of tests that were added one after another. -/
def ofTests (tests : List CoveredTest) : CoverageMatrix :=
  tests.foldl add empty

/-- What was added last under a name. -/
def latest? (tests : List CoveredTest) (name : String) : Option CoveredTest :=
  tests.reverse.find? (·.name = name)

section Adding

variable (tests : List CoveredTest)

/-- A matrix knows of a name what was added last under it. -/
theorem find_of_tests (name : String) : (ofTests tests).find? name = latest? tests name := by
  induction tests using List.reverseRecOn with
  | nil => rfl
  | append_singleton tests t ih =>
      rw [ofTests, List.foldl_append, ← ofTests, List.foldl_cons, List.foldl_nil, find_add, ih,
        latest?, latest?, List.reverse_append, List.reverse_singleton, List.singleton_append,
        List.find?_cons]
      by_cases h : t.name = name <;> simp [h]

theorem names_of_tests_nodup : (ofTests tests).names.Nodup := by
  induction tests using List.reverseRecOn with
  | nil => exact List.nodup_nil
  | append_singleton tests t ih =>
      rw [ofTests, List.foldl_append, ← ofTests]
      exact names_add_nodup ih t

theorem mem_names_iff {m : CoverageMatrix} {name : String} :
    name ∈ m.names ↔ (m.find? name).isSome := by
  simp [names, find?]

/-- The names of a matrix are those that were added. -/
theorem names_of_tests_perm : (ofTests tests).names.Perm (tests.map (·.name)).dedup := by
  refine (List.perm_ext_iff_of_nodup (names_of_tests_nodup tests) (List.nodup_dedup _)).mpr
    fun name => ?_
  rw [mem_names_iff, find_of_tests, latest?, List.mem_dedup]
  simp

/-- Tests are counted by their names. -/
theorem countP_tests {m : CoverageMatrix} (h : m.names.Nodup) (p : CoveredTest → Bool) :
    m.tests.countP p = m.names.countP fun name => (m.find? name).any p := by
  rw [names, List.countP_map]
  refine List.countP_congr fun t ht => ?_
  rw [Function.comp_apply, (find_eq_some_iff h).mpr ⟨ht, rfl⟩, Option.any_some]

/-- The number of names whose last test has a property. -/
def count (p : CoveredTest → Bool) : Nat :=
  (tests.map (·.name)).dedup.countP fun name => (latest? tests name).any p

theorem countP_of_tests (p : CoveredTest → Bool) :
    (ofTests tests).tests.countP p = count tests p := by
  rw [countP_tests (names_of_tests_nodup tests), (names_of_tests_perm tests).countP_eq, count]
  simp only [find_of_tests]

/-- The tests that were added, split by their outcomes and by whether they execute a statement. -/
def tally (s : Place) : Counts where
  ef := count tests fun t => !t.passed && t.statements.contains s
  ep := count tests fun t => t.passed && t.statements.contains s
  nf := count tests fun t => !t.passed && !t.statements.contains s
  np := count tests fun t => t.passed && !t.statements.contains s

end Adding

/-- The counts of a statement split the tests of a matrix. -/
theorem counts_eq (m : CoverageMatrix) (s : Place) : m.counts s =
    ⟨m.tests.countP fun t => !t.passed && t.statements.contains s,
      m.tests.countP fun t => t.passed && t.statements.contains s,
      m.tests.countP fun t => !t.passed && !t.statements.contains s,
      m.tests.countP fun t => t.passed && !t.statements.contains s⟩ := by
  have hsplit : ∀ p : CoveredTest → Bool, m.tests.countP p =
      m.tests.countP (fun t => p t && t.statements.contains s) +
        m.tests.countP (fun t => p t && !t.statements.contains s) := fun p => by
    rw [List.countP_eq_countP_filter_add _ p (·.statements.contains s), List.countP_filter,
      List.countP_filter]
  simp only [counts, failing, passing]
  rw [hsplit fun t => !t.passed, hsplit fun t => t.passed]
  simp

theorem counts_split (m : CoverageMatrix) (s : Place) :
    (m.counts s).Split m.failing m.passing := by
  have hfailing : (m.counts s).ef + (m.counts s).nf = m.failing := by simp [counts]
  have hpassing : (m.counts s).ep + (m.counts s).np = m.passing := by simp [counts]
  refine ⟨⟨?_, ?_, ?_, ?_⟩, hfailing, hpassing⟩ <;> rw [counts_eq] <;> exact Int.natCast_nonneg _

theorem counts_of_tests (tests : List CoveredTest) (s : Place) :
    (ofTests tests).counts s = tally tests s := by
  rw [counts_eq]
  simp only [countP_of_tests]
  rfl

end CoverageMatrix

namespace Coverage

open Arithmetic

/-- Shares of the totals that lie between zero and them split the totals. -/
theorem split_of_scaled {c : Coverage} {ef ep : Int} (hef : 0 ≤ ef ∧ ef ≤ c.failing)
    (hep : 0 ≤ ep ∧ ep ≤ c.passing) :
    Counts.Split ⟨ef, ep, c.failing - ef, c.passing - ep⟩ c.failing c.passing where
  ef := hef.1
  ep := hep.1
  nf := sub_nonneg.mpr hef.2
  np := sub_nonneg.mpr hep.2
  failing_eq := add_sub_cancel _ _
  passing_eq := add_sub_cancel _ _

/-- No test executes a line that is not covered. -/
theorem split_of_uncovered {failing passing : Int} (hfailing : 0 ≤ failing)
    (hpassing : 0 ≤ passing) : Counts.Split ⟨0, 0, failing, passing⟩ failing passing :=
  ⟨⟨le_rfl, le_rfl, hfailing, hpassing⟩, zero_add _, zero_add _⟩

/-- What the totals are divided by. -/
theorem divisor_pos {total : Int} (h : 0 ≤ total) : 0 < if total = 0 then 1 else total := by
  split <;> omega

variable {c : Coverage}

section Exactly

/-- In exact arithmetic a share of the tests lies between none and all of them. -/
theorem scaled_exactly {tests : Int} (htests : 0 ≤ tests) {part : ℝ} (hpart : 0 ≤ part) :
    ∃ n, scaled tests (some part : Exact) = .ok n ∧ 0 ≤ n ∧ n ≤ tests := by
  have htests' : (0 : ℝ) ≤ tests := by exact_mod_cast htests
  have hrounded : 0 ≤ ⌊(tests : ℝ) * part + ((1 : Int) : ℝ) / ((2 : Int) : ℝ)⌋ :=
    Int.floor_nonneg.mpr (by positivity)
  refine ⟨min tests ⌊(tests : ℝ) * part + ((1 : Int) : ℝ) / ((2 : Int) : ℝ)⌋, ?_,
    le_min htests hrounded, min_le_left _ _⟩
  simp only [scaled, roundHalfUp, Exact.of_int_eq, Exact.mul_eq,
    Exact.ratio_eq (show (2 : Int) ≠ 0 by decide), Exact.add_eq, Exact.floor_eq, bind, Except.bind,
    pure, Except.pure]

/-- In exact arithmetic every estimate splits the totals. -/
theorem estimate_exactly (hfailing : 0 ≤ c.failing) (hpassing : 0 ≤ c.passing)
    (htotal : 0 ≤ c.total) (s : Place) :
    ∃ k, c.estimate Exact s = .ok k ∧ k.Split c.failing c.passing := by
  unfold estimate
  split
  · have hdivisor := divisor_pos htotal
    have hpart : (0 : ℝ) ≤ ((c.sizeOf s.file : Int) : ℝ) /
        ((if c.total = 0 then 1 else c.total : Int) : ℝ) :=
      div_nonneg (by positivity) (by exact_mod_cast hdivisor.le)
    obtain ⟨ef, hef, hefs⟩ := scaled_exactly hfailing hpart
    obtain ⟨ep, hep, heps⟩ := scaled_exactly hpassing hpart
    refine ⟨_, ?_, split_of_scaled hefs heps⟩
    simp only [share, Exact.ratio_eq hdivisor.ne', hef, hep, bind, Except.bind, pure, Except.pure]
  · exact ⟨_, rfl, split_of_uncovered hfailing hpassing⟩

end Exactly

section Doubles

open Binary64

/-- In doubles a share of the tests lies between none and all of them. -/
theorem scaled_in_doubles {tests n : Int} (htests : 0 ≤ tests) {part : Float}
    (hpart : IsFiniteAmount part) (h : scaled tests part = .ok n) : 0 ≤ n ∧ n ≤ tests := by
  obtain ⟨all, hall, h⟩ := bind_eq_ok h
  obtain ⟨rounded, hrounded, h⟩ := bind_eq_ok h
  obtain ⟨half, hhalf, hfloor⟩ := bind_eq_ok hrounded
  have hall := amount_of_int htests hall
  have hhalf := amount_of_ratio zero_le_one zero_le_two hhalf
  have hproduct := hall.amount.mul hpart.amount hall.finite hpart.finite
  have hnonneg : 0 ≤ rounded := by
    change (if _ then _ else if _ then _ else _) = _ at hfloor
    split at hfloor
    · cases hfloor
    split at hfloor
    · cases hfloor
    · cases hfloor
      exact (hproduct.add hhalf.amount).floor_nonneg
  cases h
  exact ⟨le_min htests hnonneg, min_le_left _ _⟩

theorem share_in_doubles (hfailing : 0 ≤ c.failing) (hpassing : 0 ≤ c.passing)
    (htotal : 0 ≤ c.total) {file : String} {k : Counts} (h : c.share Float file = .ok k) :
    k.Split c.failing c.passing := by
  obtain ⟨part, hpart, h⟩ := bind_eq_ok h
  obtain ⟨ef, hef, h⟩ := bind_eq_ok h
  obtain ⟨ep, hep, h⟩ := bind_eq_ok h
  have hpart := amount_of_ratio (Int.natCast_nonneg _) (divisor_pos htotal).le hpart
  cases h
  exact split_of_scaled (scaled_in_doubles hfailing hpart hef)
    (scaled_in_doubles hpassing hpart hep)

/-- In doubles every estimate that there is splits the totals. -/
theorem estimate_in_doubles (hfailing : 0 ≤ c.failing) (hpassing : 0 ≤ c.passing)
    (htotal : 0 ≤ c.total) {s : Place} {k : Counts} (h : c.estimate Float s = .ok k) :
    k.Split c.failing c.passing := by
  unfold estimate at h
  split at h
  · exact share_in_doubles hfailing hpassing htotal h
  · cases h
    exact split_of_uncovered hfailing hpassing

/-- No count of covered lines is below zero. -/
theorem counts_non_neg (hfailing : 0 ≤ c.failing) (hpassing : 0 ≤ c.passing)
    (htotal : 0 ≤ c.total) {s : Place} {k : Counts} (h : c.counts s = .ok k) :
    Metric.NonNeg k := by
  unfold counts at h
  split at h
  · cases h
    exact (CoverageMatrix.counts_split _ s).toNonNeg
  · exact (estimate_in_doubles hfailing hpassing htotal h).toNonNeg

/-- Nothing that is counted is below zero or above `2 ^ 400`. -/
structure Moderate (c : Coverage) : Prop where
  failing : 0 ≤ c.failing ∧ c.failing ≤ 2 ^ 400
  passing : 0 ≤ c.passing ∧ c.passing ≤ 2 ^ 400
  total : 0 ≤ c.total
  lines : ∀ file, c.sizeOf file ≤ 2 ^ 400
  tests : ∀ m ∈ c.matrix, m.tests.length ≤ 2 ^ 400

theorem scaled_defined {tests : Int} (htests : 0 ≤ tests ∧ tests ≤ 2 ^ 400) {part : Float}
    (hpart : IsBelow 1424 part) : ∃ n, scaled tests part = .ok n := by
  obtain ⟨all, hall, hallb⟩ := below_of_int htests.1 htests.2
  obtain ⟨half, hhalf, hhalfb⟩ :=
    below_of_ratio zero_le_one two_pos (show (1 : Int) ≤ 2 ^ 400 by decide +kernel)
  have hproduct : IsBelow 1826 (all * part) :=
    hallb.mul hpart (by decide) (by decide) (by decide) (by decide)
  have hsum : IsBelow 1828 (all * part + half) :=
    hproduct.add (hhalfb.mono (by decide)) (by decide) (by decide) (by decide)
  obtain ⟨n, hn⟩ := hsum.floor_defined (by decide)
  have hall' : ofInt tests = Except.ok all := hall
  have hhalf' : ratio 1 2 = Except.ok half := hhalf
  have hfloor : Arithmetic.floor (add (mul all part) half) = Except.ok n := hn
  refine ⟨min tests n, ?_⟩
  simp only [scaled, roundHalfUp, hall', hhalf', hfloor, bind, Except.bind, pure, Except.pure]

/-- Moderate coverage has estimates for its files. -/
theorem share_defined (h : c.Moderate) (file : String) : ∃ k, c.share Float file = .ok k := by
  obtain ⟨part, hpart, hpartb⟩ := below_of_ratio (Int.natCast_nonneg (c.sizeOf file))
    (divisor_pos h.total) (by exact_mod_cast h.lines file)
  obtain ⟨ef, hef⟩ := scaled_defined h.failing hpartb
  obtain ⟨ep, hep⟩ := scaled_defined h.passing hpartb
  refine ⟨⟨ef, ep, c.failing - ef, c.passing - ep⟩, ?_⟩
  have hpart' : ratio (c.sizeOf file) (if c.total = 0 then 1 else c.total) = Except.ok part := hpart
  simp only [share, hpart', hef, hep, bind, Except.bind, pure, Except.pure]

theorem moderate_of_split {k : Counts} {failing passing : Int} (h : k.Split failing passing)
    (hfailing : failing ≤ 2 ^ 400) (hpassing : passing ≤ 2 ^ 400) : Metric.Moderate k := by
  obtain ⟨⟨hef, hep, hnf, hnp⟩, hfailing', hpassing'⟩ := h
  exact ⟨⟨hef, hep, hnf, hnp⟩, by omega, by omega, by omega⟩

/-- Moderate coverage has moderate counts everywhere. -/
theorem counts_moderate (h : c.Moderate) (s : Place) :
    ∃ k, c.counts s = .ok k ∧ Metric.Moderate k := by
  unfold counts
  cases hmatrix : c.matrix with
  | some m =>
      have hfew : ∀ p : CoveredTest → Bool, (m.tests.countP p : Int) ≤ 2 ^ 400 := fun p => by
        have hlength := h.tests m hmatrix
        have hcount := m.tests.countP_le_length (p := p)
        exact_mod_cast hcount.trans hlength
      exact ⟨m.counts s, rfl, moderate_of_split (m.counts_split s) (hfew _) (hfew _)⟩
  | none =>
      have hdefined : ∃ k, c.estimate Float s = .ok k := by
        unfold estimate
        split
        · exact share_defined h s.file
        · exact ⟨_, rfl⟩
      obtain ⟨k, hk⟩ := hdefined
      exact ⟨k, hk, moderate_of_split
        (estimate_in_doubles h.failing.1 h.passing.1 h.total hk) h.failing.2 h.passing.2⟩

end Doubles

section Scoring

/-- A failure that is not about counts below zero. -/
def NotNegative (e : Failure) : Prop :=
  ∀ k, e ≠ Metric.negativeCounts k

/-- A computation does not fail because of counts below zero. -/
def Scorable {α : Type} (x : Except Failure α) : Prop :=
  ∀ e, x = .error e → NotNegative e

theorem number_not_negative (e : NumberFault) : NotNegative e.failure := by
  intro k h
  have hstart : (Metric.negativeCounts k).message.toList.head? = some 'S' := by
    simp [Metric.negativeCounts, String.toList_append, toString]
  rw [← h] at hstart
  cases e <;> simp [NumberFault.failure] at hstart

namespace Scorable

variable {α β : Type}

theorem number (x : Except NumberFault α) : Scorable (liftNumber x) := by
  rintro e h
  cases x with
  | ok a => cases h
  | error fault =>
      cases h
      exact number_not_negative fault

theorem ok (a : α) : Scorable (.ok a) := by
  rintro e ⟨⟩

theorem bind {x : Except Failure α} {f : α → Except Failure β} (hx : Scorable x)
    (hf : ∀ a, x = .ok a → Scorable (f a)) : Scorable (x >>= f) := by
  intro e h
  cases x with
  | error e' =>
      cases h
      exact hx _ rfl
  | ok a => exact hf a rfl e h

theorem mapM {f : α → Except Failure β} {xs : List α} (h : ∀ x ∈ xs, Scorable (f x)) :
    Scorable (xs.mapM f) := by
  induction xs with
  | nil => exact .ok _
  | cons x xs ih =>
      obtain ⟨hfirst, hothers⟩ := List.forall_mem_cons.mp h
      rw [List.mapM_cons]
      exact .bind hfirst fun _ _ => .bind (ih hothers) fun _ _ => .ok _

end Scorable

theorem score_scorable {m : Metric} {k : Counts} (h : Metric.NonNeg k) :
    Scorable (m.score k : Except Failure Float) := by
  rw [Metric.score, if_neg (by rw [Metric.non_neg_iff.mpr h]; decide)]
  exact .number _

/-- Ranking never meets a count below zero. -/
theorem rank_scorable (hfailing : 0 ≤ c.failing) (hpassing : 0 ≤ c.passing)
    (htotal : 0 ≤ c.total) (metric : Metric) (threshold : Float) :
    Scorable (c.rank metric threshold) := by
  have hplace : ∀ s, Scorable (c.scoreAt metric s) := fun s =>
    .bind (.number _) fun k hk =>
      .bind (score_scorable (counts_non_neg hfailing hpassing htotal (lift_number_eq_ok hk)))
        fun _ _ => .ok _
  have hmark : ∀ file mark, Scorable (c.scoreMark metric threshold file mark) := by
    intro file mark
    refine .bind (.number _) fun k hk => .bind (score_scorable
      (share_in_doubles hfailing hpassing htotal (lift_number_eq_ok hk)).toNonNeg) fun x _ => ?_
    split
    · exact .ok _
    · split
      · exact .ok _
      · rintro e ⟨⟩ k h
        cases congrArg Failure.kind h
  refine .bind (.mapM fun s _ => hplace s) fun scored _ => .bind ?_ fun _ _ => .ok _
  exact .bind (.mapM fun f _ => .mapM fun mark _ => hmark f.1 mark) fun _ _ => .ok _

end Scoring

/-- The counts of a statement split the tests. Test by test they are those of the failing and the
passing tests that execute the statement and of those that do not, each name counting as it was
added last. From totals that are not below zero they are estimated, and split the totals in exact
arithmetic, where every estimate is defined, as in doubles. So a ranking never fails because of
counts below zero. -/
theorem counts_split_tests (tests : List CoveredTest) (s : Place) {c : Coverage}
    (hfailing : 0 ≤ c.failing) (hpassing : 0 ≤ c.passing) (htotal : 0 ≤ c.total) :
    let m := CoverageMatrix.ofTests tests
    (m.counts s = CoverageMatrix.tally tests s ∧ (m.counts s).Split m.failing m.passing) ∧
      (∃ k, c.estimate Exact s = .ok k ∧ k.Split c.failing c.passing) ∧
      (∀ k, c.estimate Float s = .ok k → k.Split c.failing c.passing) ∧
      ∀ metric threshold,
        Scorable ((Coverage.ofMatrix m).rank metric threshold) ∧
        Scorable (c.rank metric threshold) := by
  intro m
  refine ⟨⟨CoverageMatrix.counts_of_tests tests s, CoverageMatrix.counts_split m s⟩,
    estimate_exactly hfailing hpassing htotal s,
    fun _ => estimate_in_doubles hfailing hpassing htotal, fun metric threshold => ⟨?_, ?_⟩⟩
  · have hfailing' : (0 : Int) ≤ m.failing := Int.natCast_nonneg _
    have hpassing' : (0 : Int) ≤ m.passing := Int.natCast_nonneg _
    exact rank_scorable hfailing' hpassing' (add_nonneg hfailing' hpassing') metric threshold
  · exact rank_scorable hfailing hpassing htotal metric threshold

/-- A test that is added again counts once, as it was added last. -/
theorem counts_split_tests_added_again :
    let tests : List CoveredTest :=
      [⟨"t", true, [⟨"a.py", 1⟩]⟩, ⟨"u", true, [⟨"a.py", 1⟩]⟩, ⟨"t", false, [⟨"a.py", 2⟩]⟩]
    let c : Coverage := .ofLines [("a.py", [1, 2])] 1 3 none
    (CoverageMatrix.ofTests tests).counts ⟨"a.py", 1⟩ = ⟨0, 1, 1, 0⟩ ∧
      (∃ k, c.estimate Exact ⟨"a.py", 1⟩ = .ok k ∧ k.Split 1 3) ∧
      Scorable (c.rank .tarantula 0) := by
  intro tests c
  obtain ⟨⟨hcounts, _⟩, hexact, _, hrank⟩ :=
    counts_split_tests tests ⟨"a.py", 1⟩ (c := c) (by decide) (by decide) (by decide)
  exact ⟨hcounts.trans (by decide), hexact, (hrank _ _).2⟩

end Coverage

end Mender
