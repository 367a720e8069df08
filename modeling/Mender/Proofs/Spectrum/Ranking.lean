import Mender.Proofs.Spectrum.Counts

/-!
# The ranking of covered lines

A ranking tells every covered line that scores at least the threshold, once, the most suspicious
first, and so does not depend on the order in which tests were added or files and lines are told
(`Coverage.rank_ignores_order`). The metrics score every spectrum with a number, so the order of a
ranking is a linear one, and no two lines are equal in it.
-/

namespace Mender

namespace SuspiciousStatement

/-- What a ranking is sorted by. -/
def rankKey (x : SuspiciousStatement) : ℤᵒᵈ ×ₗ String ×ₗ ℤ :=
  toLex (.toDual (Binary64.orderKey x.suspiciousness), toLex (x.place.file, x.place.line))

theorem ranked_before_iff {x y : SuspiciousStatement} :
    x.rankedBefore y ↔ x.rankKey ≤ y.rankKey := by
  simp only [rankedBefore, rankKey, Prod.Lex.toLex_le_toLex, OrderDual.toDual_lt_toDual,
    OrderDual.toDual_inj]
  split
  · rename_i hscores
    simp [hscores]
  · rename_i hscores
    split
    · rename_i hfiles
      simp [not_not.mp hscores, hfiles]
    · rename_i hfiles
      simp [not_not.mp hscores, not_not.mp hfiles]

/-- A statement comes before another: it is more suspicious or, if neither is, it is in an earlier
file or on an earlier line of the same one. -/
def Precedes (x y : SuspiciousStatement) : Prop :=
  y.suspiciousness < x.suspiciousness ∨
    (¬ x.suspiciousness < y.suspiciousness ∧ ¬ y.suspiciousness < x.suspiciousness) ∧
      (x.place.file < y.place.file ∨
        x.place.file = y.place.file ∧ x.place.line < y.place.line)

theorem precedes_iff {x y : SuspiciousStatement} (hx : x.suspiciousness.isNaN = false)
    (hy : y.suspiciousness.isNaN = false) : x.Precedes y ↔ x.rankKey < y.rankKey := by
  simp only [Precedes, rankKey, Prod.Lex.toLex_lt_toLex, OrderDual.toDual_lt_toDual,
    OrderDual.toDual_inj, Binary64.lt_iff_order_key_lt hx hy, Binary64.lt_iff_order_key_lt hy hx]
  refine or_congr_right (and_congr_left fun _ => ?_)
  rw [not_lt, not_lt, ← le_antisymm_iff, eq_comm]

/-- Sorted statements at different places precede each other. -/
theorem sorted_precedes {xs : List SuspiciousStatement}
    (hnumbers : ∀ x ∈ xs, x.suspiciousness.isNaN = false) (hplaces : (xs.map place).Nodup) :
    (xs.mergeSort rankedBefore).Pairwise Precedes := by
  have hsorted := @List.pairwise_mergeSort _ rankedBefore
    (fun x y z hxy hyz => by
      rw [ranked_before_iff] at hxy hyz ⊢
      exact hxy.trans hyz)
    (fun x y => by
      rw [Bool.or_eq_true, ranked_before_iff, ranked_before_iff]
      exact le_total _ _) xs
  have hdistinct := List.pairwise_map.mp
    (((List.mergeSort_perm xs rankedBefore).map place).nodup_iff.mpr hplaces)
  refine (hsorted.and hdistinct).imp_of_mem fun {x y} hx hy ⟨hle, hne⟩ => ?_
  rw [List.mem_mergeSort] at hx hy
  refine (precedes_iff (hnumbers x hx) (hnumbers y hy)).mpr
    (lt_of_le_of_ne (ranked_before_iff.mp hle) fun hkey => hne ?_)
  have hplace := congrArg (fun k => (ofLex (ofLex k).2)) hkey
  exact (Place.mk.injEq ..).mpr (Prod.mk.injEq .. ▸ hplace)

end SuspiciousStatement

namespace Coverage

variable {c c' : Coverage}

/-- A line is among the covered ones of its file. -/
def Covers (c : Coverage) (s : Place) : Prop :=
  s.line ∈ c.linesOf s.file

/-- Covered lines that integers tell, each file once and each of its lines once. -/
structure Plain (c : Coverage) : Prop where
  files : (c.files.map (·.1)).Nodup
  lines : ∀ f ∈ c.files, f.2.Nodup
  marks : c.marks = []

/-- A table has a line for a file if some entry of it has. -/
theorem mem_lines_in {files : List (String × List Int)} (h : (files.map (·.1)).Nodup)
    {file : String} {line : Int} :
    line ∈ linesIn files file ↔ files.any fun f => f.1 = file && f.2.contains line := by
  rw [List.any_eq_true, linesIn]
  cases hfind : files.find? (·.1 = file) with
  | none =>
      have hother := List.find?_eq_none.mp hfind
      simp only [decide_eq_true_eq] at hother
      simp only [Option.map_none, Option.getD_none, List.not_mem_nil, Bool.and_eq_true,
        decide_eq_true_eq, false_iff]
      rintro ⟨f, hf, hfile, _⟩
      exact hother f hf hfile
  | some f =>
      simp only [Option.map_some, Option.getD_some, Bool.and_eq_true, decide_eq_true_eq,
        List.contains_iff_mem]
      constructor
      · exact fun hline => ⟨f, ((Keyed.find_eq_some_iff h).mp hfind).1,
          ((Keyed.find_eq_some_iff h).mp hfind).2, hline⟩
      · rintro ⟨g, hg, hfile, hline⟩
        rw [(Keyed.find_eq_some_iff h).mpr ⟨hg, hfile⟩] at hfind
        rwa [← Option.some.inj hfind]

namespace Plain

variable (h : c.Plain)

include h

theorem mem_places {s : Place} : s ∈ c.places ↔ c.Covers s := by
  rw [Covers, show c.linesOf s.file = linesIn c.files s.file from rfl, mem_lines_in h.files]
  simp only [places, List.mem_flatMap, List.mem_map, List.any_eq_true, Bool.and_eq_true,
    decide_eq_true_eq, List.contains_iff_mem]
  constructor
  · rintro ⟨f, hf, line, hline, rfl⟩
    exact ⟨f, hf, rfl, hline⟩
  · rintro ⟨f, hf, hfile, hline⟩
    exact ⟨f, hf, s.line, hline, by rw [hfile]⟩

theorem places_nodup : c.places.Nodup := by
  refine List.nodup_flatMap.mpr ⟨fun f hf => ?_, ?_⟩
  · exact (h.lines f hf).map fun m n hmn => congrArg Place.line hmn
  · refine (List.pairwise_map.mp h.files).imp fun {f g} hne s hf hg => ?_
    obtain ⟨m, _, rfl⟩ := List.mem_map.mp hf
    obtain ⟨n, _, hn⟩ := List.mem_map.mp hg
    exact hne (congrArg Place.file hn).symm

theorem lines_of_nodup (file : String) : (c.linesOf file).Nodup := by
  rw [linesOf]
  cases hfind : c.files.find? (·.1 = file) with
  | none => exact List.nodup_nil
  | some f => exact h.lines f (List.mem_of_find?_eq_some hfind)

end Plain

section Scored

variable {metric : Metric} {threshold : Float} {s : Place} {x : SuspiciousStatement}
  {l : List SuspiciousStatement}

/-- A covered line with its counts and its score. -/
structure Scores (c : Coverage) (metric : Metric) (x : SuspiciousStatement) : Prop where
  covered : c.Covers x.place
  counts : c.counts x.place = .ok x.counts
  score : metric.score x.counts = .ok x.suspiciousness
  metric : x.metric = metric

/-- A list ranks the covered lines that score at least a threshold. -/
structure Ranked (c : Coverage) (metric : Metric) (threshold : Float)
    (l : List SuspiciousStatement) : Prop where
  mem : ∀ x, x ∈ l ↔ c.Scores metric x ∧ ¬ x.suspiciousness < threshold
  once : (l.map (·.place)).Nodup
  numbers : ∀ x ∈ l, x.suspiciousness.isNaN = false
  sorted : l.Pairwise SuspiciousStatement.Precedes

theorem score_at_eq_ok_iff : c.scoreAt metric s = .ok x ↔
    x.place = s ∧ c.counts s = .ok x.counts ∧ metric.score x.counts = .ok x.suspiciousness ∧
      x.metric = metric := by
  constructor
  · intro h
    obtain ⟨k, hk, h⟩ := bind_eq_ok h
    obtain ⟨score, hscore, h⟩ := bind_eq_ok h
    cases h
    exact ⟨rfl, lift_number_eq_ok hk, hscore, rfl⟩
  · rintro ⟨rfl, hcounts, hscore, rfl⟩
    simp only [scoreAt, hcounts, liftNumber, hscore, bind, Except.bind, pure, Except.pure]

theorem places_of_scored {scored : List SuspiciousStatement}
    (hscored : c.places.mapM (c.scoreAt metric) = .ok scored) :
    scored.map (·.place) = c.places := by
  have hplaces : scored.map (·.place) = c.places.map id :=
    map_of_map_m (fun _ _ hx => (score_at_eq_ok_iff.mp hx).1) hscored
  rwa [List.map_id] at hplaces

/-- The statements that score at least a threshold. -/
def reaching (threshold : Float) (xs : List SuspiciousStatement) : List SuspiciousStatement :=
  xs.filter fun x => !decide (x.suspiciousness < threshold)

namespace Plain

variable (h : c.Plain)

include h

/-- The covered lines are scored, and those that reach the threshold are sorted. -/
theorem rank_eq_ok_iff : c.rank metric threshold = .ok l ↔
    ∃ scored, c.places.mapM (c.scoreAt metric) = .ok scored ∧
      l = (reaching threshold scored).mergeSort SuspiciousStatement.rankedBefore := by
  have hmarks : c.scoreMarks metric threshold = .ok [] := by
    rw [scoreMarks, h.marks]
    rfl
  constructor
  · intro hrank
    obtain ⟨scored, hscored, hrank⟩ := bind_eq_ok hrank
    rw [hmarks] at hrank
    cases hrank
    exact ⟨scored, hscored, by rw [List.append_nil, reaching]⟩
  · rintro ⟨scored, hscored, rfl⟩
    rw [rank, hscored, hmarks]
    exact congrArg (fun xs => Except.ok (List.mergeSort xs _)) (List.append_nil _)

variable {scored : List SuspiciousStatement}

theorem mem_scored (hscored : c.places.mapM (c.scoreAt metric) = .ok scored) :
    x ∈ scored ↔ c.Scores metric x := by
  rw [mem_of_mapM hscored]
  constructor
  · rintro ⟨s, hs, hx⟩
    obtain ⟨rfl, hcounts, hscore, hmetric⟩ := score_at_eq_ok_iff.mp hx
    exact ⟨h.mem_places.mp hs, hcounts, hscore, hmetric⟩
  · rintro ⟨hcovered, hcounts, hscore, hmetric⟩
    exact ⟨x.place, h.mem_places.mpr hcovered,
      score_at_eq_ok_iff.mpr ⟨rfl, hcounts, hscore, hmetric⟩⟩

/-- What a ranking gives. -/
theorem ranked (hrank : c.rank metric threshold = .ok l) : c.Ranked metric threshold l := by
  obtain ⟨scored, hscored, rfl⟩ := h.rank_eq_ok_iff.mp hrank
  have hmem : ∀ x, x ∈ reaching threshold scored ↔
      c.Scores metric x ∧ ¬ x.suspiciousness < threshold := fun x => by
    rw [reaching, List.mem_filter, h.mem_scored hscored]
    simp
  have hplaces : (scored.map (·.place)).Nodup := places_of_scored hscored ▸ h.places_nodup
  have honce : ((reaching threshold scored).map (·.place)).Nodup :=
    hplaces.sublist (List.filter_sublist.map _)
  have hnumbers : ∀ x ∈ reaching threshold scored, x.suspiciousness.isNaN = false := fun x hx =>
    Metric.score_is_number ((hmem x).mp hx).1.score
  refine ⟨fun x => ?_, ((List.mergeSort_perm _ _).map _).nodup_iff.mpr honce, fun x hx => ?_,
    SuspiciousStatement.sorted_precedes hnumbers honce⟩
  · rw [List.mem_mergeSort, hmem]
  · exact hnumbers x (List.mem_mergeSort.mp hx)

/-- There is a ranking when every covered line has a score. -/
theorem rank_returns_iff (metric : Metric) (threshold : Float) :
    (∃ l, c.rank metric threshold = .ok l) ↔
      ∀ s, c.Covers s → ∃ x, c.Scores metric x ∧ x.place = s := by
  constructor
  · rintro ⟨l, hl⟩ s hs
    obtain ⟨scored, hscored, -⟩ := h.rank_eq_ok_iff.mp hl
    have hplace := places_of_scored hscored ▸ h.mem_places.mpr hs
    obtain ⟨x, hx, rfl⟩ := List.mem_map.mp hplace
    exact ⟨x, (h.mem_scored hscored).mp hx, rfl⟩
  · intro hall
    obtain ⟨scored, hscored⟩ := mapM_returns_iff.mpr fun s hs => by
      obtain ⟨x, hx, rfl⟩ := hall s (h.mem_places.mp hs)
      exact ⟨x, score_at_eq_ok_iff.mpr ⟨rfl, hx.counts, hx.score, hx.metric⟩⟩
    exact ⟨_, h.rank_eq_ok_iff.mpr ⟨scored, hscored, rfl⟩⟩

/-- Moderate coverage has a ranking. -/
theorem rank_returns (hmoderate : c.Moderate) (metric : Metric) (threshold : Float) :
    ∃ l, c.rank metric threshold = .ok l := by
  refine (h.rank_returns_iff metric threshold).mpr fun s hs => ?_
  obtain ⟨k, hk, hmod⟩ := counts_moderate hmoderate s
  obtain ⟨x, hx⟩ := Metric.score_defined metric hmod
  exact ⟨⟨s, x, metric, k⟩, ⟨hs, hk, hx, rfl⟩, rfl⟩

end Plain

end Scored

section Order

open CoverageMatrix

/-- Tests with one outcome that execute the same statements. -/
structure SameTest (t u : CoveredTest) : Prop where
  passed : t.passed = u.passed
  statements : ∀ s, s ∈ t.statements ↔ s ∈ u.statements

/-- Coverages of the same tests, added in whatever order and their statements met in whatever order,
or of the same lines, told in whatever order. -/
inductive SameUpToOrder : Coverage → Coverage → Prop
  | tests {tests tests' : List CoveredTest} {places places' : List Place}
      (same : ∀ name, Option.Rel SameTest (latest? tests name) (latest? tests' name))
      (met : places.Perm (ofTests tests).statements)
      (met' : places'.Perm (ofTests tests').statements) :
      SameUpToOrder (ofMatrixIn places (.ofTests tests)) (ofMatrixIn places' (.ofTests tests'))
  | lines {files files' : List (String × List Int)} {failing passing : Int} {total : Option Int}
      (once : (files.map (·.1)).Nodup)
      (same : UpToOrder (fun f g => f.1 = g.1 ∧ ∀ n, n ∈ f.2 ↔ n ∈ g.2) files files') :
      SameUpToOrder (.ofLines files failing passing total) (.ofLines files' failing passing total)

/-- What a coverage is made of: the statements that a test executed, as it was added last, or the
lines that are told of a file. -/
inductive MadeOf : Coverage → (Place → Prop) → Prop
  | tests {tests : List CoveredTest} {places : List Place}
      (met : places.Perm (ofTests tests).statements) :
      MadeOf (ofMatrixIn places (.ofTests tests)) fun s =>
        ∃ name t, latest? tests name = some t ∧ s ∈ t.statements
  | lines {files : List (String × List Int)} {failing passing : Int} {total : Option Int}
      (once : (files.map (·.1)).Nodup) :
      MadeOf (.ofLines files failing passing total) fun s =>
        ∃ f ∈ files, f.1 = s.file ∧ s.line ∈ f.2

/-- Two coverages have the same covered lines with the same counts. -/
structure Alike (c c' : Coverage) : Prop where
  left : c.Plain
  right : c'.Plain
  covers : ∀ s, c.Covers s ↔ c'.Covers s
  counts : ∀ s, c.counts s = c'.counts s

theorem names_add_line (s : Place) (files : List (String × List Int)) :
    (addLine s files).map (·.1) =
      if s.file ∈ files.map (·.1) then files.map (·.1) else files.map (·.1) ++ [s.file] := by
  induction files with
  | nil => rfl
  | cons f fs ih =>
      by_cases hf : f.1 = s.file
      · simp [addLine, hf]
      · simp only [addLine, if_neg hf, List.map_cons, ih, List.mem_cons, Ne.symm hf, false_or]
        split <;> rfl

theorem names_of_added_nodup (places : List Place) {files : List (String × List Int)}
    (h : (files.map (·.1)).Nodup) :
    ((places.foldl (fun fs s => addLine s fs) files).map (·.1)).Nodup := by
  induction places generalizing files with
  | nil => exact h
  | cons s places ih =>
      refine ih ?_
      rw [names_add_line]
      split
      · exact h
      · rename_i hnew
        exact List.nodup_append'.mpr ⟨h, List.nodup_singleton _, List.disjoint_singleton.mpr hnew⟩

theorem sorted_once_nodup (ns : List Int) : (sortedOnce ns).Nodup :=
  Keyed.nodup_erase_dups _

theorem names_sorted (files : List (String × List Int)) :
    (files.map fun f => (f.1, sortedOnce f.2)).map (·.1) = files.map (·.1) := by
  simp [Function.comp_def]

theorem plain_of_sorted {files : List (String × List Int)} (h : (files.map (·.1)).Nodup)
    (hfiles : c.files = files.map fun f => (f.1, sortedOnce f.2)) (hmarks : c.marks = []) :
    c.Plain where
  files := by rwa [hfiles, names_sorted]
  lines f hf := by
    rw [hfiles] at hf
    obtain ⟨g, _, rfl⟩ := List.mem_map.mp hf
    exact sorted_once_nodup _
  marks := hmarks

section Tests

variable {tests tests' : List CoveredTest}

theorem any_of_rel {t? u? : Option CoveredTest} (h : Option.Rel SameTest t? u?)
    {p : CoveredTest → Bool} (hp : ∀ t u, SameTest t u → p t = p u) : t?.any p = u?.any p := by
  cases h with
  | some h => exact hp _ _ h
  | none => rfl

theorem count_of_same
    (same : ∀ name, Option.Rel SameTest (latest? tests name) (latest? tests' name))
    {p : CoveredTest → Bool} (hp : ∀ t u, SameTest t u → p t = p u) :
    count tests p = count tests' p := by
  have hnames : (ofTests tests).names.Perm (ofTests tests').names := by
    refine (List.perm_ext_iff_of_nodup (names_of_tests_nodup _) (names_of_tests_nodup _)).mpr
      fun name => ?_
    have hknown : (latest? tests name).any (fun _ => true) = (latest? tests' name).any _ :=
      any_of_rel (same name) fun _ _ _ => rfl
    rw [Option.any_true, Option.any_true] at hknown
    rw [mem_names_iff, mem_names_iff, find_of_tests, find_of_tests, hknown]
  rw [count, count, ← (names_of_tests_perm tests).countP_eq, hnames.countP_eq,
    (names_of_tests_perm tests').countP_eq]
  exact List.countP_congr fun name _ => by rw [any_of_rel (same name) hp]

theorem tally_of_same
    (same : ∀ name, Option.Rel SameTest (latest? tests name) (latest? tests' name)) (s : Place) :
    tally tests s = tally tests' s := by
  have hcount : ∀ p : Bool → Bool → Bool,
      count tests (fun t => p t.passed (t.statements.contains s)) =
        count tests' fun t => p t.passed (t.statements.contains s) := fun p =>
    count_of_same same fun t u h => by
      have hmem : t.statements.contains s = u.statements.contains s := by
        rw [Bool.eq_iff_iff, List.contains_iff_mem, List.contains_iff_mem, h.statements]
      rw [h.passed, hmem]
  rw [tally, tally, hcount fun passed executes => !passed && executes,
    hcount fun passed executes => passed && executes,
    hcount fun passed executes => !passed && !executes,
    hcount fun passed executes => passed && !executes]

theorem covers_of_matrix {places : List Place} {m : CoverageMatrix}
    (met : places.Perm m.statements) {s : Place} :
    (ofMatrixIn places m).Covers s ↔ 0 < (m.counts s).ef + (m.counts s).ep := by
  rw [Covers, mem_lines_of_matrix_in, counts_pos_iff, ← mem_statements, met.mem_iff]

/-- The statements of the tests in a matrix are those of each name as it was added last. -/
theorem mem_statements_of_tests {s : Place} : s ∈ (ofTests tests).statements ↔
    ∃ name t, latest? tests name = some t ∧ s ∈ t.statements := by
  rw [mem_statements]
  constructor
  · rintro ⟨t, ht, hs⟩
    refine ⟨t.name, t, ?_, hs⟩
    rw [← find_of_tests, find_eq_some_iff (names_of_tests_nodup tests)]
    exact ⟨ht, rfl⟩
  · rintro ⟨name, t, ht, hs⟩
    rw [← find_of_tests, find_eq_some_iff (names_of_tests_nodup tests)] at ht
    exact ⟨t, ht.1, hs⟩

theorem plain_of_matrix (places : List Place) (m : CoverageMatrix) :
    (ofMatrixIn places m).Plain :=
  plain_of_sorted (names_of_added_nodup places (by simp)) rfl rfl

theorem alike_of_tests {places places' : List Place}
    (same : ∀ name, Option.Rel SameTest (latest? tests name) (latest? tests' name))
    (met : places.Perm (ofTests tests).statements)
    (met' : places'.Perm (ofTests tests').statements) :
    Alike (ofMatrixIn places (.ofTests tests)) (ofMatrixIn places' (.ofTests tests')) := by
  have hcounts : ∀ s, (ofTests tests).counts s = (ofTests tests').counts s := fun s => by
    rw [counts_of_tests, counts_of_tests, tally_of_same same]
  refine ⟨plain_of_matrix _ _, plain_of_matrix _ _, fun s => ?_,
    fun s => congrArg Except.ok (hcounts s)⟩
  rw [covers_of_matrix met, covers_of_matrix met', hcounts]

/-- A matrix with few tests and few statements gives moderate coverage. -/
theorem moderate_of_matrix {places : List Place} {m : CoverageMatrix}
    (htests : m.tests.length ≤ 2 ^ 400) (hplaces : places.length ≤ 2 ^ 400) :
    (ofMatrixIn places m).Moderate := by
  have hcount : ∀ p : CoveredTest → Bool, (m.tests.countP p : Int) ≤ 2 ^ 400 := fun p => by
    exact_mod_cast (m.tests.countP_le_length (p := p)).trans htests
  refine ⟨⟨Int.natCast_nonneg _, hcount _⟩, ⟨Int.natCast_nonneg _, hcount _⟩,
    add_nonneg (Int.natCast_nonneg _) (Int.natCast_nonneg _), fun file => ?_, fun m' hm' => ?_⟩
  · have hnodup : (((ofMatrixIn places m).linesOf file).map (Place.mk file)).Nodup :=
      ((plain_of_matrix places m).lines_of_nodup file).map fun _ _ h => congrArg Place.line h
    have hsub : ((ofMatrixIn places m).linesOf file).map (Place.mk file) ⊆ places := fun s hs => by
      obtain ⟨line, hline, rfl⟩ := List.mem_map.mp hs
      exact mem_lines_of_matrix_in.mp hline
    have hlength := (hnodup.subperm hsub).length_le
    rw [List.length_map] at hlength
    exact hlength.trans hplaces
  · rwa [← Option.some.inj hm']

end Tests

section Lines

variable {files files' : List (String × List Int)} {failing passing : Int} {total : Option Int}

theorem UpToOrder.map_perm {α β γ : Type} {R : α → β → Prop} {xs : List α} {ys : List β}
    (h : UpToOrder R xs ys) {f : α → γ} {g : β → γ} (hfg : ∀ x y, R x y → f x = g y) :
    (xs.map f).Perm (ys.map g) := by
  obtain ⟨zs, hperm, hrel⟩ := h
  have hmaps : List.Forall₂ (· = ·) (zs.map f) (ys.map g) :=
    List.forall₂_map_left_iff.mpr (List.forall₂_map_right_iff.mpr (hrel.imp hfg))
  rw [List.forall₂_eq_eq_eq] at hmaps
  exact hmaps ▸ hperm.map f

theorem lines_of_lines (file : String) :
    (ofLines files failing passing total).linesOf file = sortedOnce (linesIn files file) :=
  lines_in_sorted files file

theorem alike_of_lines (once : (files.map (·.1)).Nodup)
    (same : UpToOrder (fun f g => f.1 = g.1 ∧ ∀ n, n ∈ f.2 ↔ n ∈ g.2) files files') :
    Alike (.ofLines files failing passing total) (.ofLines files' failing passing total) := by
  have once' : (files'.map (·.1)).Nodup :=
    (UpToOrder.map_perm same fun f g h => h.1).nodup_iff.mp once
  have hlines : ∀ file n, n ∈ (ofLines files failing passing total).linesOf file ↔
      n ∈ (ofLines files' failing passing total).linesOf file := fun file n => by
    have hcontains : ∀ f g : String × List Int, (f.1 = g.1 ∧ ∀ n, n ∈ f.2 ↔ n ∈ g.2) →
        (f.1 = file && f.2.contains n : Bool) = (g.1 = file && g.2.contains n) := by
      rintro f g ⟨hname, hlines⟩
      rw [Bool.eq_iff_iff]
      simp [hname, hlines]
    rw [lines_of_lines, lines_of_lines, mem_sorted_once, mem_sorted_once, mem_lines_in once,
      mem_lines_in once', same.any_eq hcontains]
  have hplain : (ofLines files failing passing total).Plain := plain_of_sorted once rfl rfl
  have hplain' : (ofLines files' failing passing total).Plain := plain_of_sorted once' rfl rfl
  -- the lines of a file are told once each, so there are as many of them
  have hsize : ∀ file, (ofLines files failing passing total).sizeOf file =
      (ofLines files' failing passing total).sizeOf file := fun file => by
    have hperm := (List.perm_ext_iff_of_nodup (hplain.lines_of_nodup file)
      (hplain'.lines_of_nodup file)).mpr (hlines file)
    exact congrArg (· + 0) hperm.length_eq
  refine ⟨hplain, hplain', fun s => hlines _ _, fun s => ?_⟩
  have hcontains : ((ofLines files failing passing total).linesOf s.file).contains s.line =
      ((ofLines files' failing passing total).linesOf s.file).contains s.line := by
    rw [Bool.eq_iff_iff, List.contains_iff_mem, List.contains_iff_mem, hlines]
  show estimate Float _ s = estimate Float _ s
  rw [estimate, estimate, share, share, hcontains, hsize]
  rfl

end Lines

/-- The covered lines of a coverage are what it is made of. -/
theorem MadeOf.covers_iff {executed : Place → Prop} (h : c.MadeOf executed) (s : Place) :
    c.Covers s ↔ executed s := by
  cases h with
  | tests met =>
      rw [Covers, mem_lines_of_matrix_in, met.mem_iff, mem_statements_of_tests]
  | lines once =>
      rw [Covers, lines_of_lines, mem_sorted_once, mem_lines_in once]
      simp

theorem SameUpToOrder.alike (h : SameUpToOrder c c') : Alike c c' := by
  cases h with
  | tests same met met' => exact alike_of_tests same met met'
  | lines once same => exact alike_of_lines once same

variable {metric : Metric} {threshold : Float} {l l' : List SuspiciousStatement}

theorem Alike.symm (h : Alike c c') : Alike c' c :=
  ⟨h.right, h.left, fun s => (h.covers s).symm, fun s => (h.counts s).symm⟩

theorem Alike.scores (h : Alike c c') {x : SuspiciousStatement} :
    c.Scores metric x ↔ c'.Scores metric x := by
  constructor <;> rintro ⟨hcovered, hcounts, hscore, hmetric⟩
  · exact ⟨(h.covers _).mp hcovered, (h.counts _).symm.trans hcounts, hscore, hmetric⟩
  · exact ⟨(h.covers _).mpr hcovered, (h.counts _).trans hcounts, hscore, hmetric⟩

/-- Two rankings of the same lines are equal, as their order is linear. -/
theorem Ranked.eq (h : Alike c c') (hl : c.Ranked metric threshold l)
    (hl' : c'.Ranked metric threshold l') : l = l' := by
  have hmem : ∀ x, x ∈ l ↔ x ∈ l' := fun x => by rw [hl.mem, hl'.mem, h.scores]
  refine List.Perm.eq_of_pairwise (fun x y hx hy hxy hyx => ?_) hl.sorted hl'.sorted
    ((List.perm_ext_iff_of_nodup hl.once.of_map hl'.once.of_map).mpr hmem)
  have hxn := hl.numbers x hx
  have hyn := hl'.numbers y hy
  exact absurd ((SuspiciousStatement.precedes_iff hyn hxn).mp hyx)
    ((SuspiciousStatement.precedes_iff hxn hyn).mp hxy).not_gt

theorem Alike.rank_eq_ok (h : Alike c c') (hl : c.rank metric threshold = .ok l) :
    c'.rank metric threshold = .ok l := by
  have hall := (h.left.rank_returns_iff metric threshold).mp ⟨l, hl⟩
  obtain ⟨l', hl'⟩ := (h.right.rank_returns_iff metric threshold).mpr fun s hs =>
    (hall s ((h.covers s).mpr hs)).imp fun x hx => ⟨h.scores.mp hx.1, hx.2⟩
  rw [hl', (h.left.ranked hl).eq h (h.right.ranked hl')]

/-- Coverages of the same tests, or of the same lines, have the same ranking, in whatever order
these are told. It has each covered line that scores at least the threshold once and no other, in
the strict order of scores, files and lines, and the covered lines are those that a test executed or
that were told. There is a ranking when every covered line has a score, and so whenever nothing that
is counted is below zero or above `2 ^ 400`. -/
theorem rank_ignores_order (h : SameUpToOrder c c') (metric : Metric) (threshold : Float) :
    (∀ l, c.rank metric threshold = .ok l ↔ c'.rank metric threshold = .ok l) ∧
      (∀ l, c.rank metric threshold = .ok l → c.Ranked metric threshold l) ∧
      (∀ executed, c.MadeOf executed → ∀ s, c.Covers s ↔ executed s) ∧
      ((∃ l, c.rank metric threshold = .ok l) ↔
        ∀ s, c.Covers s → ∃ x, c.Scores metric x ∧ x.place = s) ∧
      (c.Moderate → ∃ l, c.rank metric threshold = .ok l) :=
  ⟨fun _ => ⟨h.alike.rank_eq_ok, h.alike.symm.rank_eq_ok⟩, fun _ => h.alike.left.ranked,
    fun _ hmade => hmade.covers_iff, h.alike.left.rank_returns_iff metric threshold,
    fun hmoderate => h.alike.left.rank_returns hmoderate metric threshold⟩

/-- The places of a ranking, when those that reach the threshold are met in its order. -/
theorem Plain.places_of_rank (h : c.Plain) {places : List Place}
    (hmet : (c.places.mapM (c.scoreAt metric)).toOption.map (fun scored =>
      ((reaching threshold scored).map (·.place),
        decide ((reaching threshold scored).Pairwise fun x y => x.rankedBefore y))) =
      some (places, true)) (hrank : c.rank metric threshold = .ok l) :
    l.map (·.place) = places := by
  obtain ⟨scored, hscored, rfl⟩ := h.rank_eq_ok_iff.mp hrank
  rw [hscored] at hmet
  obtain ⟨hplaces, hsorted⟩ := Prod.mk.inj (Option.some.inj hmet)
  rw [List.mergeSort_of_pairwise (of_decide_eq_true hsorted), hplaces]

/-- Two tests that are added in either order, the statements of one told in either order. The line
that only the failing test executes comes first, and the one that only the passing test executes is
covered and left out. -/
theorem rank_ignores_order_of_two_tests :
    let a : Place := ⟨"a.py", 1⟩
    let b : Place := ⟨"b.py", 2⟩
    let d : Place := ⟨"d.py", 3⟩
    let tests : List CoveredTest := [⟨"t", false, [b, a]⟩, ⟨"u", true, [a, d]⟩]
    let tests' : List CoveredTest := [⟨"u", true, [a, d]⟩, ⟨"t", false, [a, b]⟩]
    let c := ofMatrixIn [a, b, d] (ofTests tests)
    let c' := ofMatrixIn [d, b, a] (ofTests tests')
    c.Covers a ∧ c.Covers b ∧ c.Covers d ∧ ∃ l, c.rank .ochiai 0.5 = .ok l ∧
      c'.rank .ochiai 0.5 = .ok l ∧ l.map (·.place) = [b, a] := by
  intro a b d tests tests' c c'
  have same : ∀ name, Option.Rel SameTest (latest? tests name) (latest? tests' name) := by
    intro name
    by_cases ht : name = "t"
    · subst ht
      exact .some ⟨rfl, fun s => (List.Perm.swap a b []).mem_iff⟩
    by_cases hu : name = "u"
    · subst hu
      exact .some ⟨rfl, fun s => .rfl⟩
    · simp only [latest?, tests, tests', List.reverse_cons, List.reverse_nil, List.nil_append,
        List.cons_append, List.find?_cons, List.find?_nil, Ne.symm ht, Ne.symm hu, decide_false]
      exact .none
  have hmet : [a, b, d].Perm (ofTests tests).statements := by decide
  have hsame : SameUpToOrder c c' := .tests same hmet (by decide)
  obtain ⟨heq, -, hcovers, -, hreturns⟩ := rank_ignores_order hsame .ochiai 0.5
  obtain ⟨l, hl⟩ := hreturns (moderate_of_matrix (by decide +kernel) (by decide +kernel))
  have hplaces : l.map (·.place) = [b, a] :=
    (plain_of_matrix _ _).places_of_rank (by decide +kernel) ((heq l).mp hl)
  have hexecuted := hcovers _ (.tests hmet)
  exact ⟨(hexecuted a).mpr ⟨"t", _, rfl, by decide⟩, (hexecuted b).mpr ⟨"t", _, rfl, by decide⟩,
    (hexecuted d).mpr ⟨"u", _, rfl, by decide⟩, l, hl, (heq l).mp hl, hplaces⟩

end Order

end Coverage

end Mender
