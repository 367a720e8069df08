import Mathlib.Data.List.Induction
import Mender.Proofs.Failure
import Mender.Proofs.Spectrum.Matrix
import Mender.Spectrum.Report

/-!
# What a coverage report counts

A coverage report files labels under lines, and a label may name a test. The spectrum of a statement
counts the tests that the labels under it name (`CoverageReport.coverage_counts_named_tests`),
however often they name a test and in whatever order the report lists its files, lines and labels.
-/

namespace Mender

section Order

variable {α β : Type} {R : α → β → Prop} {xs : List α} {ys : List β} {p : α → Bool}
  {q : β → Bool}

/-- One list relates to another, element by element, once it is put in a suitable order. -/
def UpToOrder (R : α → β → Prop) (xs : List α) (ys : List β) : Prop :=
  ∃ zs, xs.Perm zs ∧ List.Forall₂ R zs ys

theorem any_of_forall₂ (h : List.Forall₂ R xs ys) (hpq : ∀ x y, R x y → p x = q y) :
    xs.any p = ys.any q := by
  induction h with
  | nil => rfl
  | cons hxy _ ih => rw [List.any_cons, List.any_cons, hpq _ _ hxy, ih]

theorem UpToOrder.any_eq (h : UpToOrder R xs ys) (hpq : ∀ x y, R x y → p x = q y) :
    xs.any p = ys.any q := by
  obtain ⟨zs, hperm, hrel⟩ := h
  exact hperm.any_eq.trans (any_of_forall₂ hrel hpq)

end Order

namespace CoverageReport

/-- The labels that a report has for a file, under lines that are told in writing. -/
structure LabeledFile where
  file : String
  contexts : List (String × List String)

/-- The data of a file has these labels, under lines that are told by integers. -/
structure Tells (data : String × Json) (f : LabeledFile) : Prop where
  file : data.1 = f.file
  executed : ∃ lines, fieldOr "executed_lines" (.array []) data.2 = .ok (.array lines) ∧
    ∀ v ∈ lines, lineOf v = .ok v
  contexts : fieldOr "contexts" (.object []) data.2 =
    .ok (.object (f.contexts.map fun c => (c.1, .array (c.2.map .string))))
  numbered : ∀ c ∈ f.contexts, ∃ n, Integer.read c.1 = .ok n

/-- A report has these labels. -/
def Lists (r : CoverageReport) (files : List LabeledFile) : Prop :=
  ∃ data, fieldOr "files" (.object []) r.data = .ok (.object data) ∧ List.Forall₂ Tells data files

/-- Some label under a statement names a test. -/
def names (files : List LabeledFile) (s : Place) (test : String) : Bool :=
  files.any fun f => f.file = s.file && f.contexts.any fun c =>
    (Integer.read c.1).toOption = some s.line && c.2.any (testOf? · = some test)

/-- The tests with an outcome, counted by outcome and by whether the labels under a statement name
them. -/
def spectrum (files : List LabeledFile) (outcomes : Outcomes) (s : Place) : Counts :=
  let ef : Nat := outcomes.countP fun o => !o.2 && names files s o.1
  let ep : Nat := outcomes.countP fun o => o.2 && names files s o.1
  ⟨ef, ep, (outcomes.countP (!·.2) : Nat) - ef, (outcomes.countP (·.2) : Nat) - ep⟩

/-- The same labels in another order of files, lines and labels. -/
def Reordered : List LabeledFile → List LabeledFile → Prop :=
  UpToOrder fun f g => f.file = g.file ∧
    UpToOrder (fun c d => c.1 = d.1 ∧ c.2.Perm d.2) f.contexts g.contexts

theorem names_of_reordered {files files' : List LabeledFile} (h : Reordered files files') :
    names files = names files' := by
  funext s test
  refine h.any_eq fun f g hfg => ?_
  obtain ⟨hfile, hcontexts⟩ := hfg
  rw [hfile, hcontexts.any_eq fun c d hcd => ?_]
  rw [hcd.1, hcd.2.any_eq]

section Reading

/-- An entry has the labels of a file, under the integers that tell the lines. -/
def Entry.Reads (e : Entry) (f : LabeledFile) : Prop :=
  e.file = f.file ∧
    List.Forall₂ (fun l c => Integer.read c.1 = .ok l.1 ∧ l.2 = c.2) e.labels f.contexts

theorem labels_of_strings (labels : List String) :
    labelsOf (.array (labels.map .string)) = .ok labels := by
  show (labels.map Json.string).mapM labelOf = .ok labels
  rw [mapM_eq_ok_iff, List.map_map]
  rfl

theorem entry_of_tells {data : String × Json} {f : LabeledFile} (h : Tells data f) :
    ∃ e, entryOf data = .ok e ∧ e.Reads f := by
  obtain ⟨lines, hexecuted, hlines⟩ := h.executed
  have hlabels : List.Forall₂
      (fun (j : String × Json) (c : String × List String) => ∃ l : Int × List String,
        (do let line ← Integer.read j.1; return (line, ← labelsOf j.2)) = Except.ok l ∧
          Integer.read c.1 = .ok l.1 ∧ l.2 = c.2)
      (f.contexts.map fun c => (c.1, .array (c.2.map .string))) f.contexts := by
    refine List.forall₂_map_left_iff.mpr (List.forall₂_same.mpr fun c hc => ?_)
    obtain ⟨n, hn⟩ := h.numbered c hc
    refine ⟨(n, c.2), ?_, hn, rfl⟩
    rw [hn, labels_of_strings]
    rfl
  obtain ⟨labels, hmap, hread⟩ := mapM_ok_of_forall₂ hlabels
  refine ⟨⟨data.1, Json.eachOnce lines, labels⟩, ?_, h.file, hread⟩
  have hitems : lines.mapM lineOf = .ok lines := mapM_ok_self hlines
  simp only [bind, Except.bind, pure, Except.pure] at hmap
  simp only [entryOf, hexecuted, h.contexts, itemsOf, fieldsOf, hitems, hmap, bind, Except.bind,
    pure, Except.pure]

theorem entries_of_lists {r : CoverageReport} {files : List LabeledFile} (h : r.Lists files) :
    ∃ es, r.entries = .ok es ∧ List.Forall₂ Entry.Reads es files := by
  obtain ⟨data, hdata, htells⟩ := h
  obtain ⟨es, hes, hreads⟩ := mapM_ok_of_forall₂ (htells.imp fun _ _ => entry_of_tells)
  refine ⟨es, ?_, hreads⟩
  rw [entries, hdata]
  exact hes

theorem names_eq_any {es : List Entry} {files : List LabeledFile}
    (h : List.Forall₂ Entry.Reads es files) (s : Place) (test : String) :
    names files s test = (filed es).any fun e => e.1 = s && testOf? e.2 = some test := by
  rw [filed, List.any_flatMap]
  refine (any_of_forall₂ h fun e f hef => ?_).symm
  obtain ⟨hfile, hlabels⟩ := hef
  obtain ⟨sfile, sline⟩ := s
  by_cases hs : f.file = sfile
  · simp only [List.any_flatMap, List.any_map, hs, decide_true, Bool.true_and]
    refine any_of_forall₂ hlabels fun l c hlc => ?_
    rw [hlc.1, hlc.2]
    by_cases hline : l.1 = sline <;>
      simp [Function.comp_def, hfile, hs, hline, Except.toOption]
  · simp [List.any_flatMap, Function.comp_def, hfile, hs]

end Reading

/-- The statements that a test is known to execute. -/
def executedBy (m : CoverageMatrix) (test : String) : List Place :=
  ((m.find? test).map (·.statements)).getD []

section Filing

variable {outcomes : Outcomes} {filed : List (Place × String)} {entry : Place × String}
  {m : CoverageMatrix}

/-- What a matrix knows of the tests with an outcome when labels were filed. -/
structure Describes (outcomes : Outcomes) (filed : List (Place × String)) (m : CoverageMatrix) :
    Prop where
  nodup : m.names.Nodup
  /-- The tests that some label names are known with their outcomes, and no others. -/
  known : ∀ test, (m.find? test).map (·.passed) =
    (outcome? outcomes test).filter fun _ => filed.any (testOf? ·.2 = some test)
  /-- A test executes the statements under the labels that name it. -/
  executes : ∀ test s, outcome? outcomes test ≠ none →
    (s ∈ executedBy m test ↔ filed.any fun e => e.1 = s && testOf? e.2 = some test)

theorem describes_empty : Describes outcomes [] .empty where
  nodup := List.nodup_nil
  known _ := by simp [CoverageMatrix.empty, CoverageMatrix.find?]
  executes _ _ _ := by simp [executedBy, CoverageMatrix.empty, CoverageMatrix.find?]

/-- A label that names no test with an outcome changes nothing. -/
theorem Describes.skip (h : Describes outcomes filed m)
    (hskip : ∀ test, testOf? entry.2 = some test → outcome? outcomes test = none) :
    Describes outcomes (filed ++ [entry]) m where
  nodup := h.nodup
  known test := by
    rw [h.known]
    by_cases htest : testOf? entry.2 = some test
    · simp [hskip test htest]
    · simp [htest]
  executes test s hout := by
    have htest : testOf? entry.2 ≠ some test := fun htest => hout (hskip test htest)
    rw [h.executes test s hout]
    simp [htest]

theorem find_execute (m : CoverageMatrix) (test : String) (passed : Bool) (s : Place)
    (name : String) : (execute m test passed s).find? name =
      if test = name then
        some ⟨test, passed,
          if (executedBy m test).contains s then executedBy m test else executedBy m test ++ [s]⟩
      else m.find? name :=
  m.find_add _ name

theorem mem_executed_by_execute {test : String} {passed : Bool} {s s' : Place} :
    s' ∈ executedBy (execute m test passed s) test ↔ s' ∈ executedBy m test ∨ s = s' := by
  rw [executedBy, find_execute, if_pos rfl]
  by_cases hs : s ∈ executedBy m test
  · simpa [hs] using fun heq : s = s' => heq ▸ hs
  · simp [hs, eq_comm]

/-- A test executes the statement under a label that names it. -/
theorem Describes.execute (h : Describes outcomes filed m) {test : String} {passed : Bool}
    (htest : testOf? entry.2 = some test) (hout : outcome? outcomes test = some passed) :
    Describes outcomes (filed ++ [entry]) (execute m test passed entry.1) where
  nodup := CoverageMatrix.names_add_nodup h.nodup _
  known name := by
    rw [find_execute]
    by_cases hname : test = name
    · subst hname
      simp [htest, hout, Option.filter]
    · rw [if_neg hname, h.known name]
      simp [htest, hname]
  executes name s hknown := by
    by_cases hname : test = name
    · subst hname
      rw [mem_executed_by_execute, h.executes test s hknown]
      simp [htest]
    · rw [executedBy, find_execute, if_neg hname, ← executedBy, h.executes name s hknown]
      simp [htest, hname]

theorem matrix_describes (outcomes : Outcomes) (filed : List (Place × String)) :
    Describes outcomes filed (matrixOf outcomes filed) := by
  -- from the end, where the label that is filed last changes what is known
  induction filed using List.reverseRecOn with
  | nil => exact describes_empty
  | append_singleton filed entry ih =>
      rw [matrixOf, List.foldl_append, ← matrixOf, List.foldl_cons, List.foldl_nil]
      split
      · rename_i hnone
        exact ih.skip fun test htest => by rw [hnone] at htest; cases htest
      · rename_i test htest
        split
        · rename_i hnone
          exact ih.skip fun test' htest' => by rwa [← Option.some.inj (htest.symm.trans htest')]
        · rename_i passed hout
          exact ih.execute htest hout

end Filing

section Idle

variable {outcomes : Outcomes} {m : CoverageMatrix}

/-- A test without recorded statements is added unless it is known. -/
theorem find_with_idle_tests (outcomes : Outcomes) (m : CoverageMatrix) (test : String) :
    (withIdleTests outcomes m).find? test =
      (m.find? test).or ((outcome? outcomes test).map fun passed => ⟨test, passed, []⟩) := by
  induction outcomes generalizing m with
  | nil => simp [withIdleTests, outcome?]
  | cons o outcomes ih =>
      rw [withIdleTests, List.foldl_cons, ← withIdleTests, ih]
      have hrest : o.1 ≠ test → outcome? (o :: outcomes) test = outcome? outcomes test :=
        fun hne => by simp [outcome?, hne]
      cases hfind : m.find? o.1 with
      | some t =>
          rw [if_pos (by simp)]
          by_cases htest : o.1 = test
          · simp [← htest, hfind]
          · rw [hrest htest]
      | none =>
          rw [if_neg (by simp), m.find_add]
          by_cases htest : o.1 = test
          · simp [← htest, hfind, outcome?]
          · rw [if_neg htest, hrest htest]

theorem names_with_idle_tests_nodup (outcomes : Outcomes) (h : m.names.Nodup) :
    (withIdleTests outcomes m).names.Nodup := by
  induction outcomes generalizing m with
  | nil => exact h
  | cons o outcomes ih =>
      rw [withIdleTests, List.foldl_cons, ← withIdleTests]
      split
      · exact ih h
      · exact ih (CoverageMatrix.names_add_nodup h _)

end Idle

section Counting

variable {outcomes : Outcomes} {filed : List (Place × String)} {m : CoverageMatrix}

theorem mem_iff_outcome (hout : (outcomes.map (·.1)).Nodup) {test : String} {passed : Bool} :
    (test, passed) ∈ outcomes ↔ outcome? outcomes test = some passed := by
  simp [outcome?, Keyed.find_eq_some_iff hout]

/-- Among all tests each has its outcome. -/
theorem Describes.outcome_of_all (h : Describes outcomes filed m) (test : String) :
    ((withIdleTests outcomes m).find? test).map (·.passed) = outcome? outcomes test := by
  have hknown := h.known test
  rw [find_with_idle_tests]
  cases hfind : m.find? test with
  | none => simp [Function.comp_def]
  | some t =>
      rw [hfind, Option.map_some, eq_comm, Option.filter_eq_some_iff] at hknown
      exact hknown.1.symm

/-- Among all tests each executes the statements under the labels that name it. -/
theorem Describes.executed_of_all (h : Describes outcomes filed m) {t : CoveredTest}
    (ht : t ∈ (withIdleTests outcomes m).tests) (s : Place) :
    s ∈ t.statements ↔ filed.any fun e => e.1 = s && testOf? e.2 = some t.name := by
  have hdistinct := names_with_idle_tests_nodup outcomes h.nodup
  have hfind := (CoverageMatrix.find_eq_some_iff hdistinct).mpr ⟨ht, rfl⟩
  have hout : outcome? outcomes t.name ≠ none := by
    rw [← h.outcome_of_all, hfind]
    simp
  -- a test that was added because no label names it executes nothing, as the labels say
  rw [← h.executes t.name s hout, executedBy]
  rw [find_with_idle_tests] at hfind
  cases hknown : m.find? t.name with
  | none =>
      rw [hknown, Option.none_or] at hfind
      obtain ⟨passed, _, hidle⟩ := Option.map_eq_some_iff.mp hfind
      have hnone : t.statements = [] := (congrArg CoveredTest.statements hidle).symm
      simp [hnone]
  | some u =>
      rw [hknown, Option.some_or] at hfind
      rw [Option.some.inj hfind]
      rfl

/-- The tests are those with an outcome. -/
theorem Describes.perm_outcomes (h : Describes outcomes filed m)
    (hout : (outcomes.map (·.1)).Nodup) :
    ((withIdleTests outcomes m).tests.map fun t => (t.name, t.passed)).Perm outcomes := by
  have hnames := names_with_idle_tests_nodup outcomes h.nodup
  have hleft : (((withIdleTests outcomes m).tests.map fun t => (t.name, t.passed)).map
      (·.1)).Nodup := by
    rw [List.map_map]
    exact hnames
  refine (List.perm_ext_iff_of_nodup hleft.of_map hout.of_map).mpr fun ⟨test, passed⟩ => ?_
  rw [mem_iff_outcome hout, ← h.outcome_of_all, Option.map_eq_some_iff]
  simp [CoverageMatrix.find_eq_some_iff hnames, and_assoc]

/-- Tests are counted by what they did as outcomes are by the labels. -/
theorem Describes.countP_tests (h : Describes outcomes filed m)
    (hout : (outcomes.map (·.1)).Nodup) (s : Place) (p : Bool → Bool → Bool) :
    (withIdleTests outcomes m).tests.countP (fun t => p t.passed (t.statements.contains s)) =
      outcomes.countP fun o =>
        p o.2 (filed.any fun e => e.1 = s && testOf? e.2 = some o.1) := by
  rw [← (h.perm_outcomes hout).countP_eq, List.countP_map]
  refine List.countP_congr fun t ht => ?_
  have hexec : t.statements.contains s =
      filed.any fun e => e.1 = s && testOf? e.2 = some t.name := by
    rw [Bool.eq_iff_iff, List.contains_iff_mem]
    exact h.executed_of_all ht s
  rw [hexec]
  rfl

end Counting

section Reports

variable {r : CoverageReport} {files : List LabeledFile} {es : List Entry} {outcomes : Outcomes}

/-- A report with a label that names a test with an outcome is read test by test. -/
theorem coverage_of_matrix (hout : (outcomes.map (·.1)).Nodup) (failing passing : Int)
    {o : String × Bool} (ho : o ∈ outcomes)
    (hlabel : (filed es).any (testOf? ·.2 = some o.1)) :
    coverageOf es outcomes failing passing =
      .ofMatrix (withIdleTests outcomes (matrixOf outcomes (filed es))) := by
  have hknown := (matrix_describes outcomes (filed es)).known o.1
  rw [(mem_iff_outcome hout).mp ho, Option.filter_some, if_pos hlabel] at hknown
  have hsome : (matrixOf outcomes (filed es)).tests ≠ [] := fun hnil => by
    rw [CoverageMatrix.find?, hnil] at hknown
    cases hknown
  rw [coverageOf, if_pos (by simpa using hsome)]

/-- The counts of the matrix are those of the labels. -/
theorem counts_of_entries (hreads : List.Forall₂ Entry.Reads es files)
    (hout : (outcomes.map (·.1)).Nodup) (s : Place) :
    (withIdleTests outcomes (matrixOf outcomes (filed es))).counts s =
      spectrum files outcomes s := by
  have hcount := (matrix_describes outcomes (filed es)).countP_tests hout s
  simp only [← names_eq_any hreads] at hcount
  simp only [CoverageMatrix.counts, CoverageMatrix.failing, CoverageMatrix.passing, spectrum]
  rw [hcount fun passed executes => !passed && executes, hcount fun passed executes =>
    passed && executes, hcount fun passed _ => !passed, hcount fun passed _ => passed]

/-- A report is read test by test, with the counts of its labels, if one of them names a test with
an outcome. -/
theorem coverage_of_lists (hr : r.Lists files) (hout : (outcomes.map (·.1)).Nodup)
    (hnamed : ∃ o ∈ outcomes, ∃ s, names files s o.1) (failing passing : Int) :
    ∃ m, r.coverage outcomes failing passing = .ok (.ofMatrix m) ∧
      ∀ s, m.counts s = spectrum files outcomes s := by
  obtain ⟨es, hes, hreads⟩ := entries_of_lists hr
  obtain ⟨o, ho, s, hname⟩ := hnamed
  have hlabel : (filed es).any (testOf? ·.2 = some o.1) := by
    rw [names_eq_any hreads] at hname
    obtain ⟨e, he, hboth⟩ := List.any_eq_true.mp hname
    exact List.any_eq_true.mpr ⟨e, he, (Bool.and_eq_true_iff.mp hboth).2⟩
  refine ⟨_, ?_, counts_of_entries hreads hout⟩
  rw [coverage, hes]
  exact congrArg Except.ok (coverage_of_matrix hout failing passing ho hlabel)

theorem spectrum_of_reordered {files' : List LabeledFile} (h : Reordered files files') :
    spectrum files outcomes = spectrum files' outcomes := by
  funext s
  rw [spectrum, names_of_reordered h, ← spectrum]

/-- A coverage report whose lines are told by integers, some label of which names a test with an
outcome, gives a matrix that counts the tests by name: at every statement those that some label
under it names, and all others, whether or not they executed anything, as not executing it. The
covered lines are those that some test executes. The order in which a report lists files, lines and
labels does not matter. -/
theorem coverage_counts_named_tests (hr : r.Lists files) (hout : (outcomes.map (·.1)).Nodup)
    (hnamed : ∃ o ∈ outcomes, ∃ s, names files s o.1) (failing passing : Int) :
    ∃ m, r.coverage outcomes failing passing = .ok (.ofMatrix m) ∧
      (∀ s, m.counts s = spectrum files outcomes s) ∧
      (∀ s, s.line ∈ (Coverage.ofMatrix m).linesOf s.file ↔
        0 < (m.counts s).ef + (m.counts s).ep) ∧
      ∀ r' files', Lists r' files' → Reordered files files' →
        ∃ m', r'.coverage outcomes failing passing = .ok (.ofMatrix m') ∧ m'.counts = m.counts := by
  obtain ⟨m, hm, hcounts⟩ := coverage_of_lists hr hout hnamed failing passing
  refine ⟨m, hm, hcounts, fun s => Coverage.mem_lines_of_matrix, fun r' files' hr' hsame => ?_⟩
  have hnamed' : ∃ o ∈ outcomes, ∃ s, names files' s o.1 := names_of_reordered hsame ▸ hnamed
  obtain ⟨m', hm', hcounts'⟩ := coverage_of_lists hr' hout hnamed' failing passing
  refine ⟨m', hm', funext fun s => ?_⟩
  rw [hcounts', hcounts, spectrum_of_reordered hsame]

end Reports

/-- A file whose first line two tests execute, one of them again on the second. -/
def twoTests : LabeledFile :=
  ⟨"a.py", [("1", ["t|run", "u|setup", "t|teardown", ""]), ("2", ["t|run"])]⟩

/-- The report of that file. -/
def twoTestsReport : CoverageReport :=
  ⟨.object [("files", .object [("a.py", .object [
    ("executed_lines", .array [.int 1, .int 2]),
    ("contexts", .object [
      ("1", .array [.string "t|run", .string "u|setup", .string "t|teardown", .string ""]),
      ("2", .array [.string "t|run"])])])])]⟩

theorem two_tests_lists : twoTestsReport.Lists [twoTests] := by
  have hone : Integer.read "1" = .ok 1 := rfl
  have htwo : Integer.read "2" = .ok 2 := rfl
  refine ⟨_, rfl, .cons ⟨rfl, ⟨_, rfl, by simp [lineOf]⟩, rfl, fun c hc => ?_⟩ .nil⟩
  obtain rfl | rfl : c = _ ∨ c = _ := by simpa [twoTests] using hc
  · exact ⟨1, hone⟩
  · exact ⟨2, htwo⟩

theorem coverage_counts_two_tests :
    ∃ m, twoTestsReport.coverage [("t", false), ("u", true), ("v", true)] 0 0 =
      .ok (.ofMatrix m) ∧ m.counts ⟨"a.py", 1⟩ = ⟨1, 1, 0, 1⟩ ∧
        m.counts ⟨"a.py", 2⟩ = ⟨1, 0, 0, 2⟩ := by
  have hout : (([("t", false), ("u", true), ("v", true)] : Outcomes).map (·.1)).Nodup := by decide
  obtain ⟨m, hm, hcounts, _⟩ := coverage_counts_named_tests two_tests_lists hout
    ⟨("t", false), by decide, ⟨"a.py", 1⟩, by decide⟩ 0 0
  exact ⟨m, hm, by rw [hcounts]; decide, by rw [hcounts]; decide⟩

end CoverageReport

end Mender
