import Mender.Proofs.Keyed
import Mender.Spectrum.Coverage

/-!
# Coverage test by test

What a coverage matrix knows of a test is found by the test's name, and the lines that it covers are
those that some test executes (`Coverage.mem_lines_of_matrix`).
-/

namespace Mender

namespace CoverageMatrix

theorem insert_test_eq_put (t : CoveredTest) (tests : List CoveredTest) :
    insertTest t tests = Keyed.put (·.name) t tests := by
  induction tests with
  | nil => rfl
  | cons u us ih => rw [insertTest, Keyed.put, ih]

/-- The names of the tests, in order. -/
def names (m : CoverageMatrix) : List String :=
  m.tests.map (·.name)

/-- What is known of a name after a test was added. -/
theorem find_add (m : CoverageMatrix) (t : CoveredTest) (name : String) :
    (m.add t).find? name = if t.name = name then some t else m.find? name := by
  rw [find?, add, insert_test_eq_put]
  exact Keyed.find_put (·.name) t name m.tests

theorem names_add_nodup {m : CoverageMatrix} (h : m.names.Nodup) (t : CoveredTest) :
    (m.add t).names.Nodup := by
  rw [names, add, insert_test_eq_put]
  exact Keyed.nodup_put h t

theorem find_eq_some_iff {m : CoverageMatrix} (h : m.names.Nodup) {name : String}
    {t : CoveredTest} : m.find? name = some t ↔ t ∈ m.tests ∧ t.name = name :=
  Keyed.find_eq_some_iff h

theorem mem_statements {m : CoverageMatrix} {s : Place} :
    s ∈ m.statements ↔ ∃ t ∈ m.tests, s ∈ t.statements := by
  rw [statements, List.mem_eraseDups, List.mem_flatMap]

/-- A statement is counted when some test executes it. -/
theorem counts_pos_iff {m : CoverageMatrix} {s : Place} :
    0 < (m.counts s).ef + (m.counts s).ep ↔ ∃ t ∈ m.tests, s ∈ t.statements := by
  have hef : 0 < m.tests.countP (fun t => !t.passed && t.statements.contains s) ↔
      ∃ t ∈ m.tests, t.passed = false ∧ s ∈ t.statements := by
    simp [List.countP_pos_iff]
  have hep : 0 < m.tests.countP (fun t => t.passed && t.statements.contains s) ↔
      ∃ t ∈ m.tests, t.passed = true ∧ s ∈ t.statements := by
    simp [List.countP_pos_iff]
  calc 0 < (m.counts s).ef + (m.counts s).ep
    _ ↔ 0 < m.tests.countP (fun t => !t.passed && t.statements.contains s) ∨
        0 < m.tests.countP (fun t => t.passed && t.statements.contains s) := by
      simp only [counts]
      omega
    _ ↔ ∃ t ∈ m.tests, s ∈ t.statements := by
      rw [hef, hep]
      constructor
      · rintro (⟨t, ht, _, hs⟩ | ⟨t, ht, _, hs⟩) <;> exact ⟨t, ht, hs⟩
      · rintro ⟨t, ht, hs⟩
        cases hpassed : t.passed with
        | false => exact .inl ⟨t, ht, hpassed, hs⟩
        | true => exact .inr ⟨t, ht, hpassed, hs⟩

end CoverageMatrix

theorem mem_sorted_once {n : Int} {ns : List Int} : n ∈ sortedOnce ns ↔ n ∈ ns := by
  rw [sortedOnce, List.mem_eraseDups, List.mem_mergeSort]

namespace Coverage

/-- The lines that a table has for a file, none for a file that it does not have. -/
def linesIn (files : List (String × List Int)) (file : String) : List Int :=
  ((files.find? (·.1 = file)).map (·.2)).getD []

/-- A line is added to the lines of its file. -/
theorem lines_in_add_line (s : Place) (files : List (String × List Int)) (file : String) :
    linesIn (addLine s files) file =
      if s.file = file then linesIn files file ++ [s.line] else linesIn files file := by
  induction files with
  | nil => by_cases h : s.file = file <;> simp [linesIn, addLine, h]
  | cons f fs ih =>
      simp only [linesIn] at ih
      by_cases hf : f.1 = s.file
      · by_cases h : s.file = file <;> simp [linesIn, addLine, hf, h]
      · by_cases h : f.1 = file
        · have hs : s.file ≠ file := fun heq => hf (h.trans heq.symm)
          simp [linesIn, addLine, h, hs, hs.symm]
        · simp [linesIn, addLine, hf, h, ih]

theorem mem_lines_in_foldl {places : List Place} {files : List (String × List Int)}
    {file : String} {line : Int} :
    line ∈ linesIn (places.foldl (fun fs s => addLine s fs) files) file ↔
      line ∈ linesIn files file ∨ (⟨file, line⟩ : Place) ∈ places := by
  induction places generalizing files with
  | nil => simp
  | cons s places ih =>
      rw [List.foldl_cons, ih, lines_in_add_line, List.mem_cons, ← or_assoc]
      refine or_congr_left ?_
      obtain ⟨sfile, sline⟩ := s
      by_cases h : sfile = file
      · simp [h]
      · simp [h, Ne.symm h]

/-- The lines of a file are sorted like those of every file. -/
theorem lines_in_sorted (files : List (String × List Int)) (file : String) :
    linesIn (files.map fun f => (f.1, sortedOnce f.2)) file = sortedOnce (linesIn files file) := by
  simp only [linesIn, List.find?_map, Function.comp_def]
  cases files.find? (·.1 = file) <;> simp [sortedOnce]

/-- The coverage of a matrix whose statements are met in some order. -/
def ofMatrixIn (places : List Place) (m : CoverageMatrix) : Coverage :=
  let files := places.foldl (fun fs s => addLine s fs) []
  ⟨files.map fun f => (f.1, sortedOnce f.2), m.failing, m.passing, m.failing + m.passing, some m,
   []⟩

theorem mem_lines_of_matrix_in {places : List Place} {m : CoverageMatrix} {file : String}
    {line : Int} : line ∈ (ofMatrixIn places m).linesOf file ↔ ⟨file, line⟩ ∈ places := by
  rw [linesOf, ofMatrixIn]
  dsimp only
  rw [← linesIn, lines_in_sorted, mem_sorted_once, mem_lines_in_foldl]
  simp [linesIn]

/-- The covered lines of a file are those that some test executes, so those that count. -/
theorem mem_lines_of_matrix {m : CoverageMatrix} {s : Place} :
    s.line ∈ (ofMatrix m).linesOf s.file ↔ 0 < (m.counts s).ef + (m.counts s).ep := by
  rw [show ofMatrix m = ofMatrixIn m.statements m from rfl, mem_lines_of_matrix_in,
    CoverageMatrix.counts_pos_iff, ← CoverageMatrix.mem_statements]

end Coverage

end Mender
