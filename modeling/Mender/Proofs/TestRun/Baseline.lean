import Mender.Proofs.Dialogue.Reply
import Mender.Proofs.Keyed
import Mender.Proofs.Pattern.Reading
import Mender.TestRun

/-!
# New failures against a baseline

A run of the tests comes to an outcome when its output can be counted: no numeral in it is too long
to read (`TestOutput.tests_of_countable`). The run and the baseline each take no more than the first
error messages of what was printed, so the new failures are told from lists that may have been cut
(`TestRun.new_failures_against_baseline`).
-/

namespace Mender

namespace TestOutput

open Pattern

/-- A text in which every run of digits can be read as a number. -/
def Countable (cs : List Char) : Prop :=
  ∀ taken, taken <:+: cs → (∀ c ∈ taken, Text.isDecimal c = true) → taken.length ≤ Integer.maxDigits

variable {cs : List Char} {m : Match} {more : List Pattern} {previous : Option Char}
  {position : Nat} {before after : List Char}

theorem Countable.part {piece : List Char} (h : Countable cs) (hpart : piece <:+: cs) :
    Countable piece :=
  fun taken htaken => h taken (htaken.trans hpart)

/-- A group is not among captures of other indices. -/
theorem find_capture_none {new : List Capture} (index : Nat) (h : ∀ c ∈ new, c.index ≠ index) :
    (new.map Capture.text).find? (fun group => group.1 = index) = none := by
  rw [List.find?_eq_none]
  rintro _ hmem
  obtain ⟨c, hc, rfl⟩ := List.mem_map.mp hmem
  simp [Capture.text, h c hc]

/-- A match of a shape that begins with a number holds the digits of one. -/
theorem digits_of_stands (hmore : 1 ∉ (concat more).groupIndices)
    (h : StandsIn (concat (group 1 digits :: more)) m previous position before after) :
    ∃ taken, part m 1 = String.ofList taken ∧ taken ≠ [] ∧
      (∀ c ∈ taken, Text.isDecimal c = true) ∧ taken <:+: after := by
  obtain ⟨t, ht, _, hgroups⟩ := reads_of_match h.found
  obtain ⟨u, hdigits, hrest⟩ := reads_concat_cons ht
  obtain ⟨new, hnew, hothers⟩ := reads_captures hrest
  cases hdigits with
  | group hdigits =>
      cases hdigits with
      | @many _ _ _ taken rest hafter hall hleast =>
          obtain hafter : after = taken ++ rest := hafter
          subst hafter
          refine ⟨taken, ?_, ?_, hall, (List.prefix_append _ _).isInfix⟩
          · -- what follows remembers no first group of its own
            have hskip := find_capture_none 1 fun c hc heq =>
              hmore (heq ▸ (hothers c hc).1)
            rw [part, Match.group?, hgroups, hnew, List.map_append, List.find?_append, hskip]
            simp [Capture.text, Spot.after]
          · rintro rfl
            simp at hleast

/-- Digits in a countable text can be read. -/
theorem number_of_stands (hmore : 1 ∉ (concat more).groupIndices)
    (h : StandsIn (concat (group 1 digits :: more)) m previous position before after)
    (hcountable : Countable after) : ∃ n, numberOf m = .ok n := by
  obtain ⟨taken, hpart, hsome, hdecimal, hinfix⟩ := digits_of_stands hmore h
  have hlike : ∀ c ∈ taken, Text.isDigitLike c = true := fun c hc => by
    simp [Text.isDigitLike, hdecimal c hc]
  have hlength := hcountable taken hinfix hdecimal
  cases hread : numberOf m with
  | ok n => exact ⟨n, rfl⟩
  | error e =>
      rw [numberOf, hpart, Integer.read_eq_error_iff hlike] at hread
      rcases (Integer.magnitude_fails_iff hlike hsome _).mp ⟨e, hread⟩ with hnone | hlong
      · exact absurd hdecimal hnone
      · omega

theorem counts_of_countable (hmore : 1 ∉ (concat more).groupIndices) (hcountable : Countable cs) :
    ∃ counts, countsOf ((concat (group 1 digits :: more)).findAll cs) = .ok counts := by
  have hread : ∀ m ∈ (concat (group 1 digits :: more)).findAll cs, ∃ n, numberOf m = .ok n := by
    intro m hm
    obtain ⟨before, after, rfl, hstands⟩ := stands_of_mem_matches hm
    exact number_of_stands hmore hstands (hcountable.part (List.suffix_append _ _).isInfix)
  refine mapM_returns_iff.mpr fun m hm => ?_
  obtain ⟨n, hn⟩ := hread m hm
  refine ⟨(part m 2, n), ?_⟩
  rw [hn]
  rfl

theorem first_count_of_countable (word : Pattern) (hword : 1 ∉ word.groupIndices)
    (hcountable : Countable cs) : ∃ n, firstCount word cs = .ok n := by
  rw [firstCount]
  cases hfound : (countBefore word).search cs with
  | none => exact ⟨0, rfl⟩
  | some m =>
      obtain ⟨before, after, rfl, hstands⟩ := stands_of_search_from hfound
      exact number_of_stands (by simpa [concat, groupIndices, blanks] using hword) hstands
        (hcountable.part (List.suffix_append _ _).isInfix)

/-- The tests of a countable output can be counted. -/
theorem tests_of_countable (hcountable : Countable cs) : ∃ counts, tests cs = .ok counts := by
  cases hsummary : summaryLine.search cs with
  | some m =>
      -- the counts stand in a part of the output, whose digits are as few
      have hpart : (part m 1).toList <:+: cs := by
        obtain ⟨before, after, rfl, hstands⟩ := stands_of_search_from hsummary
        rw [part]
        cases hgroup : m.group? 1 with
        | none => exact List.nil_infix
        | some text => exact (hstands.group_part hgroup).trans (List.suffix_append _ _).isInfix
      obtain ⟨counts, hcounts⟩ : ∃ counts,
          countsOf (summaryCount.findAll (part m 1).toList) = .ok counts :=
        counts_of_countable (by decide) (hcountable.part hpart)
      exact ⟨_, by rw [tests, hsummary]; simp only [hcounts]; rfl⟩
  | none =>
      cases hreport : reportCount.findAll cs with
      | nil =>
          obtain ⟨run, hrun⟩ := first_count_of_countable
            (concat [anyCase "test", opt (anyCase "s"), wordEdge]) (by decide) hcountable
          obtain ⟨passed, hpassed⟩ := first_count_of_countable
            (anyCase "pass") (by decide) hcountable
          obtain ⟨failed, hfailed⟩ := first_count_of_countable
            (anyCase "fail") (by decide) hcountable
          exact ⟨_, by rw [tests, hsummary]; simp only [hreport, hrun, hpassed, hfailed]; rfl⟩
      | cons m ms =>
          obtain ⟨counts, hcounts⟩ : ∃ counts, countsOf (reportCount.findAll cs) = .ok counts :=
            counts_of_countable (by decide) hcountable
          rw [hreport] at hcounts
          exact ⟨_, by rw [tests, hsummary]; simp only [hreport, hcounts]; rfl⟩

theorem nodup_all_errors (cs : List Char) : (allErrors cs).Nodup :=
  Keyed.nodup_erase_dups _

end TestOutput

namespace TestRun

open TestOutput

variable {before after : CommandResult} {o : Outcome}

/-- A run that is in time and can be counted has an outcome. -/
theorem outcome_of_countable (hintime : after.error ≠ CommandResult.timedOut)
    (hcountable : Countable (printed after)) (baseline : Option Baseline) :
    ∃ o, outcome baseline after = .ok o := by
  obtain ⟨counts, hcounts⟩ := tests_of_countable hcountable
  exact ⟨_, by rw [outcome, if_neg hintime]; simp only [hcounts]; rfl⟩

/-- An outcome tells the first messages of the output that are not among the first of the baseline
as new. -/
theorem new_failures_eq (hintime : after.error ≠ CommandResult.timedOut)
    (h : outcome (some (.of before)) after = .ok o) :
    o.newFailures =
      (errors (printed after)).filter fun e => !(errors (printed before)).contains e := by
  rw [outcome, if_neg hintime] at h
  obtain ⟨counts, _, hends⟩ := bind_eq_ok h
  cases hends
  rfl

/-- The messages that the baseline took tell the same of some messages as all of its messages do,
exactly when none of these comes after those that it took. -/
theorem new_against_taken_iff (found : List String) (cs : List Char) :
    (found.filter fun e => !(errors cs).contains e) = found.filter (· ∉ allErrors cs) ↔
      ∀ e ∈ found, e ∉ (allErrors cs).drop errorLimit := by
  have hnodup := nodup_all_errors cs
  rw [← List.take_append_drop errorLimit (allErrors cs), List.nodup_append] at hnodup
  have hmem : ∀ e, e ∈ allErrors cs ↔ e ∈ errors cs ∨ e ∈ (allErrors cs).drop errorLimit :=
    fun e => by
      rw [errors, ← List.mem_append, List.take_append_drop]
  constructor
  · intro heq e he hlate
    have hnew : e ∈ found.filter fun e => !(errors cs).contains e := by
      have huntaken : e ∉ errors cs := fun htaken => hnodup.2.2 e htaken e hlate rfl
      simpa [he] using huntaken
    rw [heq, List.mem_filter, decide_eq_true_eq, hmem] at hnew
    exact hnew.2 (.inr hlate)
  · intro hlate
    refine List.filter_congr fun e he => ?_
    simp [hmem, hlate e he]

/-- A run in time with an output that can be counted comes to an outcome. Whenever there is one, its
new failures are the first messages that the output shows and that of the baseline does not, each
once and in the order of the output, as long as no message of these is one that the baseline found
but did not take. Whichever it took, a new message among the first ones is told, and the run is not
accepted. -/
theorem new_failures_against_baseline (hintime : after.error ≠ CommandResult.timedOut) :
    (Countable (printed after) → ∃ o, outcome (some (.of before)) after = .ok o) ∧
    ∀ o, outcome (some (.of before)) after = .ok o →
      ((∀ e ∈ errors (printed after), e ∉ (allErrors (printed before)).drop errorLimit) →
        o.newFailures = (errors (printed after)).filter (· ∉ allErrors (printed before))) ∧
      o.newFailures.Nodup ∧
      ∀ e ∈ errors (printed after), e ∉ allErrors (printed before) →
        e ∈ o.newFailures ∧ o.accepted = false := by
  refine ⟨fun hcountable => outcome_of_countable hintime hcountable _, fun o houtcome => ?_⟩
  have hnew := new_failures_eq hintime houtcome
  refine ⟨fun hlate => ?_, ?_, fun e he habsent => ?_⟩
  · rw [hnew]
    exact (new_against_taken_iff _ _).mpr hlate
  · rw [hnew]
    exact ((nodup_all_errors _).sublist (List.take_sublist _ _)).filter _
  · have hmem : e ∈ o.newFailures := by
      have huntaken : e ∉ errors (printed before) := fun h => habsent (List.mem_of_mem_take h)
      simpa [hnew, he] using huntaken
    exact ⟨hmem, by simp [Outcome.accepted, List.ne_nil_of_mem hmem]⟩

/-- A run that fails with some output. -/
def failingWith (output : String) : CommandResult :=
  ⟨false, output, "", some 1⟩

/-- One error more than before the patch. -/
theorem new_failures_of_one_more :
    ∃ o, outcome (some (.of (failingWith "error: a"))) (failingWith "error: a\nerror: b") = .ok o ∧
      o.newFailures = ["b"] := by
  have hcountable : Countable (printed (failingWith "error: a\nerror: b")) :=
    fun taken htaken _ => Nat.le_trans htaken.length_le (by decide)
  obtain ⟨hends, htold⟩ := @new_failures_against_baseline (failingWith "error: a")
    (failingWith "error: a\nerror: b") (by decide)
  obtain ⟨o, houtcome⟩ := hends hcountable
  refine ⟨o, houtcome, ((htold o houtcome).1 ?_).trans ?_⟩
  · decide +kernel
  · decide +kernel

/-- An output with eleven errors. -/
def elevenErrors : String :=
  "error: a\nerror: b\nerror: c\nerror: d\nerror: e\nerror: f\nerror: g\nerror: h\nerror: i\n" ++
    "error: j\nerror: k\n"

/-- The eleventh error of an output is not told, although the baseline has none. -/
theorem new_failures_stop_at_ten :
    ∃ o, outcome (some (.of (failingWith ""))) (failingWith elevenErrors) = .ok o ∧
      allErrors (printed (failingWith "")) = [] ∧
      "k" ∈ allErrors (printed (failingWith elevenErrors)) ∧ "k" ∉ o.newFailures := by
  have hintime : (failingWith elevenErrors).error ≠ CommandResult.timedOut := by decide
  obtain ⟨o, houtcome⟩ := outcome_of_countable hintime
    (fun taken htaken _ => Nat.le_trans htaken.length_le (by decide)) (some (.of (failingWith "")))
  refine ⟨o, houtcome, ?_, ?_, ?_⟩
  · decide +kernel
  · decide +kernel
  · rw [new_failures_eq hintime houtcome]
    decide +kernel

end TestRun

end Mender
