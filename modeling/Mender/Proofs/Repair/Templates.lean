import Mathlib.Data.List.Nodup
import Mender.Proofs.Number.Range
import Mender.Proofs.Repair.Generation

/-!
# What strategies make of a line

Each fix of a strategy makes something of the faulty line or nothing (`Template.options`), and a
strategy contributes the first of them that was not tried before. As long as no two strategies share
an id the candidates are those of the first strategies that have something left to contribute, and
what one of them contributes does not depend on the others (`Template.of_strategies_rewrite`).
-/

namespace Mender

namespace Strategy

/-- The priority of a strategy is one of those that strategies are documented to have. -/
def Documented (s : Strategy) : Prop :=
  1 ≤ s.priority ∧ s.priority ≤ 10

/-- The priority of a strategy counts in the confidence of its candidates: a double can hold it. -/
def Weighed (s : Strategy) : Prop :=
  ∃ x : Float, Arithmetic.ofInt s.priority = .ok x

theorem Documented.weighed {s : Strategy} (h : s.Documented) : s.Weighed := by
  obtain ⟨hlow, hhigh⟩ := h
  have hten : (10 : Int) ≤ 2 ^ 4 := by decide
  have hsmall : s.priority ≤ 2 ^ 400 :=
    (hhigh.trans hten).trans (pow_le_pow_right₀ (by decide) (by decide))
  obtain ⟨x, hx, _⟩ := Binary64.below_of_int (by omega) hsmall
  exact ⟨x, hx⟩

end Strategy

/-- A fix that applies changes the line. -/
theorem LineFix.apply_ne {line fix language new : String}
    (h : LineFix.apply line fix language = some new) : new ≠ line := by
  unfold LineFix.apply at h
  split at h
  · cases h
  · split at h
    · cases h
    · rename_i made _
      split at h
      · cases h
      · rename_i hchanged
        cases h
        rintro rfl
        exact hchanged String.toList_ofList.symm

namespace Template

variable {registry : Registry} {ctx : FixContext} {s : Strategy} {new : String}
  {tried : List (String × String)}

/-- What a fix of a strategy makes of the line. -/
def rewritten? (ctx : FixContext) (s : Strategy) (fix : FixGenerator) : Option String :=
  (fix (s.matchFor? ctx.fault.message ctx.codeContext) ctx).bind fun text =>
    LineFix.apply ctx.line text ctx.language

/-- All that the fixes of a strategy make of the line. -/
def options (ctx : FixContext) (s : Strategy) : List String :=
  s.fixes.filterMap (rewritten? ctx s)

/-- A strategy contributes the first of its options that was not tried. -/
theorem new_line_eq (ctx : FixContext) (tried : List (String × String)) (s : Strategy) :
    newLine? ctx tried s = (options ctx s).find? fun new => !tried.contains (s.id, new) := by
  have hfix : newText? s (s.matchFor? ctx.fault.message ctx.codeContext) ctx tried =
      fun fix => (rewritten? ctx s fix).filter fun new => !tried.contains (s.id, new) := by
    funext fix
    rw [newText?, rewritten?]
    cases fix (s.matchFor? ctx.fault.message ctx.codeContext) ctx <;> rfl
  rw [newLine?, hfix, options]
  induction s.fixes with
  | nil => rfl
  | cons fix fixes ih =>
      rw [List.findSome?_cons, ih, List.filterMap_cons]
      cases rewritten? ctx s fix with
      | none => rfl
      | some new =>
          rw [List.find?_cons, Option.filter_some]
          cases !tried.contains (s.id, new) <;> rfl

theorem mem_options_of_new_line (h : newLine? ctx tried s = some new) : new ∈ options ctx s := by
  rw [new_line_eq] at h
  exact List.mem_of_find?_eq_some h

theorem untried_of_new_line (h : newLine? ctx tried s = some new) : (s.id, new) ∉ tried := by
  rw [new_line_eq] at h
  simpa using List.find?_some h

/-- A strategy has nothing to contribute when all of its options were tried. -/
theorem new_line_eq_none_iff :
    newLine? ctx tried s = none ↔ ∀ new ∈ options ctx s, (s.id, new) ∈ tried := by
  rw [new_line_eq, List.find?_eq_none]
  simp

/-- An option differs from the line. -/
theorem option_ne (h : new ∈ options ctx s) : new ≠ ctx.line := by
  obtain ⟨fix, _, hmade⟩ := List.mem_filterMap.mp h
  obtain ⟨text, _, happly⟩ := Option.bind_eq_some_iff.mp hmade
  exact LineFix.apply_ne happly

theorem options_length_le (ctx : FixContext) (s : Strategy) :
    (options ctx s).length ≤ s.fixes.length :=
  List.length_filterMap_le _ _

/-- What was tried of other strategies does not bear on what a strategy contributes. -/
theorem new_line_other {key : String × String} (h : key.1 ≠ s.id) :
    newLine? ctx (key :: tried) s = newLine? ctx tried s := by
  have hother : ∀ new : String, (s.id, new) ≠ key := fun new heq => h (by rw [← heq])
  simp only [new_line_eq, List.contains_cons, beq_eq_false_iff_ne.mpr (hother _), Bool.false_or]

/-- What strategies contribute that was not tried, one text each. -/
def untried (ctx : FixContext) (tried : List (String × String)) (ss : List Strategy) :
    List (Strategy × String) :=
  ss.filterMap fun s => (newLine? ctx tried s).map (s, ·)

theorem mem_untried {ss : List Strategy} {x : Strategy × String} :
    x ∈ untried ctx tried ss ↔ x.1 ∈ ss ∧ newLine? ctx tried x.1 = some x.2 := by
  simp only [untried, List.mem_filterMap, Option.map_eq_some_iff]
  constructor
  · rintro ⟨s, hs, new, hnew, rfl⟩
    exact ⟨hs, hnew⟩
  · rintro ⟨hs, hnew⟩
    exact ⟨x.1, hs, x.2, hnew, rfl⟩

/-- Strategies contribute in their order. -/
theorem untried_sublist (ctx : FixContext) (tried : List (String × String)) (ss : List Strategy) :
    ((untried ctx tried ss).map (·.1)).Sublist ss := by
  unfold untried
  induction ss with
  | nil => exact .slnil
  | cons s ss ih =>
      rw [List.filterMap_cons]
      cases newLine? ctx tried s with
      | none => exact ih.cons s
      | some new => exact ih.cons_cons s

/-- A candidate puts what a strategy contributes in the place of the faulty line. -/
structure Rewrites (ctx : FixContext) (x : Strategy × String) (p : Patch) : Prop where
  source : p.source = .template
  strategy : p.strategy = x.1.id
  changes : p.changes =
    [⟨ctx.fault.location.file, ctx.fault.location.line, ctx.fault.location.line, ctx.line, x.2⟩]

theorem patch_rewrites {p : Patch} (h : patch registry ctx s new = .ok p) :
    Rewrites ctx (s, new) p := by
  obtain ⟨trust, _, hmade⟩ := bind_eq_ok h
  cases hmade
  exact ⟨rfl, rfl, rfl⟩

/-- What identifies the candidate of a strategy is the strategy and what it makes of the line. -/
theorem Rewrites.key {x : Strategy × String} {p : Patch} (h : Rewrites ctx x p) :
    p.key = (x.1.id, x.2) := by
  rw [Patch.key, h.strategy, Patch.text, h.changes]
  refine Prod.ext rfl ?_
  simp [Text.joined, Text.joinText]

/-- The candidates of strategies are those of the first ones that have something to contribute. -/
theorem of_strategies_rewrite {ss : List Strategy} (hids : (ss.map (·.id)).Nodup) {budget : Nat}
    {patches : List Patch} (h : ofStrategies registry ctx tried budget ss = .ok patches) :
    List.Forall₂ (Rewrites ctx) ((untried ctx tried ss).take budget) patches := by
  induction ss generalizing tried budget patches with
  | nil =>
      cases h
      rw [untried, List.filterMap_nil, List.take_nil]
      exact .nil
  | cons s ss ih =>
      obtain ⟨hnew, hothers⟩ := List.nodup_cons.mp hids
      cases budget with
      | zero =>
          cases h
          rw [List.take_zero]
          exact .nil
      | succ budget =>
          rw [ofStrategies] at h
          rw [untried, List.filterMap_cons]
          cases hline : newLine? ctx tried s with
          | none =>
              rw [hline] at h
              exact ih hothers h
          | some new =>
              rw [hline] at h
              obtain ⟨p, hfirst, hnext⟩ := bind_eq_ok h
              obtain ⟨rest, hrest, hmade⟩ := bind_eq_ok hnext
              cases hmade
              have hp := patch_rewrites hfirst
              have hmore := ih hothers hrest
              -- The candidate counts as tried from here on, but for its own strategy only.
              have hsame : untried ctx (p.key :: tried) ss = untried ctx tried ss := by
                refine List.filterMap_congr fun t ht => ?_
                rw [new_line_other]
                rw [hp.key]
                exact fun heq => hnew (List.mem_map.mpr ⟨t, ht, heq.symm⟩)
              rw [hsame] at hmore
              exact .cons hp hmore

/-- Strategies fail to make candidates only when the priority of one of them does not count. -/
theorem candidates_error {f : Fault} {codeContext line : String} {budget : Int}
    {learned : Option String} {e : Failure}
    (h : candidates registry f codeContext line budget learned tried = .error e) :
    ∃ s ∈ registry.prioritize f codeContext learned, ¬s.Weighed := by
  by_contra hall
  push Not at hall
  obtain ⟨patches, hmade⟩ := of_strategies_ok registry
    ⟨f, codeContext, languageOf f.location.file, line⟩ hall tried budget.toNat
  rw [candidates, hmade] at h
  cases h

end Template

end Mender
