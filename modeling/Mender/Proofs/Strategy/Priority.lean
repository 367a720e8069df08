import Mathlib.Data.List.Induction
import Mender.Proofs.Keyed
import Mender.Proofs.Learning.Feedback

/-!
# The order of strategies

Strategies are tried in the order in which they fit a fault. A registry comes of operations, from
which it keeps what was registered last under each id, each id once and in its place
(`Registry.of_operations_holds`), and the record of every strategy that was tried; whatever they
were, `Registry.prioritize_orders_fitting` says which strategies are tried and in which order.
-/

namespace Mender

/-- A stable sort keeps what relates the elements of a list from left to right for those that it
might as well exchange. -/
theorem pairwise_mergeSort_stable {α : Type} {le : α → α → Bool} {R : α → α → Prop}
    (trans : ∀ a b c, le a b → le b c → le a c) (total : ∀ a b, le a b || le b a) {l : List α}
    (hl : l.Pairwise R) : (l.mergeSort le).Pairwise fun a b => le a b ∧ (le b a → R a b) := by
  induction l with
  | nil => simp
  | cons a l ih =>
      obtain ⟨ha, hl⟩ := List.pairwise_cons.mp hl
      obtain ⟨before, after, hsorted, hrest, hbefore⟩ := List.mergeSort_cons trans total a l
      have hordered := List.pairwise_mergeSort trans total (a :: l)
      rw [hsorted] at hordered ⊢
      rw [List.pairwise_append, List.pairwise_cons] at hordered
      obtain ⟨_, ⟨hafter, _⟩, _⟩ := hordered
      have hpairs := hrest ▸ ih hl
      have hmem : ∀ b ∈ after, b ∈ l := fun b hb =>
        List.mem_mergeSort.mp (hrest ▸ List.mem_append_right before hb)
      obtain ⟨hfirst, hlast, hacross⟩ := List.pairwise_append.mp hpairs
      refine List.pairwise_append.mpr ⟨hfirst, List.pairwise_cons.mpr ⟨?_, hlast⟩, ?_⟩
      · exact fun b hb => ⟨hafter b hb, fun _ => ha b (hmem b hb)⟩
      · rintro b hb c (_ | ⟨_, hc⟩)
        · -- what was sorted in front of the first element is less than it
          have hless : le a b = false := by simpa using hbefore b hb
          exact ⟨by simpa [hless] using total a b, fun h => by rw [hless] at h; cases h⟩
        · exact hacross b hb c hc

namespace Registry

/-- What is done to a registry. -/
inductive Operation where
  | register (s : Strategy)
  | unregister (id : String)
  | record (id : String) (success : Bool)

namespace Operation

/-- The registry after an operation. -/
def after (r : Registry) : Operation → Registry
  | register s => r.register s
  | unregister id => r.unregister id
  | record id success => r.record id success

/-- The operation records a try of a strategy that came out in a given way. -/
def records (id : String) (success : Bool) : Operation → Bool
  | record tried outcome => tried = id && outcome = success
  | _ => false

/-- What is held under an id after an operation: a strategy replaces the one of its id, and only the
one of the id is removed. -/
def hold (id : String) (held : Option Strategy) : Operation → Option Strategy
  | register s => if s.id = id then some s else held
  | unregister removed => if removed = id then none else held
  | record _ _ => held

/-- The ids in order after an operation: a known one keeps its place, a new one comes last, and the
others close up when one is removed. -/
def arrange (ids : List String) : Operation → List String
  | register s => if s.id ∈ ids then ids else ids ++ [s.id]
  | unregister removed => ids.filter (· ≠ removed)
  | record _ _ => ids

end Operation

/-- The registry that operations make of an empty one. -/
def ofOperations (ops : List Operation) : Registry :=
  ops.foldl Operation.after ⟨[], []⟩

/-- The record of a strategy that operations amount to. -/
def recorded (ops : List Operation) (id : String) : Tally :=
  let successes := ops.countP (Operation.records id true)
  ⟨ops.countP (Operation.records id false) + successes, successes⟩

theorem of_operations_concat (ops : List Operation) (op : Operation) :
    ofOperations (ops ++ [op]) = op.after (ofOperations ops) := by
  rw [ofOperations, List.foldl_append]
  rfl

theorem insert_eq_put (s : Strategy) (strategies : List Strategy) :
    insert s strategies = Keyed.put (·.id) s strategies := by
  induction strategies with
  | nil => rfl
  | cons t ts ih => rw [insert, Keyed.put, ih]

theorem get_after (r : Registry) (op : Operation) (id : String) :
    (op.after r).get? id = op.hold id (r.get? id) := by
  cases op with
  | record tried success => rfl
  | register s =>
      show (insert s r.strategies).find? (·.id = id) = _
      rw [insert_eq_put]
      exact Keyed.find_put (·.id) s id r.strategies
  | unregister removed =>
      show (r.strategies.filter (·.id ≠ removed)).find? (·.id = id) =
        if removed = id then none else r.get? id
      rw [List.find?_filter]
      by_cases hid : removed = id
      · simp [hid]
      · rw [if_neg hid]
        refine congrArg (List.find? · r.strategies) (funext fun s => ?_)
        by_cases hs : s.id = id <;> simp [hs, Ne.symm hid]

theorem ids_after (r : Registry) (op : Operation) : (op.after r).ids = op.arrange r.ids := by
  cases op with
  | record tried success => rfl
  | register s =>
      show (insert s r.strategies).map (·.id) = _
      rw [insert_eq_put]
      exact Keyed.map_put (·.id) s r.strategies
  | unregister removed =>
      show (r.strategies.filter (·.id ≠ removed)).map (·.id) = (r.strategies.map (·.id)).filter _
      rw [List.filter_map]
      rfl

/-- Which strategies operations lead to, and in which places. -/
theorem of_operations_holds (ops : List Operation) :
    (∀ id, (ofOperations ops).get? id = ops.foldl (Operation.hold id) none) ∧
      (ofOperations ops).ids = ops.foldl Operation.arrange [] := by
  induction ops using List.reverseRecOn with
  | nil => exact ⟨fun _ => rfl, rfl⟩
  | append_singleton ops op ih =>
      rw [of_operations_concat]
      refine ⟨fun id => ?_, ?_⟩
      · rw [get_after, ih.1, List.foldl_concat]
      · rw [ids_after, ih.2, List.foldl_concat]

/-- An operation leaves no id twice. -/
theorem ids_nodup_after {r : Registry} (h : r.ids.Nodup) (op : Operation) :
    (op.after r).ids.Nodup := by
  cases op with
  | record id success => exact h
  | unregister id => exact h.sublist (List.filter_sublist.map _)
  | register s =>
      show ((insert s r.strategies).map (·.id)).Nodup
      rw [insert_eq_put]
      exact Keyed.nodup_put h s

/-- A registry has each id once, whatever was done to it. -/
theorem ids_nodup (ops : List Operation) : (ofOperations ops).ids.Nodup := by
  induction ops using List.reverseRecOn with
  | nil => exact List.nodup_nil
  | append_singleton ops op ih =>
      rw [of_operations_concat]
      exact ids_nodup_after ih op

/-- The record of a strategy counts its tries, registered or not. -/
theorem tally_of_operations (ops : List Operation) (id : String) :
    (ofOperations ops).tally id = recorded ops id := by
  induction ops using List.reverseRecOn with
  | nil => rfl
  | append_singleton ops op ih =>
      rw [of_operations_concat]
      cases op with
      | register s | unregister other =>
          refine Eq.trans ih ?_
          simp [recorded, List.countP_append, Operation.records]
      | record other success =>
          show ((ofOperations ops).record other success).tally id = _
          rw [tally_record, ih]
          by_cases hid : other = id <;> cases success <;>
            simp [recorded, List.countP_append, Operation.records, hid, Tally.add] <;> omega

section Fitting

variable (r : Registry)

theorem fits_before_total (a b : Strategy × Nat) : r.fitsBefore a b || r.fitsBefore b a := by
  unfold fitsBefore Tally.rateAtLeast
  grind

theorem fits_before_trans (a b c : Strategy × Nat) (hab : r.fitsBefore a b)
    (hbc : r.fitsBefore b c) : r.fitsBefore a c := by
  unfold fitsBefore Tally.rateAtLeast at *
  grind

/-- The place of an id in the order of a registry. -/
def position (id : String) : Nat :=
  r.ids.idxOf id

/-- One strategy fits a fault better than another: one that matches everything fits worst, then the
higher score counts, then the higher share of successes, and then the earlier registration. -/
def FitsBetter (f : Fault) (codeContext : String) (a b : Strategy) : Prop :=
  (a.catchAll = false ∧ b.catchAll = true) ∨ a.catchAll = b.catchAll ∧
    (b.score f codeContext < a.score f codeContext ∨
      a.score f codeContext = b.score f codeContext ∧
        (Binary64.orderKey (r.successRate b.id) < Binary64.orderKey (r.successRate a.id) ∨
          Binary64.orderKey (r.successRate a.id) = Binary64.orderKey (r.successRate b.id) ∧
            r.position a.id < r.position b.id))

variable {r} {f : Fault} {codeContext : String} {learned : Option String} {s : Strategy}

/-- Strategies that fit equally well are told apart by their places. -/
theorem fits_better_of_before {a b : Strategy × Nat} (ha : a.2 = a.1.score f codeContext)
    (hb : b.2 = b.1.score f codeContext) (hbefore : r.fitsBefore a b)
    (htie : r.fitsBefore b a → r.position a.1.id < r.position b.1.id) :
    r.FitsBetter f codeContext a.1 b.1 := by
  unfold fitsBefore Tally.rateAtLeast at hbefore htie
  unfold FitsBetter successRate
  grind

theorem strategies_pairwise_position (h : r.ids.Nodup) :
    r.strategies.Pairwise fun a b => r.position a.id < r.position b.id := by
  have hids : r.ids.Pairwise fun a b => r.position a < r.position b := by
    refine List.pairwise_iff_getElem.mpr fun i j hi hj hij => ?_
    rwa [position, position, h.idxOf_getElem i hi, h.idxOf_getElem j hj]
  have hpairs := List.pairwise_map.mp hids
  exact hpairs

/-- The strategies that fit a fault, in the order of the registry. -/
theorem mem_ranked {x : Strategy × Nat} :
    x ∈ r.ranked f codeContext learned ↔ x.1 ∈ r.strategies ∧ x.2 = x.1.score f codeContext ∧
      (0 < x.1.score f codeContext ∨ learned = some x.1.id) := by
  simp only [ranked, List.mem_mergeSort, List.mem_filter, List.mem_map, Bool.or_eq_true,
    decide_eq_true_eq]
  constructor
  · rintro ⟨⟨s, hs, rfl⟩, hfits⟩
    exact ⟨hs, rfl, hfits.imp_right Eq.symm⟩
  · rintro ⟨hs, hscore, hfits⟩
    exact ⟨⟨x.1, hs, Prod.ext rfl hscore.symm⟩, hscore ▸ hfits.imp_right Eq.symm⟩

theorem mem_ranked_strategies : s ∈ (r.ranked f codeContext learned).map (·.1) ↔
    s ∈ r.strategies ∧ (0 < s.score f codeContext ∨ learned = some s.id) := by
  constructor
  · intro h
    obtain ⟨x, hx, rfl⟩ := List.mem_map.mp h
    exact ⟨(mem_ranked.mp hx).1, (mem_ranked.mp hx).2.2⟩
  · rintro ⟨hs, hfits⟩
    exact List.mem_map.mpr ⟨(s, s.score f codeContext), mem_ranked.mpr ⟨hs, rfl, hfits⟩, rfl⟩

theorem ranked_pairwise (h : r.ids.Nodup) :
    ((r.ranked f codeContext learned).map (·.1)).Pairwise (r.FitsBetter f codeContext) := by
  have hplaces : ((r.strategies.map fun s => (s, s.score f codeContext)).filter fun s =>
      0 < s.2 || some s.1.id = learned).Pairwise
        fun a b => r.position a.1.id < r.position b.1.id := by
    refine List.Pairwise.sublist List.filter_sublist (List.pairwise_map.mpr ?_)
    exact strategies_pairwise_position h
  -- strategies that fit equally well keep their order, for the sort is stable
  refine List.pairwise_map.mpr ((pairwise_mergeSort_stable r.fits_before_trans
    r.fits_before_total hplaces).imp_of_mem fun {a b} ha hb hpair => ?_)
  exact fits_better_of_before (mem_ranked.mp ha).2.1 (mem_ranked.mp hb).2.1 hpair.1 hpair.2

theorem ranked_ids_nodup (h : r.ids.Nodup) :
    (((r.ranked f codeContext learned).map (·.1)).map (·.id)).Nodup := by
  have hscored : (((r.strategies.map fun s => (s, s.score f codeContext)).filter fun s =>
      0 < s.2 || some s.1.id = learned).map (·.1.id)).Nodup := by
    refine h.sublist ((List.filter_sublist.map _).trans ?_)
    rw [List.map_map]
    exact List.Sublist.refl _
  rw [List.map_map]
  exact ((List.mergeSort_perm _ _).map _).nodup_iff.mpr hscored

/-- A registered strategy is the one of its id. -/
theorem get_of_mem (h : r.ids.Nodup) (hs : s ∈ r.strategies) : r.get? s.id = some s :=
  (Keyed.find_eq_some_iff h).mpr ⟨hs, rfl⟩

/-- A learned strategy that is registered comes first, and the others in their order. -/
theorem prioritize_learned (h : r.ids.Nodup) (hs : s ∈ r.strategies) :
    r.prioritize f codeContext (some s.id) =
      s :: ((r.ranked f codeContext (some s.id)).map (·.1)).filter (·.id ≠ s.id) := by
  have hlearned : (some s.id).bind r.get? = some s := get_of_mem h hs
  simp only [prioritize, hlearned]

/-- When no learned strategy is registered, strategies come in their order. -/
theorem prioritize_unlearned (hnone : ∀ s ∈ r.strategies, learned ≠ some s.id) :
    r.prioritize f codeContext learned = (r.ranked f codeContext learned).map (·.1) := by
  have hget : learned.bind r.get? = none := by
    cases learned with
    | none => rfl
    | some id =>
        refine List.find?_eq_none.mpr fun s hs => ?_
        have hother := hnone s hs
        simpa using fun heq : s.id = id => hother (by rw [heq])
  simp only [prioritize, hget]

/-- A learned id that is not registered lets no other strategy fit. -/
theorem ranked_unlearned (hnone : ∀ s ∈ r.strategies, learned ≠ some s.id) :
    r.ranked f codeContext learned = r.ranked f codeContext none := by
  unfold ranked
  refine congrArg (List.mergeSort · _) (List.filter_congr fun x hx => ?_)
  obtain ⟨s, hs, rfl⟩ := List.mem_map.mp hx
  simp [Ne.symm (hnone s hs)]

/-- A learned strategy that is registered comes before the others, if there is one. -/
theorem prioritize_cases (h : r.ids.Nodup) (f : Fault) (codeContext : String)
    (learned : Option String) :
    (∃ t ∈ r.strategies, learned = some t.id ∧ r.prioritize f codeContext learned =
        t :: ((r.ranked f codeContext learned).map (·.1)).filter (·.id ≠ t.id)) ∨
      (∀ s ∈ r.strategies, learned ≠ some s.id) ∧
        r.prioritize f codeContext learned = (r.ranked f codeContext learned).map (·.1) := by
  by_cases hlearned : ∃ t ∈ r.strategies, learned = some t.id
  · obtain ⟨t, ht, rfl⟩ := hlearned
    exact .inl ⟨t, ht, rfl, prioritize_learned h ht⟩
  · have hother : ∀ s ∈ r.strategies, learned ≠ some s.id := fun s hs heq =>
      hlearned ⟨s, hs, heq⟩
    exact .inr ⟨hother, prioritize_unlearned hother⟩

theorem prioritize_ids_nodup (h : r.ids.Nodup) :
    ((r.prioritize f codeContext learned).map (·.id)).Nodup := by
  obtain ⟨t, _, _, horder⟩ | ⟨_, horder⟩ := prioritize_cases h f codeContext learned <;>
    rw [horder]
  · rw [List.map_cons, List.nodup_cons]
    exact ⟨by simp, (ranked_ids_nodup h).sublist (List.filter_sublist.map _)⟩
  · exact ranked_ids_nodup h

/-- Strategies of one id are the same. -/
theorem eq_of_learned (h : r.ids.Nodup) {t : Strategy} (hs : s ∈ r.strategies)
    (ht : t ∈ r.strategies) (hlearned : some t.id = some s.id) : s = t :=
  List.inj_on_of_nodup_map h hs ht (Option.some.inj hlearned).symm

theorem mem_prioritize (h : r.ids.Nodup) : s ∈ r.prioritize f codeContext learned ↔
    s ∈ r.strategies ∧ (0 < s.score f codeContext ∨ learned = some s.id) := by
  obtain ⟨t, ht, rfl, horder⟩ | ⟨_, horder⟩ := prioritize_cases h f codeContext learned <;>
    rw [horder]
  · rw [List.mem_cons, List.mem_filter, mem_ranked_strategies]
    constructor
    · rintro (rfl | ⟨hfits, _⟩)
      · exact ⟨ht, .inr rfl⟩
      · exact hfits
    · intro hfits
      by_cases heq : s = t
      · exact .inl heq
      · refine .inr ⟨hfits, ?_⟩
        simpa using fun hid => heq (eq_of_learned h hfits.1 ht (by rw [hid]))
  · exact mem_ranked_strategies

theorem head_prioritize (h : r.ids.Nodup) (hs : s ∈ r.strategies)
    (hlearned : learned = some s.id) : (r.prioritize f codeContext learned).head? = some s := by
  subst hlearned
  rw [prioritize_learned h hs]
  rfl

/-- The strategies that were not learned come in the order in which they fit. -/
theorem prioritize_pairwise (h : r.ids.Nodup) :
    ((r.prioritize f codeContext learned).filter fun s => learned ≠ some s.id).Pairwise
      (r.FitsBetter f codeContext) := by
  have hranked : ((r.ranked f codeContext learned).map (·.1)).Pairwise
      (r.FitsBetter f codeContext) := ranked_pairwise h
  refine hranked.sublist ?_
  obtain ⟨t, _, rfl, horder⟩ | ⟨_, horder⟩ := prioritize_cases h f codeContext learned <;>
    rw [horder]
  · rw [List.filter_cons_of_neg (by simp)]
    exact List.filter_sublist.trans List.filter_sublist
  · exact List.filter_sublist

end Fitting

/-- The strategies that are tried for a fault, in a registry that any operations have led to. None
is tried twice, and those are tried that score something or were learned. A learned one comes first,
and the others follow from the best to the worst by how they fit, by their record of tries and by
their place. To have learned of a strategy that is not registered changes nothing. -/
theorem prioritize_orders_fitting (ops : List Operation) (f : Fault) (codeContext : String)
    (learned : Option String) :
    let r := ofOperations ops
    let order := r.prioritize f codeContext learned
    (order.map (·.id)).Nodup ∧
      (∀ s, s ∈ order ↔ s ∈ r.strategies ∧ (0 < s.score f codeContext ∨ learned = some s.id)) ∧
      (∀ s ∈ r.strategies, learned = some s.id → order.head? = some s) ∧
      (order.filter fun s => learned ≠ some s.id).Pairwise (r.FitsBetter f codeContext) ∧
      (∀ id, r.successRate id = (recorded ops id).rateNumber) ∧
      ((∀ s ∈ r.strategies, learned ≠ some s.id) → order = r.prioritize f codeContext none) := by
  intro r order
  have hids : r.ids.Nodup := ids_nodup ops
  refine ⟨prioritize_ids_nodup hids, fun s => mem_prioritize hids,
    fun s hs hlearned => head_prioritize hids hs hlearned, prioritize_pairwise hids,
    fun id => congrArg Tally.rateNumber (tally_of_operations ops id), fun hother => ?_⟩
  calc order = (r.ranked f codeContext learned).map (·.1) := prioritize_unlearned hother
    _ = (r.ranked f codeContext none).map (·.1) := by rw [ranked_unlearned hother]
    _ = r.prioritize f codeContext none := (prioritize_unlearned (by simp)).symm

/-- A strategy that is replaced keeps its place, one that is registered again comes last, and its
record outlives it. -/
example :
    let plain (id : String) : Strategy := ⟨id, "", [], [], [.unknown], 5, false⟩
    let last : Strategy := ⟨"last", "", [], [], [], 5, true⟩
    let r := ofOperations [.register (plain "b"), .register (plain "last"), .register (plain "a"),
      .record "b" true, .register last, .unregister "b", .register (plain "b")]
    let f : Fault := ⟨.unknown, .low, "", .ofLine "a.py" 1, [], 0.5, none, .generic, none⟩
    r.ids = ["last", "a", "b"] ∧
      (r.prioritize f "" none).map (·.id) = ["b", "a", "last"] ∧
      (r.prioritize f "" (some "last")).map (·.id) = ["last", "b", "a"] := by
  intro plain last r f
  have hafter : r.fitsBefore (last, 1) (plain "a", 5) = false := by decide
  have hworse : r.fitsBefore (plain "a", 5) (plain "b", 5) = false := by decide
  have hranked : ∀ learned,
      r.ranked f "" learned = [(plain "b", 5), (plain "a", 5), (last, 1)] := by
    intro learned
    show [(last, 1), (plain "a", 5), (plain "b", 5)].mergeSort r.fitsBefore = _
    simp [List.mergeSort, hafter, hworse]
  refine ⟨by decide, ?_, ?_⟩
  · rw [prioritize, hranked]
    decide
  · rw [prioritize, hranked]
    decide

end Registry

end Mender
