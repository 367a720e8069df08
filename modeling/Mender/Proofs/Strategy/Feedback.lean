import Mathlib.Data.Prod.Lex
import Mender.Proofs.Number.Order
import Mender.Proofs.Number.Rounding
import Mender.Proofs.Strategy.Priority

/-!
# What feedback does to the order of strategies

A success moves a strategy towards the head of the order, a failure towards its end, and neither
changes how other strategies stand to one another. The order compares the shares of successes as
doubles; `Registry.prioritizeBy` compares any reading of the records, such as the exact share, and
`Registry.feedback_moves_strategy` holds of both. The reason is one for all readings that heed
feedback: the order is that of a key of strategies, and a try changes the key of its own strategy
only.
-/

namespace Mender

namespace Tally

/-- The share of tries that worked, exactly. -/
def share (t : Tally) : ℚ :=
  (t.rate.1 : ℚ) / t.rate.2

/-- The share of tries that worked, as a double in the order of doubles. -/
def roundedShare (t : Tally) : Int :=
  Binary64.orderKey t.rateNumber

variable {s t : Tally}

theorem rate_pos (t : Tally) : 0 < t.rate.2 := by
  unfold rate
  split <;> omega

theorem share_untried (h : t.attempts = 0) : t.share = 1 / 2 := by
  simp [share, rate, h]

theorem share_tried (h : 0 < t.attempts) : t.share = t.successes / t.attempts := by
  simp [share, rate, h.ne']

theorem share_le_one (h : t.successes ≤ t.attempts) : t.share ≤ 1 := by
  rcases Nat.eq_zero_or_pos t.attempts with hnone | hsome
  · rw [share_untried hnone]
    norm_num
  · rw [share_tried hsome]
    exact div_le_one_of_le₀ (by exact_mod_cast h) (Nat.cast_nonneg _)

/-- A success does not lower the share of successes. -/
theorem share_le_add_success (h : t.successes ≤ t.attempts) : t.share ≤ (t.add true).share := by
  have hafter : (t.add true).share = (t.successes + 1) / (t.attempts + 1) := by
    rw [share_tried (Nat.succ_pos t.attempts)]
    simp [add]
  rw [hafter]
  rcases Nat.eq_zero_or_pos t.attempts with hnone | hsome
  · have hzero : t.successes = 0 := by omega
    rw [share_untried hnone, hzero, hnone]
    norm_num
  · have hattempts : (0 : ℚ) < t.attempts := by exact_mod_cast hsome
    have hsuccesses : (t.successes : ℚ) ≤ t.attempts := by exact_mod_cast h
    rw [share_tried hsome, div_le_div_iff₀ hattempts (by linarith)]
    linarith

/-- A failure does not raise the share of successes. -/
theorem share_add_failure_le (h : t.successes ≤ t.attempts) : (t.add false).share ≤ t.share := by
  have hafter : (t.add false).share = t.successes / (t.attempts + 1) := by
    rw [share_tried (Nat.succ_pos t.attempts)]
    simp [add]
  rw [hafter]
  rcases Nat.eq_zero_or_pos t.attempts with hnone | hsome
  · have hzero : t.successes = 0 := by omega
    rw [share_untried hnone, hzero, hnone]
    norm_num
  · have hattempts : (0 : ℚ) < t.attempts := by exact_mod_cast hsome
    rw [share_tried hsome]
    exact div_le_div_of_nonneg_left (Nat.cast_nonneg _) hattempts (by linarith)

/-- A reading of records heeds feedback when it does not sink with a success or rise with a
failure. -/
structure Heeds {α : Type} [LE α] (read : Tally → α) : Prop where
  success : ∀ t : Tally, t.successes ≤ t.attempts → read t ≤ read (t.add true)
  failure : ∀ t : Tally, t.successes ≤ t.attempts → read (t.add false) ≤ read t

theorem share_heeds : Heeds share :=
  ⟨fun _ => share_le_add_success, fun _ => share_add_failure_le⟩

theorem rounded_share_mono (ht : t.successes ≤ t.attempts) (hle : s.share ≤ t.share) :
    s.roundedShare ≤ t.roundedShare :=
  Binary64.order_key_mono s.rate_pos t.rate_pos hle (share_le_one ht)

theorem rounded_share_heeds : Heeds roundedShare where
  success _ h := rounded_share_mono (Nat.succ_le_succ h) (share_le_add_success h)
  failure _ h := rounded_share_mono h (share_add_failure_le h)

end Tally

namespace Registry

section Reading

variable {α : Type} [LinearOrder α] (read : Tally → α) (r : Registry)

/-- The order of strategies with their scores when records are compared by a reading. -/
def fitsBeforeBy (a b : Strategy × Nat) : Bool :=
  if a.1.catchAll ≠ b.1.catchAll then !a.1.catchAll
  else if a.2 ≠ b.2 then b.2 < a.2
  else read (r.tally b.1.id) ≤ read (r.tally a.1.id)

/-- The strategies that fit a fault, with their scores, when records are compared by a reading. -/
def rankedBy (f : Fault) (codeContext : String) (learned : Option String) :
    List (Strategy × Nat) :=
  let scored := r.strategies.map fun s => (s, s.score f codeContext)
  (scored.filter fun s => 0 < s.2 || some s.1.id = learned).mergeSort (r.fitsBeforeBy read)

/-- The strategies that fit a fault, the best first, when records are compared by a reading. -/
def prioritizeBy (f : Fault) (codeContext : String) (learned : Option String) : List Strategy :=
  let ordered := (r.rankedBy read f codeContext learned).map (·.1)
  match learned.bind r.get? with
  | some s => s :: ordered.filter (·.id ≠ s.id)
  | none => ordered

/-- Strategies are ordered by their shares of successes as doubles. -/
theorem prioritize_eq_by (f : Fault) (codeContext : String) (learned : Option String) :
    r.prioritize f codeContext learned =
      r.prioritizeBy Tally.roundedShare f codeContext learned :=
  rfl

theorem fits_before_by_total (a b : Strategy × Nat) :
    r.fitsBeforeBy read a b || r.fitsBeforeBy read b a := by
  unfold fitsBeforeBy
  grind

theorem fits_before_by_trans (a b c : Strategy × Nat) (hab : r.fitsBeforeBy read a b)
    (hbc : r.fitsBeforeBy read b c) : r.fitsBeforeBy read a c := by
  unfold fitsBeforeBy at *
  grind

/-- What strategies that fit a fault are ordered by: one that matches everything comes last, then
the higher score counts, then the record of tries, and then the place in the registry. -/
def fitKey (f : Fault) (codeContext : String) (s : Strategy) : Bool ×ₗ ℕᵒᵈ ×ₗ αᵒᵈ ×ₗ ℕ :=
  toLex (s.catchAll, toLex (.toDual (s.score f codeContext),
    toLex (.toDual (read (r.tally s.id)), r.position s.id)))

/-- What the strategies to try are ordered by: a learned one comes first. -/
def orderKey (f : Fault) (codeContext : String) (learned : Option String) (s : Strategy) :
    Bool ×ₗ Bool ×ₗ ℕᵒᵈ ×ₗ αᵒᵈ ×ₗ ℕ :=
  toLex (learned ≠ some s.id, r.fitKey read f codeContext s)

variable {read r} {f : Fault} {codeContext : String} {learned : Option String}

/-- Strategies that fit equally well are told apart by their places. -/
theorem fit_key_lt_of_before {a b : Strategy × Nat} (ha : a.2 = a.1.score f codeContext)
    (hb : b.2 = b.1.score f codeContext) (hbefore : r.fitsBeforeBy read a b)
    (htie : r.fitsBeforeBy read b a → r.position a.1.id < r.position b.1.id) :
    r.fitKey read f codeContext a.1 < r.fitKey read f codeContext b.1 := by
  unfold fitsBeforeBy at hbefore htie
  unfold fitKey
  simp only [Prod.Lex.toLex_lt_toLex, OrderDual.toDual_lt_toDual, OrderDual.toDual_inj,
    Bool.lt_iff]
  grind

theorem mem_ranked_by {x : Strategy × Nat} :
    x ∈ r.rankedBy read f codeContext learned ↔ x ∈ r.ranked f codeContext learned := by
  simp only [rankedBy, ranked, List.mem_mergeSort]

/-- The strategies that fit are sorted by how they fit. -/
theorem ranked_by_pairwise (h : r.ids.Nodup) :
    ((r.rankedBy read f codeContext learned).map (·.1)).Pairwise
      fun a b => r.fitKey read f codeContext a < r.fitKey read f codeContext b := by
  have hplaces : ((r.strategies.map fun s => (s, s.score f codeContext)).filter fun s =>
      0 < s.2 || some s.1.id = learned).Pairwise
        fun a b => r.position a.1.id < r.position b.1.id := by
    refine List.Pairwise.sublist List.filter_sublist (List.pairwise_map.mpr ?_)
    exact strategies_pairwise_position h
  refine List.pairwise_map.mpr ((pairwise_mergeSort_stable (r.fits_before_by_trans read)
    (r.fits_before_by_total read) hplaces).imp_of_mem fun {a b} ha hb hpair => ?_)
  exact fit_key_lt_of_before (mem_ranked.mp (mem_ranked_by.mp ha)).2.1
    (mem_ranked.mp (mem_ranked_by.mp hb)).2.1 hpair.1 hpair.2

/-- The strategies to try are sorted by whether they were learned and by how they fit. -/
theorem prioritize_by_pairwise (h : r.ids.Nodup) :
    (r.prioritizeBy read f codeContext learned).Pairwise fun a b =>
      r.orderKey read f codeContext learned a < r.orderKey read f codeContext learned b := by
  have hranked : ((r.rankedBy read f codeContext learned).map (·.1)).Pairwise
      fun a b => r.fitKey read f codeContext a < r.fitKey read f codeContext b :=
    ranked_by_pairwise h
  -- Among strategies that were all learned, or all not, how they fit decides.
  have hordered : ∀ {l : List Strategy} (flag : Bool),
      (∀ s ∈ l, decide (learned ≠ some s.id) = flag) →
      (l.Pairwise fun a b => r.fitKey read f codeContext a < r.fitKey read f codeContext b) →
      l.Pairwise fun a b =>
        r.orderKey read f codeContext learned a < r.orderKey read f codeContext learned b := by
    intro l flag hflag hl
    refine hl.imp_of_mem fun {a b} ha hb hlt => ?_
    unfold orderKey
    rw [hflag a ha, hflag b hb]
    exact Prod.Lex.toLex_lt_toLex.mpr (.inr ⟨rfl, hlt⟩)
  unfold prioritizeBy
  dsimp only
  split
  · rename_i t hget
    obtain ⟨id, rfl, hfound⟩ := Option.bind_eq_some_iff.mp hget
    have hid : t.id = id := by simpa using List.find?_some hfound
    subst hid
    have hothers : ∀ s ∈ ((r.rankedBy read f codeContext (some t.id)).map (·.1)).filter
        (·.id ≠ t.id), decide (some t.id ≠ some s.id) = true := by
      intro s hs
      have hne : s.id ≠ t.id := by simpa using (List.mem_filter.mp hs).2
      simpa using Ne.symm hne
    refine List.pairwise_cons.mpr ⟨fun s hs => ?_, hordered true hothers
      (hranked.sublist List.filter_sublist)⟩
    unfold orderKey
    rw [hothers s hs]
    exact Prod.Lex.toLex_lt_toLex.mpr (.inl (by simp))
  · rename_i hget
    refine hordered true (fun s hs => ?_) hranked
    obtain ⟨x, hx, rfl⟩ := List.mem_map.mp hs
    have hregistered := (mem_ranked.mp (mem_ranked_by.mp hx)).1
    simp only [decide_eq_true_eq]
    rintro rfl
    rw [Option.bind_some, get_of_mem h hregistered] at hget
    cases hget

/-- Whatever is recorded and however it is read, the same strategies fit. -/
theorem prioritize_by_perm {β : Type} [LinearOrder β] {other : Tally → β} {r' : Registry}
    (hsame : r'.strategies = r.strategies) :
    (r'.prioritizeBy read f codeContext learned).Perm
      (r.prioritizeBy other f codeContext learned) := by
  have hranked : ((r'.rankedBy read f codeContext learned).map (·.1)).Perm
      ((r.rankedBy other f codeContext learned).map (·.1)) := by
    unfold rankedBy
    rw [hsame]
    exact ((List.mergeSort_perm _ _).trans (List.mergeSort_perm _ _).symm).map _
  have hget : r'.get? = r.get? := by
    funext id
    rw [get?, get?, hsame]
  unfold prioritizeBy
  rw [hget]
  dsimp only
  split
  · exact (hranked.filter _).cons _
  · exact hranked

theorem mem_of_mem_prioritize_by (h : r.ids.Nodup) {s : Strategy}
    (hs : s ∈ r.prioritizeBy read f codeContext learned) : s ∈ r.strategies := by
  have hperm : (r.prioritizeBy read f codeContext learned).Perm
      (r.prioritize f codeContext learned) := by
    rw [prioritize_eq_by]
    exact prioritize_by_perm rfl
  exact ((mem_prioritize h).mp (hperm.mem_iff.mp hs)).1

/-- A share that did not sink leaves a strategy where it is or nearer to the head. -/
theorem order_key_le {r' : Registry} {s : Strategy} (hsame : r'.strategies = r.strategies)
    (hread : read (r.tally s.id) ≤ read (r'.tally s.id)) :
    r'.orderKey read f codeContext learned s ≤ r.orderKey read f codeContext learned s := by
  have hplace : r'.position s.id = r.position s.id := by
    rw [position, position, ids, ids, hsame]
  unfold orderKey fitKey
  rw [hplace]
  exact Prod.Lex.toLex_mono ⟨le_rfl, Prod.Lex.toLex_mono ⟨le_rfl, Prod.Lex.toLex_mono
    ⟨le_rfl, Prod.Lex.toLex_mono ⟨hread, le_rfl⟩⟩⟩⟩

/-- A try leaves every other strategy where it is. -/
theorem order_key_record_other {s : Strategy} {id : String} (hs : s.id ≠ id) (success : Bool) :
    (r.record id success).orderKey read f codeContext learned s =
      r.orderKey read f codeContext learned s := by
  have htally : (r.record id success).tally s.id = r.tally s.id := by
    rw [tally_record, if_neg (Ne.symm hs)]
  exact le_antisymm (order_key_le rfl (by rw [htally])) (order_key_le rfl (by rw [htally]))

end Reading

/-- Between two orders only one strategy moves: they have the same members, and the others stand to
one another as they did. -/
structure MovesOnly (id : String) (before after : List Strategy) : Prop where
  members : after.Perm before
  others : after.filter (·.id ≠ id) = before.filter (·.id ≠ id)

/-- Between two orders a strategy moves towards the head, if it moves: it still precedes whatever it
preceded. -/
structure Rises (id : String) (before after : List Strategy) : Prop
    extends MovesOnly id before after where
  precedes : ∀ s t : Strategy, s.id = id → [s, t].Sublist before → [s, t].Sublist after

/-- Between two orders a strategy moves towards the end, if it moves: it still follows whatever it
followed. -/
structure Falls (id : String) (before after : List Strategy) : Prop
    extends MovesOnly id before after where
  follows : ∀ s t : Strategy, s.id = id → [t, s].Sublist before → [t, s].Sublist after

section Sorted

variable {α β : Type} [LinearOrder β] (key : α → β) {l : List α} {a b : α}

/-- Of two elements of a sorted list the lesser precedes the greater. -/
theorem pair_sublist_of_lt (hl : l.Pairwise fun a b => key a < key b) (ha : a ∈ l) (hb : b ∈ l)
    (hlt : key a < key b) : [a, b].Sublist l := by
  induction l with
  | nil => cases ha
  | cons c l ih =>
      obtain ⟨hfirst, hrest⟩ := List.pairwise_cons.mp hl
      rcases List.mem_cons.mp ha with rfl | ha'
      · rcases List.mem_cons.mp hb with rfl | hb'
        · exact absurd hlt (lt_irrefl _)
        · exact (List.singleton_sublist.mpr hb').cons_cons _
      · rcases List.mem_cons.mp hb with rfl | hb'
        · exact absurd (hfirst a ha') hlt.not_gt
        · exact (ih hrest ha' hb').cons _

theorem lt_of_pair_sublist (hl : l.Pairwise fun a b => key a < key b)
    (h : [a, b].Sublist l) : key a < key b :=
  List.rel_of_pairwise_cons (hl.sublist h) (List.mem_singleton_self b)

end Sorted

section Moves

variable {α : Type} [LinearOrder α] {read : Tally → α} {r : Registry} (hids : r.ids.Nodup)
  (f : Fault) (codeContext : String) (learned : Option String) (id : String)

include hids

/-- A try moves no strategy but its own. -/
theorem record_moves_only (success : Bool) :
    MovesOnly id (r.prioritizeBy read f codeContext learned)
      ((r.record id success).prioritizeBy read f codeContext learned) := by
  have hafter : (r.record id success).ids.Nodup := hids
  have hperm : ((r.record id success).prioritizeBy read f codeContext learned).Perm
      (r.prioritizeBy read f codeContext learned) := prioritize_by_perm rfl
  -- Without the strategy that was tried both lists are sorted by the same keys.
  have hsorted : ((r.prioritizeBy read f codeContext learned).filter (·.id ≠ id)).Pairwise
      fun a b => r.orderKey read f codeContext learned a <
        r.orderKey read f codeContext learned b :=
    (prioritize_by_pairwise hids).sublist List.filter_sublist
  have hstays : (((r.record id success).prioritizeBy read f codeContext learned).filter
      (·.id ≠ id)).Pairwise fun a b => r.orderKey read f codeContext learned a <
        r.orderKey read f codeContext learned b := by
    refine ((prioritize_by_pairwise hafter).sublist List.filter_sublist).imp_of_mem
      fun {a b} ha hb hlt => ?_
    have ha : a.id ≠ id := by simpa using (List.mem_filter.mp ha).2
    have hb : b.id ≠ id := by simpa using (List.mem_filter.mp hb).2
    rwa [order_key_record_other ha, order_key_record_other hb] at hlt
  exact ⟨hperm, (hperm.filter _).eq_of_pairwise
    (fun a b _ _ hab hba => absurd hba hab.not_gt) hstays hsorted⟩

/-- A strategy does not stand next to itself. -/
theorem ids_ne_of_pair {s t : Strategy}
    (h : [s, t].Sublist (r.prioritizeBy read f codeContext learned)) : t.id ≠ s.id := by
  intro heq
  have hs := mem_of_mem_prioritize_by hids (h.subset List.mem_cons_self)
  have ht := mem_of_mem_prioritize_by hids (h.subset (List.mem_cons_of_mem _ List.mem_cons_self))
  have hlt := lt_of_pair_sublist (r.orderKey read f codeContext learned)
    (prioritize_by_pairwise hids) h
  rw [List.inj_on_of_nodup_map hids ht hs heq] at hlt
  exact lt_irrefl _ hlt

/-- After a try, too, strategies stand in the order of their keys. -/
theorem pair_sublist_record {s t : Strategy} (success : Bool)
    (hpair : [s, t].Sublist (r.prioritizeBy read f codeContext learned))
    (hlt : (r.record id success).orderKey read f codeContext learned s <
      (r.record id success).orderKey read f codeContext learned t) :
    [s, t].Sublist ((r.record id success).prioritizeBy read f codeContext learned) := by
  have hafter : (r.record id success).ids.Nodup := hids
  have hmem : ∀ u ∈ [s, t], u ∈ (r.record id success).prioritizeBy read f codeContext learned :=
    fun u hu => (record_moves_only hids f codeContext learned id success).members.mem_iff.mpr
      (hpair.subset hu)
  exact pair_sublist_of_lt ((r.record id success).orderKey read f codeContext learned)
    (prioritize_by_pairwise hafter) (hmem s (by simp)) (hmem t (by simp)) hlt

variable (hheeds : Tally.Heeds read)
  (hsound : (r.tally id).successes ≤ (r.tally id).attempts)

include hheeds hsound

/-- A success moves a strategy towards the head. -/
theorem success_rises : Rises id (r.prioritizeBy read f codeContext learned)
    ((r.record id true).prioritizeBy read f codeContext learned) := by
  refine ⟨record_moves_only hids f codeContext learned id true, fun s t hs hpair => ?_⟩
  subst hs
  refine pair_sublist_record hids f codeContext learned s.id true hpair ?_
  have hup : read (r.tally s.id) ≤ read ((r.record s.id true).tally s.id) := by
    rw [tally_record, if_pos rfl]
    exact hheeds.success _ hsound
  calc (r.record s.id true).orderKey read f codeContext learned s
      ≤ r.orderKey read f codeContext learned s := order_key_le rfl hup
    _ < r.orderKey read f codeContext learned t :=
        lt_of_pair_sublist (r.orderKey read f codeContext learned)
          (prioritize_by_pairwise hids) hpair
    _ = (r.record s.id true).orderKey read f codeContext learned t :=
        (order_key_record_other (ids_ne_of_pair hids f codeContext learned hpair) true).symm

/-- A failure moves a strategy towards the end. -/
theorem failure_falls : Falls id (r.prioritizeBy read f codeContext learned)
    ((r.record id false).prioritizeBy read f codeContext learned) := by
  refine ⟨record_moves_only hids f codeContext learned id false, fun s t hs hpair => ?_⟩
  subst hs
  refine pair_sublist_record hids f codeContext learned s.id false hpair ?_
  have hdown : read ((r.record s.id false).tally s.id) ≤ read (r.tally s.id) := by
    rw [tally_record, if_pos rfl]
    exact hheeds.failure _ hsound
  calc (r.record s.id false).orderKey read f codeContext learned t
      = r.orderKey read f codeContext learned t :=
        order_key_record_other (ids_ne_of_pair hids f codeContext learned hpair).symm false
    _ < r.orderKey read f codeContext learned s :=
        lt_of_pair_sublist (r.orderKey read f codeContext learned)
          (prioritize_by_pairwise hids) hpair
    _ ≤ (r.record s.id false).orderKey read f codeContext learned s :=
        order_key_le rfl hdown

end Moves

/-- In a registry that any operations have led to, a success moves a strategy towards the head of
the strategies to try, a failure towards their end, and nothing else changes in the order. That is
so when shares of successes are compared as doubles, and when they are compared exactly. -/
theorem feedback_moves_strategy (ops : List Operation) (f : Fault) (codeContext : String)
    (learned : Option String) (id : String) :
    let r := ofOperations ops
    let order (r : Registry) := r.prioritize f codeContext learned
    let exactOrder (r : Registry) := r.prioritizeBy Tally.share f codeContext learned
    (Rises id (order r) (order (r.record id true)) ∧
      Falls id (order r) (order (r.record id false))) ∧
    (Rises id (exactOrder r) (exactOrder (r.record id true)) ∧
      Falls id (exactOrder r) (exactOrder (r.record id false))) := by
  intro r order exactOrder
  have hids : r.ids.Nodup := ids_nodup ops
  have hsound : (r.tally id).successes ≤ (r.tally id).attempts := by
    rw [tally_of_operations]
    exact Nat.le_add_left _ _
  have hrounded := Tally.rounded_share_heeds
  have hexact := Tally.share_heeds
  exact ⟨⟨success_rises hids f codeContext learned id hrounded hsound,
      failure_falls hids f codeContext learned id hrounded hsound⟩,
    success_rises hids f codeContext learned id hexact hsound,
    failure_falls hids f codeContext learned id hexact hsound⟩

end Registry

end Mender
