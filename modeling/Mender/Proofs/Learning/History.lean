import Mathlib.Data.Finset.Card
import Mender.Proofs.Host.Site
import Mender.Proofs.Learning.Feedback

/-!
# The history of a learning store

A store forgets what it learned long ago. Its history is what it would hold if it forgot nothing,
and `LearningStore.run_remembers` says that after any operations it holds the latest of its history:
all of it, or at least as much as half of the cap. So an error is known by the strategy that fixed
it last as long as few other errors were learned since (`LearningStore.run_learns_by_recency`).
-/

namespace Mender

open LearnedEntry (index Distinct)

/-- Of all that was entered in a list that is cut the latest is kept. -/
structure KeepsLatest {α : Type} (limit : Int) (all kept : List α) : Prop where
  latest : kept <:+ all
  half : kept = all ∨ limit / 2 ≤ kept.length
  bounded : 2 ≤ limit → kept.length ≤ limit
  /-- Half of such a limit is nothing, and then nothing is cut off. -/
  unbounded : limit < 2 → kept = all

namespace KeepsLatest

variable {α : Type} {limit : Int} {all kept : List α}

theorem nil : KeepsLatest limit ([] : List α) [] :=
  ⟨List.suffix_rfl, .inl rfl, fun h => by simp only [List.length_nil]; omega, fun _ => rfl⟩

/-- A cut leaves the latest. -/
theorem capped (hlimit : 0 ≤ limit) (hlatest : kept <:+ all)
    (hhalf : kept = all ∨ limit / 2 ≤ kept.length) (hall : limit < 2 → kept = all) :
    KeepsLatest limit all (LearningStore.capped limit kept) := by
  refine ⟨(LearningStore.capped_suffix limit kept).trans hlatest, ?_, ?_, ?_⟩
  all_goals unfold LearningStore.capped onwards; split
  · refine .inr ?_
    rw [List.length_drop, place]
    split <;> omega
  · exact hhalf
  · intro hlarge
    rw [List.length_drop, place_of_neg (by omega)]
    omega
  · omega
  · intro hsmall
    rw [place_of_nonneg (by omega), show -(limit / 2) = 0 by omega]
    exact hall hsmall
  · exact hall

/-- A further entry at the end. -/
theorem concat (h : KeepsLatest limit all kept) (hlimit : 0 ≤ limit) (x : α) :
    KeepsLatest limit (all ++ [x]) (LearningStore.capped limit (kept ++ [x])) := by
  have hlatest : kept ++ [x] <:+ all ++ [x] := by
    obtain ⟨older, rfl⟩ := h.latest
    exact ⟨older, (List.append_assoc _ _ _).symm⟩
  refine capped hlimit hlatest ?_ fun hsmall => by rw [h.unbounded hsmall]
  rcases h.half with rfl | hmost
  · exact .inl rfl
  · exact .inr (by rw [List.length_append]; omega)

/-- What few entries followed is kept. -/
theorem mem_of_recent {older newer : List α} {x : α}
    (h : KeepsLatest limit (older ++ x :: newer) kept) (hrecent : newer.length < limit / 2) :
    x ∈ kept := by
  rcases h.half with rfl | hmost
  · simp
  · have hsuffix : x :: newer <:+ kept :=
      List.suffix_of_suffix_length_le ⟨older, rfl⟩ h.latest (by rw [List.length_cons]; omega)
    exact hsuffix.subset List.mem_cons_self

/-- An entry that is learned takes the place of what its signature had before. -/
theorem learn {all kept : List LearnedEntry} (h : KeepsLatest limit all kept) (hlimit : 0 ≤ limit)
    (hdistinct : Distinct all) (e : LearnedEntry) :
    KeepsLatest limit (LearnedEntry.learn all e)
      (LearningStore.capped limit (LearnedEntry.learn kept e)) := by
  have hlatest : LearnedEntry.learn kept e <:+ LearnedEntry.learn all e := by
    obtain ⟨older, rfl⟩ := h.latest
    rw [LearnedEntry.learn, LearnedEntry.learn, List.filter_append]
    exact ⟨_, (List.append_assoc _ _ _).symm⟩
  refine capped hlimit hlatest ?_ fun hsmall => by rw [h.unbounded hsmall]
  rcases h.half with rfl | hmost
  · exact .inl rfl
  · have := (hdistinct.sublist h.latest.sublist).length_le_learn e
    exact .inr (by omega)

end KeepsLatest

/-- What there was to remember since a store was last cleared. -/
structure History where
  /-- The errors whose fixes became known, each once, the one learned last at the end. -/
  learned : List LearnedEntry := []
  records : List LearningRecord := []
  failures : List (String × String) := []

namespace LearningStore

/-- What can be asked of a store. -/
inductive Operation where
  | success (f : Fault) (p : Patch) (failed : List Patch) (codeContext : String)
  | failure (f : Fault) (p : Patch)
  | lookup (message : String)
  | clear

namespace Operation

/-- The store after an operation. -/
def after (s : LearningStore) : Operation → LearningStore
  | success f p failed codeContext => s.recordSuccess f p failed codeContext
  | failure f p => s.recordFailure f p
  | lookup _ => s
  | clear => s.clear

/-- What a success teaches about its error. -/
def entry (f : Fault) (p : Patch) : LearnedEntry :=
  ⟨Signature.ofMessage f.message, Signature.normalized f.message, p.strategy⟩

/-- A history with one more operation. -/
def extend (h : History) : Operation → History
  | success f p failed codeContext =>
    { h with
      learned := LearnedEntry.learn h.learned (entry f p)
      records := h.records ++ [⟨f, p, failed,
        textOr codeContext (f.location.snippet.getD ""), fileType f.location.file⟩] }
  | failure f p => { h with failures := h.failures ++ [failureEntry f p] }
  | lookup _ => h
  | clear => {}

/-- The signature of the error whose fix becomes known. -/
def signature? : Operation → Option String
  | success f _ _ _ => some (Signature.ofMessage f.message)
  | _ => none

end Operation

/-- The store after operations. -/
def run (s : LearningStore) (ops : List Operation) : LearningStore :=
  ops.foldl Operation.after s

/-- The history of operations. -/
def historyOf (ops : List Operation) : History :=
  ops.foldl Operation.extend {}

/-- The signatures of the errors whose fixes became known. -/
def learnedBy (ops : List Operation) : List String :=
  ops.filterMap Operation.signature?

/-- A store holds the latest of a history. -/
structure Remembers (h : History) (s : LearningStore) : Prop where
  distinct : Distinct h.learned
  /-- Both indices are about the same entries. -/
  known : ∃ kept, KeepsLatest s.cap h.learned kept ∧
    s.strategies = index (·.strategy) kept ∧ s.messages = index (·.message) kept
  records : KeepsLatest s.cap h.records s.records
  failures : KeepsLatest s.cap h.failures s.failures

theorem Remembers.empty (cap : Int) (threshold : Float) : Remembers {} { cap, threshold } :=
  ⟨List.nodup_nil, ⟨[], .nil, rfl, rfl⟩, .nil, .nil⟩

/-- An operation keeps the cap. -/
theorem Operation.after_cap (s : LearningStore) (op : Operation) : (op.after s).cap = s.cap := by
  cases op <;> rfl

/-- What holds of a store and its history holds after one more operation. -/
theorem Remembers.after {h : History} {s : LearningStore} (hs : Remembers h s) (hcap : 0 ≤ s.cap)
    (op : Operation) : Remembers (op.extend h) (op.after s) := by
  cases op with
  | success f p failed codeContext =>
      obtain ⟨kept, hkept, hstrategies, hmessages⟩ := hs.known
      have hdistinct := (hs.distinct.sublist hkept.latest.sublist).learn (Operation.entry f p)
      have hs₁ : s.strategies.enter (Signature.ofMessage f.message) p.strategy =
          index (·.strategy) (LearnedEntry.learn kept (Operation.entry f p)) :=
        hstrategies ▸ LearnedEntry.index_enter _ kept (Operation.entry f p)
      have hm₁ : s.messages.enter (Signature.ofMessage f.message)
          (Signature.normalized f.message) =
            index (·.message) (LearnedEntry.learn kept (Operation.entry f p)) :=
        hmessages ▸ LearnedEntry.index_enter _ kept (Operation.entry f p)
      refine ⟨hs.distinct.learn _, ⟨_, hkept.learn hcap hs.distinct (Operation.entry f p), ?_, ?_⟩,
        hs.records.concat hcap _, hs.failures⟩
      · rw [Operation.after, recordSuccess, hs₁, LearnedEntry.index_signatures]
        exact LearnedEntry.index_cut hdistinct s.cap
      · rw [Operation.after, recordSuccess, hs₁, hm₁, LearnedEntry.index_signatures]
        exact LearnedEntry.index_cut hdistinct s.cap
  | failure f p =>
      exact ⟨hs.distinct, hs.known, hs.records, hs.failures.concat hcap _⟩
  | lookup message => exact hs
  | clear => exact .empty s.cap s.threshold

/-- After operations a store holds the latest of its history. -/
theorem run_remembers {cap : Int} (hcap : 0 ≤ cap) (threshold : Float) (ops : List Operation) :
    (run { cap, threshold } ops).cap = cap ∧
      Remembers (historyOf ops) (run { cap, threshold } ops) := by
  induction ops using List.reverseRecOn with
  | nil => exact ⟨rfl, .empty cap threshold⟩
  | append_singleton ops op ih =>
      obtain ⟨hsame, hs⟩ := ih
      rw [run, historyOf, List.foldl_concat, List.foldl_concat, ← run, ← historyOf]
      exact ⟨(Operation.after_cap _ op).trans hsame, hs.after (hcap.trans_eq hsame.symm) op⟩

/-- What is in a history was learned by a success after which the store was not cleared. -/
theorem learned_of_success {ops : List Operation} {e : LearnedEntry}
    (he : e ∈ (historyOf ops).learned) :
    ∃ before f p failed codeContext after,
      ops = before ++ .success f p failed codeContext :: after ∧ .clear ∉ after ∧
        e = Operation.entry f p := by
  induction ops using List.reverseRecOn with
  | nil => cases he
  | append_singleton ops op ih =>
      rw [historyOf, List.foldl_concat, ← historyOf] at he
      -- learned before the last operation, and that was not to clear the store
      have hearlier : e ∈ (historyOf ops).learned → .clear ≠ op →
          ∃ before f p failed codeContext after,
            ops ++ [op] = before ++ .success f p failed codeContext :: after ∧ .clear ∉ after ∧
              e = Operation.entry f p := by
        intro he hop
        obtain ⟨before, f, p, failed, codeContext, after, rfl, hclear, heq⟩ := ih he
        exact ⟨before, f, p, failed, codeContext, after ++ [op], by simp, by simp [hclear, hop],
          heq⟩
      cases op with
      | success f p failed codeContext =>
          rcases List.mem_append.mp he with he | he
          · exact hearlier (List.mem_filter.mp he).1 nofun
          · exact ⟨ops, f, p, failed, codeContext, [], rfl, List.not_mem_nil,
              List.mem_singleton.mp he⟩
      | failure | lookup => exact hearlier he nofun
      | clear => cases he

/-- An entry stays in a history until its signature is learned again or the store is cleared. What
is learned meanwhile comes after it. -/
theorem history_keeps {h : History} {older newer : List LearnedEntry} {e : LearnedEntry}
    (hlearned : h.learned = older ++ e :: newer) {ops : List Operation} (hclear : .clear ∉ ops)
    (hother : e.signature ∉ learnedBy ops) :
    ∃ older' newer', (ops.foldl Operation.extend h).learned = older' ++ e :: newer' ∧
      newer'.map (·.signature) ⊆ newer.map (·.signature) ++ learnedBy ops := by
  induction ops generalizing h older newer with
  | nil => exact ⟨older, newer, hlearned, by simp [learnedBy]⟩
  | cons op ops ih =>
      obtain ⟨hop, hclears⟩ := not_or.mp (mt List.mem_cons.mpr hclear)
      cases op with
      | success f p failed codeContext =>
          obtain ⟨hnew, hothers⟩ := not_or.mp (mt List.mem_cons.mpr hother)
          have hlearned' : (Operation.extend h (.success f p failed codeContext)).learned =
              older.filter (·.signature ≠ (Operation.entry f p).signature) ++ e ::
                LearnedEntry.learn newer (Operation.entry f p) :=
            (congrArg (LearnedEntry.learn · _) hlearned).trans (LearnedEntry.learn_other hnew)
          obtain ⟨older', newer', hkept, hsince⟩ := ih hlearned' hclears hothers
          refine ⟨older', newer', hkept, fun signature hmem => ?_⟩
          rcases List.mem_append.mp (hsince hmem) with hnewer | hlater
          · rcases List.mem_append.mp (LearnedEntry.learn_signatures newer _ hnewer) with h | h
            · exact List.mem_append_left _ h
            · rw [List.mem_singleton.mp h]
              exact List.mem_append_right _ List.mem_cons_self
          · exact List.mem_append_right _ (List.mem_cons_of_mem _ hlater)
      | failure | lookup => exact ih hlearned hclears hother
      | clear => exact absurd rfl hop

/-- An error that was learned is known by its entry when fewer others than fit in half of the cap
were learned since. -/
theorem lookup_of_recent {cap : Int} (hcap : 0 ≤ cap) (threshold : Float)
    {before after : List Operation} {f : Fault} {p : Patch} {failed : List Patch}
    {codeContext : String} (hclear : .clear ∉ after)
    (hother : Signature.ofMessage f.message ∉ learnedBy after)
    (hrecent : (learnedBy after).toFinset.card < cap / 2) {message : String}
    (hmessage : Signature.ofMessage message = Signature.ofMessage f.message) :
    (run { cap, threshold } (before ++ .success f p failed codeContext :: after)).lookup message =
      some p.strategy := by
  obtain ⟨hsame, hs⟩ := run_remembers hcap threshold
    (before ++ .success f p failed codeContext :: after)
  generalize run { cap, threshold } (before ++ .success f p failed codeContext :: after) = s at *
  obtain ⟨kept, hkept, hstrategies, _⟩ := hs.known
  have hstart : (Operation.extend (historyOf before) (.success f p failed codeContext)).learned =
      (historyOf before).learned.filter (·.signature ≠ Signature.ofMessage f.message) ++
        Operation.entry f p :: [] := rfl
  obtain ⟨older, newer, hlearned, hsince⟩ := history_keeps hstart hclear hother
  have hall : (historyOf (before ++ .success f p failed codeContext :: after)).learned =
      older ++ Operation.entry f p :: newer := by
    rw [historyOf, List.foldl_append]
    exact hlearned
  have hdistinct := hs.distinct
  rw [hall] at hkept hdistinct
  -- each entry since has a signature of its own, learned since
  have hfew : newer.length ≤ (learnedBy after).toFinset.card := by
    have hnodup : Distinct newer :=
      hdistinct.sublist ((List.sublist_cons_self _ _).trans (List.sublist_append_right _ _))
    calc newer.length = (newer.map (·.signature)).toFinset.card := by
          rw [List.toFinset_card_of_nodup hnodup, List.length_map]
      _ ≤ (learnedBy after).toFinset.card :=
          Finset.card_le_card fun _ h => List.mem_toFinset.mpr (hsince (List.mem_toFinset.mp h))
  have hmem : Operation.entry f p ∈ kept := hkept.mem_of_recent (by omega)
  have hfound : (index (·.strategy) kept).get? (Operation.entry f p).signature =
      some (Operation.entry f p).strategy :=
    LearnedEntry.index_get (hdistinct.sublist hkept.latest.sublist) hmem
  rw [lookup, hmessage, hstrategies, show Signature.ofMessage f.message =
    (Operation.entry f p).signature from rfl, hfound]
  rfl

/-- Whatever is asked of a store, its two indices are about the same errors in the same order, and
each of these was learned from a message whose normalized text is kept for it. An error is known by
the strategy that fixed it last, as long as fewer others than fit in half of the cap were learned
since, and a strategy that is known to fix a fault comes before all others of a registry. -/
theorem run_learns_by_recency {cap : Int} (hcap : 2 ≤ cap) (threshold : Float)
    (ops : List Operation) :
    let s := run { cap, threshold } ops
    s.strategies.signatures = s.messages.signatures ∧ s.strategies.signatures.Nodup ∧
    (∀ e ∈ s.messages, ∃ before f p failed codeContext after,
      ops = before ++ .success f p failed codeContext :: after ∧ .clear ∉ after ∧
        e = (Signature.ofMessage f.message, Signature.normalized f.message)) ∧
    ∀ before f p failed codeContext after,
      ops = before ++ .success f p failed codeContext :: after → .clear ∉ after →
      Signature.ofMessage f.message ∉ learnedBy after →
      (learnedBy after).toFinset.card < cap / 2 →
      ∀ message, Signature.ofMessage message = Signature.ofMessage f.message →
        s.lookup message = some p.strategy ∧
        ∀ (r : Registry) strategy, r.get? p.strategy = some strategy →
          ∀ fault context, fault.message = message →
            (r.prioritize fault context (s.lookup fault.message)).head? = some strategy := by
  intro s
  obtain ⟨_, hs⟩ := run_remembers (by omega : 0 ≤ cap) threshold ops
  obtain ⟨kept, hkept, hstrategies, hmessages⟩ := hs.known
  have hdistinct := hs.distinct.sublist hkept.latest.sublist
  have hsignatures : s.strategies.signatures = kept.map (·.signature) := by
    rw [hstrategies, LearnedEntry.index_signatures]
  refine ⟨?_, hsignatures ▸ hdistinct, fun e he => ?_, ?_⟩
  · rw [hsignatures, hmessages, LearnedEntry.index_signatures]
  · rw [hmessages] at he
    obtain ⟨entry, hentry, rfl⟩ := List.mem_map.mp he
    obtain ⟨before, f, p, failed, codeContext, after, hops, hclear, rfl⟩ :=
      learned_of_success (hkept.latest.subset hentry)
    exact ⟨before, f, p, failed, codeContext, after, hops, hclear, rfl⟩
  · intro before f p failed codeContext after hops hclear hother hrecent message hmessage
    have hknown : s.lookup message = some p.strategy := by
      subst hops
      exact lookup_of_recent (by omega) threshold hclear hother hrecent hmessage
    refine ⟨hknown, fun r strategy hget fault context hfault => ?_⟩
    rw [hfault, hknown, Registry.prioritize, Option.bind_some, hget]
    rfl

/-- One of two errors that were learned, in a store for four. Its message at another place is known
too, and the strategy that fixed it comes first, in a registry where no other sign speaks for it. -/
theorem run_learns_two_errors :
    let wrong : Operation := .success (.ofFirstLine "a.py") (.ofFirstLine "a.py" "x = 2") [] ""
    let other : Operation := .success { Fault.ofFirstLine "a.py" with message := "no value" }
      { Patch.ofFirstLine "a.py" "x = 3" with strategy := "guard_value" } [] ""
    let s := run { cap := 4, threshold := 0.75 } [wrong, other]
    let replaceLine : Strategy :=
      { id := "replace_line", description := "Replace the line", patterns := [], fixes := [] }
    s.lookup "Wrong value:3:1" = some "replace_line" ∧
      ((Registry.ofList [replaceLine]).prioritize
        { Fault.ofFirstLine "a.py" with message := "Wrong value:3:1" } ""
        (s.lookup "Wrong value:3:1")).head? = some replaceLine := by
  intro wrong other s replaceLine
  obtain ⟨_, _, _, hrecent⟩ := run_learns_by_recency (show (2 : Int) ≤ 4 by decide) 0.75
    [wrong, other]
  obtain ⟨hknown, hfirst⟩ := hrecent [] _ _ _ _ [other] rfl (by simp [other]) (by decide +kernel)
    (by decide +kernel) "Wrong value:3:1" (by decide +kernel)
  exact ⟨hknown, hfirst (.ofList [replaceLine]) replaceLine rfl _ "" rfl⟩

end LearningStore

end Mender
